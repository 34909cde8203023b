import Mathlib.Data.List.DropRight
import ReadingLog.Text.Basic

/-!
# Trimmed pieces of text

Trimming and cutting into lines give contiguous pieces of a text. A trimmed piece stays as it is when trimmed again, and a
line has no line feed in it.
-/

namespace ReadingLog.Text

theorem contains_iff {piece s : Text} : contains piece s ↔ piece <:+: s := by
  induction s with
  | nil => simp [contains, List.isEmpty_iff]
  | cons c s ih => simp [contains, List.infix_cons_iff, ih]

/-- Two different characters in a row are found where they first stand. -/
theorem splitOnce?_append {a b : Char} (differ : a ≠ b) {before : Text} (absent : ¬ [a, b] <:+: before) (after : Text) :
    splitOnce? [a, b] (before ++ ([a, b] ++ after)) = some (before, after) := by
  induction before with
  | nil =>
    have here : [a, b].isPrefixOf? (a :: b :: after) = some after := List.isPrefixOf?_eq_some_iff_append_eq.2 rfl
    simp [splitOnce?, here]
  | cons c before ih =>
    have later : ¬ [a, b] <:+: before := fun inside => absent (List.infix_cons inside)
    have not_here : [a, b].isPrefixOf? (c :: (before ++ ([a, b] ++ after))) = none := by
      rw [Option.eq_none_iff_forall_ne_some]
      intro rest found
      have spelled : [a, b] ++ rest = c :: (before ++ ([a, b] ++ after)) := List.isPrefixOf?_eq_some_iff_append_eq.1 found
      obtain ⟨rfl, next⟩ := List.cons.inj spelled
      cases before with
      | nil => exact differ (List.cons.inj next).1.symm
      | cons d before =>
        obtain ⟨rfl, -⟩ := List.cons.inj next
        exact absent (List.prefix_append [a, b] before).isInfix
    rw [List.cons_append, splitOnce?, not_here, ih later]
    rfl

/-! ## Runs of characters -/

section
variable {p : Char → Bool} {s rest : Text}

theorem takeWhile_append_of_ends (all : ∀ c ∈ s, p c) (ends : ∀ c ∈ rest.head?, ¬ p c) : (s ++ rest).takeWhile p = s := by
  have stops : rest.takeWhile p = [] := by
    cases rest with
    | nil => rfl
    | cons c rest => exact List.takeWhile_cons_of_neg (ends c rfl)
  rw [List.takeWhile_append_of_pos all, stops, List.append_nil]

theorem dropWhile_append_of_ends (all : ∀ c ∈ s, p c) (ends : ∀ c ∈ rest.head?, ¬ p c) : (s ++ rest).dropWhile p = rest := by
  have parts := List.takeWhile_append_dropWhile (p := p) (l := s ++ rest)
  rw [takeWhile_append_of_ends all ends] at parts
  exact List.append_cancel_left parts

end

/-! ## Trimming -/

theorem trimStart_suffix (s : Text) : s.trimStart <:+ s := List.dropWhile_suffix _

theorem trimEnd_isPrefix (s : Text) : s.trimEnd <+: s := List.rdropWhile_prefix _ s

theorem trim_isInfix (s : Text) : s.trim <:+: s :=
  (trimEnd_isPrefix s.trimStart).isInfix.trans (trimStart_suffix s).isInfix

theorem trimEnd_trimEnd (s : Text) : s.trimEnd.trimEnd = s.trimEnd := List.rdropWhile_idempotent _ _

/-- A text that begins with no white space keeps its first character when its end is trimmed. -/
theorem trimStart_of_prefix {s t : Text} (start : s <+: t) (bare : t.trimStart = t) : s.trimStart = s := by
  rw [trimStart, List.dropWhile_eq_self_iff] at bare ⊢
  intro nonempty
  obtain ⟨rest, rfl⟩ := start
  have first := bare (by simp; omega)
  rwa [List.getElem_append_left nonempty] at first

@[simp] theorem trim_trim (s : Text) : s.trim.trim = s.trim := by
  have bare : s.trim.trimStart = s.trim :=
    trimStart_of_prefix (trimEnd_isPrefix _) (List.dropWhile_idempotent _ _)
  rw [trim, bare, trim, trimEnd_trimEnd]

/-- A text with no white space at its ends is trimmed. -/
theorem trim_of_bare_ends {s : Text} (first : ∀ c ∈ s.head?, ¬ isBlank c) (last : ∀ c ∈ s.getLast?, ¬ isBlank c) :
    s.trim = s := by
  have start : s.trimStart = s := by
    cases s with
    | nil => rfl
    | cons c s => exact List.dropWhile_cons_of_neg (first c rfl)
  rw [trim, start, trimEnd]
  cases turned : s.reverse with
  | nil => exact (List.reverse_eq_nil_iff.1 turned).symm
  | cons c rest =>
    have inked : ¬ isBlank c := last c (by rw [← List.head?_reverse, turned]; rfl)
    rw [List.dropWhile_cons_of_neg inked, ← turned, List.reverse_reverse]

/-- White space around a text that has none at its ends is what trimming takes away. -/
theorem trim_surrounded {before s after : Text} (blank : ∀ c ∈ before, isBlank c) (blank' : ∀ c ∈ after, isBlank c)
    (first : ∃ c ∈ s.head?, ¬ isBlank c) (last : ∃ c ∈ s.getLast?, ¬ isBlank c) : trim (before ++ (s ++ after)) = s := by
  obtain ⟨c, starts, inked⟩ := first
  obtain ⟨d, ends, inked'⟩ := last
  have front : (before ++ (s ++ after)).dropWhile isBlank = s ++ after := by
    refine dropWhile_append_of_ends blank fun x head => ?_
    rw [List.head?_append, starts] at head
    obtain rfl := Option.some.inj head
    exact inked
  have back : (after.reverse ++ s.reverse).dropWhile isBlank = s.reverse := by
    refine dropWhile_append_of_ends (fun x member => blank' x (List.mem_reverse.1 member)) fun x head => ?_
    rw [List.head?_reverse, ends] at head
    obtain rfl := Option.some.inj head
    exact inked'
  rw [trim, trimStart, front, trimEnd, List.reverse_append, back, List.reverse_reverse]

theorem trimStart_of_trimmed {s : Text} (trimmed : s.trim = s) : s.trimStart = s := by
  have whole : s.length ≤ s.trimStart.length := by
    have short := (trimEnd_isPrefix s.trimStart).length_le
    rwa [← trim, trimmed] at short
  exact (trimStart_suffix s).eq_of_length_le whole

theorem trimStart_trimStart (s : Text) : s.trimStart.trimStart = s.trimStart := List.dropWhile_idempotent _ _

/-- Nothing is left of white space alone. -/
theorem trim_eq_nil_iff {s : Text} : s.trim = [] ↔ ∀ c ∈ s, isBlank c := by
  constructor
  · intro nothing
    have rest : ∀ c ∈ s.trimStart, isBlank c := List.rdropWhile_eq_nil_iff.1 nothing
    have start : s.trimStart = [] := by
      rw [← trimStart_trimStart]
      exact List.dropWhile_eq_nil_iff.2 rest
    exact List.dropWhile_eq_nil_iff.1 start
  · intro blank
    have start : s.trimStart = [] := List.dropWhile_eq_nil_iff.2 blank
    rw [trim, start]
    rfl

theorem trimStart_append {s : Text} (nonempty : s ≠ []) (bare : ∀ c ∈ s, ¬ isBlank c) (t : Text) :
    trimStart (s ++ t) = s ++ t := by
  cases s with
  | nil => exact absurd rfl nonempty
  | cons c s => exact List.dropWhile_cons_of_neg (bare c List.mem_cons_self)

/-- The characters that are no white space. -/
def solid (s : Text) : Text := s.filter (!isBlank ·)

theorem solid_append (s t : Text) : solid (s ++ t) = solid s ++ solid t := List.filter_append ..

theorem solid_eq_self {s : Text} (bare : ∀ c ∈ s, ¬ isBlank c) : solid s = s :=
  List.filter_eq_self.2 fun c member => by simp [bare c member]

theorem solid_trimStart (s : Text) : solid s.trimStart = solid s := by
  induction s with
  | nil => rfl
  | cons c s ih =>
    by_cases blank : isBlank c
    · have dropped : solid (c :: s) = solid s := List.filter_cons_of_neg (by simp [blank])
      rw [trimStart, List.dropWhile_cons_of_pos blank, dropped]
      exact ih
    · rw [trimStart, List.dropWhile_cons_of_neg blank]

theorem head?_trimStart (s : Text) : s.trimStart.head? = s.solid.head? := by
  induction s with
  | nil => rfl
  | cons c s ih =>
    by_cases blank : isBlank c
    · have dropped : solid (c :: s) = solid s := List.filter_cons_of_neg (by simp [blank])
      rw [trimStart, List.dropWhile_cons_of_pos blank, dropped]
      exact ih
    · have kept : solid (c :: s) = c :: solid s := List.filter_cons_of_pos (by simp [blank])
      rw [trimStart, List.dropWhile_cons_of_neg blank, kept]
      rfl

/-! ## Lines -/

/-- Lines are contiguous pieces of the text, of the line begun before it included. -/
theorem infix_of_mem_linesFrom {pending s line : Text} (member : line ∈ linesFrom pending s) :
    line <:+: pending.reverse ++ s := by
  fun_induction linesFrom pending s with
  | case1 pending empty => simp at member
  | case2 pending more =>
    obtain rfl := List.mem_singleton.1 member
    exact (List.prefix_append ..).isInfix
  | case3 pending rest ih =>
    rcases List.mem_cons.1 member with rfl | later
    · split
      · exact ⟨[], '\r' :: '\n' :: rest, by simp⟩
      · exact ⟨[], '\n' :: rest, by simp⟩
    · exact (ih later).trans ((List.suffix_cons '\n' rest).trans (List.suffix_append ..)).isInfix
  | case4 pending c rest plain ih => simpa using ih member

theorem infix_of_mem_lines {s line : Text} (member : line ∈ lines s) : line <:+: s := infix_of_mem_linesFrom member

theorem unbroken_of_mem_linesFrom {pending s line : Text} (unbroken : '\n' ∉ pending) (member : line ∈ linesFrom pending s) :
    '\n' ∉ line := by
  fun_induction linesFrom pending s with
  | case1 pending empty => simp at member
  | case2 pending more => simpa [List.mem_singleton.1 member] using unbroken
  | case3 pending rest ih =>
    rcases List.mem_cons.1 member with rfl | later
    · split
      · simp only [List.mem_cons, not_or] at unbroken
        simpa using unbroken.2
      · simpa using unbroken
    · exact ih (by simp) later
  | case4 pending c rest plain ih => exact ih (by simp [unbroken, Ne.symm plain]) member

/-- A line has no line feed in it. -/
theorem unbroken_of_mem_lines {s line : Text} (member : line ∈ lines s) : '\n' ∉ line :=
  unbroken_of_mem_linesFrom (by simp) member

end ReadingLog.Text
