import Mathlib.Data.List.Forall2
import ReadingLog.Template.Segment

/-!
# The grammar of a template

Which texts follow a template is said without searching: `Splits` asks for pieces that fit the segments and make up the text.
`Precedes` orders the splits of a text, and the split that a search finds is the first of all.
-/

namespace ReadingLog.Template.Segment

/-! ## Splits and their order -/

/-- A run of at least one decimal digit. -/
def IsNumeral (piece : Text) : Prop := piece ≠ [] ∧ ∀ c ∈ piece, Text.isScriptDigit c

/-- A piece of text can stand for a segment. -/
def Fits : Segment → Text → Prop
  | literal text, piece => piece = text
  | slot .date, piece | slot .book, piece => piece ≠ [] ∧ '\n' ∉ piece
  | slot .anything, piece => '\n' ∉ piece
  | slot .startPage, piece | slot .endPage, piece => IsNumeral piece
  | slot .finish, piece => IsNumeral piece ∨ ∃ digits, IsNumeral digits ∧ piece = digits ++ ['%']

/-- The pieces fit the segments one by one and make up the text. -/
def Splits (segments : List Segment) (s : Text) (pieces : List Text) : Prop :=
  List.Forall₂ Fits segments pieces ∧ pieces.flatten = s

/-- A placeholder would rather have the first length: the shorter one, or for numbers the longer one. -/
def Prefers : Placeholder → Nat → Nat → Prop
  | .date, m, n | .book, m, n | .anything, m, n => m < n
  | .startPage, m, n | .endPage, m, n | .finish, m, n => n < m

/-- The first pieces come before the second ones: at the first place where they differ, the placeholder prefers theirs. -/
inductive Precedes : List Segment → List Text → List Text → Prop
  | here {p : Placeholder} {segments : List Segment} {piece piece' : Text} {pieces pieces' : List Text} :
    Prefers p piece.length piece'.length → Precedes (slot p :: segments) (piece :: pieces) (piece' :: pieces')
  | later {segment : Segment} {segments : List Segment} {piece : Text} {pieces pieces' : List Text} :
    Precedes segments pieces pieces' → Precedes (segment :: segments) (piece :: pieces) (piece :: pieces')

theorem Prefers.asymm {p : Placeholder} {m n : Nat} (first : Prefers p m n) : ¬ Prefers p n m := by
  cases p <;> simp only [Prefers] at * <;> omega

theorem Precedes.asymm {segments : List Segment} {pieces pieces' : List Text} (first : Precedes segments pieces pieces') :
    ¬ Precedes segments pieces' pieces := by
  induction first with
  | here preferred =>
    intro back
    cases back with
    | here preferred' => exact preferred.asymm preferred'
    | later _ => exact preferred.asymm preferred
  | later _ ih =>
    intro back
    cases back with
    | here preferred => exact preferred.asymm preferred
    | later ordered => exact ih ordered

/-! ## The lengths of a piece -/

theorem all_take_iff {p : Char → Bool} {s : Text} {n : Nat} (inside : n ≤ s.length) :
    (∀ c ∈ s.take n, p c) ↔ n ≤ (s.takeWhile p).length := by
  induction s generalizing n with
  | nil =>
    obtain rfl : n = 0 := by simpa using inside
    simp
  | cons c s ih =>
    cases n with
    | zero => simp
    | succ n =>
      have tail := ih (n := n) (by simpa using inside)
      by_cases first : p c
      · simp [first, tail]
      · simp [first]

theorem take_eq_nil_iff {s : Text} {n : Nat} (inside : n ≤ s.length) : s.take n = [] ↔ n = 0 := by
  rw [← List.length_eq_zero_iff, List.length_take_of_le inside]

theorem isNumeral_take_iff {s : Text} {n : Nat} (inside : n ≤ s.length) :
    IsNumeral (s.take n) ↔ 1 ≤ n ∧ n ≤ digitCount s := by
  rw [IsNumeral, all_take_iff inside, ne_eq, take_eq_nil_iff inside, digitCount]
  omega

theorem newline_notMem_take_iff {s : Text} {n : Nat} (inside : n ≤ s.length) :
    '\n' ∉ s.take n ↔ n ≤ lineLength s := by
  rw [lineLength, ← all_take_iff inside]
  simp only [bne_iff_ne, ne_eq]
  constructor
  · intro absent c member same
    exact absent (same ▸ member)
  · intro different member
    exact different _ member rfl

theorem not_isScriptDigit_percent : ¬ Text.isScriptDigit '%' := by decide

theorem takeWhile_numeral {digits rest : Text} {c : Char} (numeral : IsNumeral digits) (ends : ¬ Text.isScriptDigit c) :
    (digits ++ c :: rest).takeWhile Text.isScriptDigit = digits := by
  rw [List.takeWhile_append_of_pos numeral.2, List.takeWhile_cons_of_neg ends, List.append_nil]

theorem digitCount_signed {digits rest : Text} (numeral : IsNumeral digits) :
    digitCount (digits ++ '%' :: rest) = digits.length := by
  rw [digitCount, takeWhile_numeral numeral not_isScriptDigit_percent]

/-- A share is a number of the digits that there are, or all of them and a percent sign. -/
theorem fits_finish_take_iff {s : Text} {n : Nat} (inside : n ≤ s.length) :
    Fits (slot .finish) (s.take n) ↔
      1 ≤ n ∧ n ≤ digitCount s ∨ n = digitCount s + 1 ∧ digitCount s ≠ 0 ∧ (s.drop (digitCount s)).head? = some '%' := by
  rw [Fits, isNumeral_take_iff inside]
  refine or_congr Iff.rfl ?_
  constructor
  · rintro ⟨digits, numeral, signed⟩
    have whole : s = digits ++ '%' :: s.drop n := by
      rw [List.append_cons, ← signed, List.take_append_drop]
    have count : digitCount s = digits.length := by
      rw [whole]
      exact digitCount_signed numeral
    have length := congrArg List.length signed
    rw [List.length_take_of_le inside, List.length_append, List.length_singleton] at length
    refine ⟨by omega, ?_, ?_⟩
    · rw [count]
      exact fun none => numeral.1 (List.length_eq_zero_iff.1 none)
    · rw [count, whole, List.drop_left]
      rfl
  · rintro ⟨rfl, some, sign⟩
    refine ⟨s.take (digitCount s), (isNumeral_take_iff (by omega)).2 ⟨by omega, Nat.le_refl _⟩, ?_⟩
    rw [List.head?_drop] at sign
    rw [List.take_add_one, sign]
    rfl

/-- The lengths that a slot can take are those of the pieces that fit it. -/
theorem mem_lengths_iff {s : Text} {p : Placeholder} {n : Nat} :
    n ∈ lengths s p ↔ n ≤ s.length ∧ Fits (slot p) (s.take n) := by
  by_cases inside : n ≤ s.length
  · simp only [inside, true_and]
    cases p with
    | date | book =>
      rw [lengths, mem_upFrom, Fits, newline_notMem_take_iff inside, ne_eq, take_eq_nil_iff inside]
      omega
    | startPage | endPage => rw [lengths, mem_lengthsDown, Fits, isNumeral_take_iff inside]
    | finish =>
      rw [fits_finish_take_iff inside, lengths]
      split
      · next signed =>
        simp only [List.mem_cons, mem_lengthsDown, signed, ne_eq, not_false_eq_true, and_true]
        exact or_comm
      · next unsigned =>
        rw [mem_lengthsDown]
        tauto
    | anything =>
      rw [lengths, mem_upFrom, Fits, newline_notMem_take_iff inside]
      omega
  · simp only [inside, false_and, iff_false]
    exact fun member => inside (le_length_of_mem_lengths member)

theorem upFrom_ordered (low count : Nat) : (upFrom low count).Pairwise (· < ·) := by
  rw [upFrom, List.pairwise_map]
  exact List.pairwise_lt_range.imp fun ordered => Nat.add_lt_add_left ordered low

theorem lengthsDown_ordered (n : Nat) : (Text.lengthsDown n).Pairwise (· > ·) := by
  induction n with
  | zero => exact List.Pairwise.nil
  | succ n ih =>
    refine List.Pairwise.cons ?_ ih
    intro m member
    rw [mem_lengthsDown] at member
    omega

/-- The lengths stand in the order of preference. -/
theorem lengths_ordered (s : Text) (p : Placeholder) : (lengths s p).Pairwise (Prefers p) := by
  cases p with
  | date | book | anything => exact upFrom_ordered ..
  | startPage | endPage => exact lengthsDown_ordered _
  | finish =>
    rw [lengths]
    split
    · refine List.Pairwise.cons ?_ (lengthsDown_ordered _)
      intro m member
      rw [mem_lengthsDown] at member
      simp only [Prefers]
      omega
    · exact lengthsDown_ordered _

/-! ## Searching -/

theorem splits_nil_iff {s : Text} {pieces : List Text} : Splits [] s pieces ↔ s = [] ∧ pieces = [] := by
  rw [Splits, List.forall₂_nil_left_iff]
  constructor
  · rintro ⟨rfl, rfl⟩
    exact ⟨rfl, rfl⟩
  · rintro ⟨rfl, rfl⟩
    exact ⟨rfl, rfl⟩

/-- The first piece of a split begins the text, and the others split what follows it. -/
theorem splits_cons_iff {segment : Segment} {segments : List Segment} {s : Text} {pieces : List Text} :
    Splits (segment :: segments) s pieces ↔ ∃ n rest, n ≤ s.length ∧ Fits segment (s.take n) ∧
      Splits segments (s.drop n) rest ∧ pieces = s.take n :: rest := by
  constructor
  · rintro ⟨fitting, rfl⟩
    obtain ⟨piece, rest, fits, others, rfl⟩ := List.forall₂_cons_left_iff.1 fitting
    refine ⟨piece.length, rest, ?_⟩
    simp only [List.flatten_cons, List.take_left, List.drop_left, List.length_append]
    exact ⟨Nat.le_add_right .., fits, ⟨others, rfl⟩, trivial⟩
  · rintro ⟨n, rest, _, fits, ⟨others, whole⟩, rfl⟩
    refine ⟨List.Forall₂.cons fits others, ?_⟩
    rw [List.flatten_cons, whole, List.take_append_drop]

theorem splits_literal_iff {text : Text} {segments : List Segment} {s : Text} {pieces : List Text} :
    Splits (literal text :: segments) s pieces ↔
      text <+: s ∧ ∃ rest, Splits segments (s.drop text.length) rest ∧ pieces = text :: rest := by
  rw [splits_cons_iff]
  constructor
  · rintro ⟨n, rest, inside, rfl, others, rfl⟩
    rw [List.length_take_of_le inside]
    exact ⟨List.take_prefix n s, rest, others, rfl⟩
  · rintro ⟨starts, rest, others, rfl⟩
    have same := List.prefix_iff_eq_take.1 starts
    exact ⟨text.length, rest, starts.length_le, same.symm, others, by rw [← same]⟩

theorem splits_slot_iff {p : Placeholder} {segments : List Segment} {s : Text} {pieces : List Text} :
    Splits (slot p :: segments) s pieces ↔
      ∃ n ∈ lengths s p, ∃ rest, Splits segments (s.drop n) rest ∧ pieces = s.take n :: rest := by
  simp only [splits_cons_iff, mem_lengths_iff]
  constructor
  · rintro ⟨n, rest, inside, fits, others, rfl⟩
    exact ⟨n, ⟨inside, fits⟩, rest, others, rfl⟩
  · rintro ⟨n, ⟨inside, fits⟩, rest, others, rfl⟩
    exact ⟨n, rest, inside, fits, others, rfl⟩

/-- The search fails just on the texts that cannot be split. -/
theorem split?_eq_none_iff {segments : List Segment} {s : Text} :
    split? segments s = none ↔ ∀ pieces, ¬ Splits segments s pieces := by
  induction segments generalizing s with
  | nil =>
    simp only [split?, splits_nil_iff]
    cases s <;> simp
  | cons segment segments ih =>
    cases segment with
    | literal text =>
      simp only [split?, splits_literal_iff]
      split
      · next starts =>
        rw [Option.map_eq_none_iff, ih]
        constructor
        · rintro none _ ⟨_, rest, others, _⟩
          exact none rest others
        · intro none rest others
          exact none _ ⟨List.isPrefixOf_iff_prefix.1 starts, rest, others, rfl⟩
      · next differs =>
        simp only [true_iff]
        rintro _ ⟨starts, _⟩
        exact differs (List.isPrefixOf_iff_prefix.2 starts)
    | slot p =>
      simp only [split?, splits_slot_iff, List.findSome?_eq_none_iff, Option.map_eq_none_iff, ih]
      constructor
      · rintro none _ ⟨n, member, rest, others, _⟩
        exact none n member rest others
      · intro none n member rest others
        exact none _ ⟨n, member, rest, others, rfl⟩

/-- Where there is a split, the search finds one. -/
theorem exists_split? {segments : List Segment} {s : Text} {pieces : List Text} (splits : Splits segments s pieces) :
    ∃ found, split? segments s = some found := by
  cases search : split? segments s with
  | none => exact absurd splits (split?_eq_none_iff.1 search pieces)
  | some found => exact ⟨found, rfl⟩

/-- What the search finds is a split. -/
theorem splits_of_split? {segments : List Segment} {s : Text} {pieces : List Text} (found : split? segments s = some pieces) :
    Splits segments s pieces := by
  induction segments generalizing s pieces with
  | nil =>
    rw [split?] at found
    split at found
    · next empty => exact splits_nil_iff.2 ⟨List.isEmpty_iff.1 empty, (Option.some.inj found).symm⟩
    · contradiction
  | cons segment segments ih =>
    cases segment with
    | literal text =>
      rw [split?] at found
      split at found
      · next starts =>
        obtain ⟨rest, others, rfl⟩ := Option.map_eq_some_iff.1 found
        exact splits_literal_iff.2 ⟨List.isPrefixOf_iff_prefix.1 starts, rest, ih others, rfl⟩
      · contradiction
    | slot p =>
      rw [split?] at found
      obtain ⟨n, member, taken⟩ := List.exists_of_findSome?_eq_some found
      obtain ⟨rest, others, rfl⟩ := Option.map_eq_some_iff.1 taken
      exact splits_slot_iff.2 ⟨n, member, rest, ih others, rfl⟩

/-- What the search finds comes before every other split. -/
theorem precedes_of_split? {segments : List Segment} {s : Text} {pieces other : List Text}
    (found : split? segments s = some pieces) (splits : Splits segments s other) :
    other = pieces ∨ Precedes segments pieces other := by
  induction segments generalizing s pieces other with
  | nil =>
    have first := (splits_nil_iff.1 (splits_of_split? found)).2
    exact .inl ((splits_nil_iff.1 splits).2.trans first.symm)
  | cons segment segments ih =>
    cases segment with
    | literal text =>
      obtain ⟨starts, rest', others', rfl⟩ := splits_literal_iff.1 splits
      rw [split?, if_pos (List.isPrefixOf_iff_prefix.2 starts)] at found
      obtain ⟨rest, others, rfl⟩ := Option.map_eq_some_iff.1 found
      rcases ih others others' with rfl | ordered
      · exact .inl rfl
      · exact .inr (.later ordered)
    | slot p =>
      obtain ⟨n', member', rest', others', rfl⟩ := splits_slot_iff.1 splits
      rw [split?] at found
      obtain ⟨before, n, after, all, taken, refused⟩ := List.findSome?_eq_some_iff.1 found
      obtain ⟨rest, others, rfl⟩ := Option.map_eq_some_iff.1 taken
      -- The other split takes a length after `n`, or `n` too: with the lengths before it nothing follows.
      have ordered := lengths_ordered s p
      have member : n ∈ lengths s p := by simp [all]
      have inside : n ≤ s.length := (mem_lengths_iff.1 member).1
      have inside' : n' ≤ s.length := (mem_lengths_iff.1 member').1
      rw [all] at ordered member'
      rcases List.mem_append.1 member' with early | late
      · have nothing := Option.map_eq_none_iff.1 (refused n' early)
        exact absurd others' (split?_eq_none_iff.1 nothing rest')
      rcases List.mem_cons.1 late with rfl | later
      · rcases ih others others' with rfl | ordered
        · exact .inl rfl
        · exact .inr (.later ordered)
      · have preferred := (List.pairwise_cons.1 (List.pairwise_append.1 ordered).2.1).1 n' later
        refine .inr (.here ?_)
        rwa [List.length_take_of_le inside, List.length_take_of_le inside']

/-! ## The parts of what is found -/

/-- What is found goes on, after its first piece, with what is found in the rest. -/
theorem split?_cons {segment : Segment} {segments : List Segment} {s : Text} {pieces : List Text}
    (found : split? (segment :: segments) s = some pieces) : ∃ piece after rest,
      s = piece ++ after ∧ Fits segment piece ∧ split? segments after = some rest ∧ pieces = piece :: rest := by
  cases segment with
  | literal text =>
    rw [split?] at found
    split at found
    · next starts =>
      obtain ⟨after, rfl⟩ := List.isPrefixOf_iff_prefix.1 starts
      obtain ⟨rest, others, rfl⟩ := Option.map_eq_some_iff.1 found
      rw [List.drop_left] at others
      exact ⟨text, after, rest, rfl, rfl, others, rfl⟩
    · cases found
  | slot p =>
    rw [split?] at found
    obtain ⟨n, member, taken⟩ := List.exists_of_findSome?_eq_some found
    obtain ⟨rest, others, rfl⟩ := Option.map_eq_some_iff.1 taken
    exact ⟨s.take n, s.drop n, rest, (List.take_append_drop n s).symm, (mem_lengths_iff.1 member).2, others, rfl⟩

theorem split?_append {left segments : List Segment} {s : Text} {pieces : List Text}
    (found : split? (left ++ segments) s = some pieces) : ∃ early after rest,
      s = early.flatten ++ after ∧ List.Forall₂ Fits left early ∧ split? segments after = some rest ∧ pieces = early ++ rest := by
  induction left generalizing s pieces with
  | nil => exact ⟨[], s, pieces, rfl, .nil, found, rfl⟩
  | cons segment left ih =>
    obtain ⟨piece, _, _, rfl, fits, later, rfl⟩ := split?_cons found
    obtain ⟨early, after, rest, rfl, others, last, rfl⟩ := ih later
    exact ⟨piece :: early, after, rest, by simp, .cons fits others, last, rfl⟩

/-- Where a slot would rather have less text, what is found for it begins what any other split has for it. -/
theorem isPrefix_of_split? {p : Placeholder} (lazy : ∀ m n, Prefers p m n → m ≤ n) {segments : List Segment} {s piece piece' : Text}
    {pieces pieces' : List Text} (found : split? (slot p :: segments) s = some (piece :: pieces))
    (splits : Splits (slot p :: segments) s (piece' :: pieces')) : piece <+: piece' := by
  have short : piece.length ≤ piece'.length := by
    rcases precedes_of_split? found splits with same | ordered
    · exact Nat.le_of_eq (congrArg List.length (List.cons.inj same).1.symm)
    · cases ordered with
      | here preferred => exact lazy _ _ preferred
      | later => exact Nat.le_refl _
  have whole := (splits_of_split? found).2
  rw [← splits.2] at whole
  exact List.prefix_of_prefix_length_le ⟨pieces.flatten, whole⟩ ⟨pieces'.flatten, rfl⟩ short

/-- A slot for anything leaves some of its text to the segments after it, if these split what follows the text. -/
theorem exists_left_of_split? {segments : List Segment} {text after : Text} {pieces written : List Text} (unbroken : '\n' ∉ text)
    (later : Splits segments after written) (found : split? (slot .anything :: segments) (text ++ after) = some pieces) :
    ∃ taken left rest, text = taken ++ left ∧ split? segments (left ++ after) = some rest ∧ pieces = taken :: rest := by
  obtain ⟨taken, behind, rest, parts, _, found', rfl⟩ := split?_cons found
  have splits : Splits (slot .anything :: segments) (text ++ after) (text :: written) :=
    ⟨.cons unbroken later.1, by rw [List.flatten_cons, later.2]⟩
  obtain ⟨left, rfl⟩ := isPrefix_of_split? (fun _ _ => Nat.le_of_lt) found splits
  rw [List.append_assoc] at parts
  exact ⟨taken, left, rest, rfl, List.append_cancel_left parts ▸ found', rfl⟩

end ReadingLog.Template.Segment
