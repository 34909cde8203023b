import Mathlib.Data.List.Basic
import Mathlib.Data.List.Induction
import ReadingLog.Location

/-!
# Written paths

A path as it is written is a list of parts, and the paths above it are those that it begins with. Its written form is read back
as the same parts, so a path above one that was read is written without change.
-/

namespace ReadingLog

namespace WrittenPath

variable {p above other : WrittenPath}

/-- One path is another one, or above it: it begins with the same parts. -/
def IsAbove (above p : WrittenPath) : Prop := above.isAbsolute = p.isAbsolute ∧ above.parts <+: p.parts

theorem isAbove_mk_iff {isAbsolute isAbsolute' : Bool} {parts parts' : List Text} :
    IsAbove ⟨isAbsolute, parts⟩ ⟨isAbsolute', parts'⟩ ↔ isAbsolute = isAbsolute' ∧ parts <+: parts' := Iff.rfl

theorem IsAbove.refl (p : WrittenPath) : p.IsAbove p := ⟨rfl, List.prefix_rfl⟩

theorem IsAbove.trans (first : other.IsAbove above) (second : above.IsAbove p) : other.IsAbove p :=
  ⟨first.1.trans second.1, first.2.trans second.2⟩

theorem IsAbove.antisymm (first : above.IsAbove other) (second : other.IsAbove above) : above = other := by
  cases above
  cases other
  rw [isAbove_mk_iff] at first second
  rw [first.1, first.2.eq_of_length_le second.2.length_le]

theorem upward_nil (isAbsolute : Bool) : upward ⟨isAbsolute, []⟩ = [⟨isAbsolute, []⟩] := rfl

theorem upward_concat (isAbsolute : Bool) (parts : List Text) (part : Text) :
    upward ⟨isAbsolute, parts ++ [part]⟩ = ⟨isAbsolute, parts ++ [part]⟩ :: upward ⟨isAbsolute, parts⟩ := by
  have shorter : ∀ n ∈ List.range (parts.length + 1), (parts ++ [part]).take n = parts.take n := by
    intro n inside
    rw [List.mem_range] at inside
    exact List.take_append_of_le_length (by omega)
  simp only [upward, List.length_append, List.length_singleton]
  rw [List.range_succ, List.map_append, List.reverse_append]
  simp only [List.map_singleton, List.reverse_singleton, List.singleton_append, List.cons.injEq, mk.injEq, true_and,
    List.reverse_inj]
  refine ⟨List.take_of_length_le (by simp), List.map_congr_left fun n inside => ?_⟩
  rw [shorter n inside]

/-- A search upwards ends at the longest path above at which anything is found. -/
theorem findSome?_upward_eq_some_iff {β : Type} {find? : WrittenPath → Option β} {b : β} :
    p.upward.findSome? find? = some b ↔ ∃ above, above.IsAbove p ∧ find? above = some b ∧
      ∀ other, other.IsAbove p → (find? other).isSome → other.IsAbove above := by
  obtain ⟨isAbsolute, parts⟩ := p
  have itself {q : WrittenPath} {b' : β} (found : find? q = some b') (c : β) :
      some b' = some c ↔ ∃ above, above.IsAbove q ∧ find? above = some c ∧
        ∀ other, other.IsAbove q → (find? other).isSome → other.IsAbove above := by
    constructor
    · intro same
      exact ⟨q, .refl q, found.trans same, fun other within _ => within⟩
    · rintro ⟨above, within, found', longest⟩
      have back := longest q (.refl q) (by rw [found]; rfl)
      rw [within.antisymm back] at found'
      exact found.symm.trans found'
  -- The path is searched from its end, so the induction takes one part off its end.
  induction parts using List.reverseRecOn with
  | nil =>
    rw [upward_nil, List.findSome?_singleton]
    cases found : find? ⟨isAbsolute, []⟩ with
    | some b' => exact itself found b
    | none =>
      refine iff_of_false nofun ?_
      rintro ⟨⟨isAbsolute', parts⟩, within, found', -⟩
      rw [isAbove_mk_iff, List.prefix_nil] at within
      rw [within.1, within.2, found] at found'
      contradiction
  | append_singleton parts part ih =>
    rw [upward_concat, List.findSome?_cons]
    cases found : find? ⟨isAbsolute, parts ++ [part]⟩ with
    | some b' => exact itself found b
    | none =>
      have inner {q : WrittenPath} (within : q.IsAbove ⟨isAbsolute, parts ++ [part]⟩) (hit : (find? q).isSome) :
          q.IsAbove ⟨isAbsolute, parts⟩ := by
        obtain ⟨isAbsolute', parts'⟩ := q
        rw [isAbove_mk_iff, List.prefix_concat_iff] at within
        obtain ⟨rfl, rfl | shorter⟩ := within
        · rw [found] at hit
          contradiction
        · exact ⟨rfl, shorter⟩
      have outer {q : WrittenPath} (within : q.IsAbove ⟨isAbsolute, parts⟩) : q.IsAbove ⟨isAbsolute, parts ++ [part]⟩ :=
        within.trans ⟨rfl, List.prefix_append ..⟩
      refine Iff.trans ih ?_
      constructor
      · rintro ⟨above, within, found', longest⟩
        exact ⟨above, outer within, found', fun other within' hit => longest other (inner within' hit) hit⟩
      · rintro ⟨above, within, found', longest⟩
        exact ⟨above, inner within (by rw [found']; rfl), found', fun other within' => longest other (outer within')⟩

theorem mem_upward_iff : above ∈ p.upward ↔ above.IsAbove p := by
  obtain ⟨isAbsolute, parts⟩ := p
  obtain ⟨isAbsolute', parts'⟩ := above
  simp only [upward, List.mem_reverse, List.mem_map, List.mem_range, IsAbove, mk.injEq]
  constructor
  · rintro ⟨n, -, rfl, rfl⟩
    exact ⟨rfl, List.take_prefix n parts⟩
  · rintro ⟨rfl, within⟩
    have short := within.length_le
    exact ⟨parts'.length, by omega, rfl, (List.prefix_iff_eq_take.1 within).symm⟩

/-! ## Reading written paths -/

/-- No part is empty or has a slash in it, and only a relative path may have a `.`, as its first part. -/
structure IsInParts (p : WrittenPath) : Prop where
  parts : ∀ part ∈ p.parts, part ≠ [] ∧ '/' ∉ part
  absolute : p.isAbsolute → ['.'] ∉ p.parts
  later : ∀ first rest, p.parts = first :: rest → ['.'] ∉ rest

theorem notMem_of_mem_splitOn {separator : Char} {s part : Text} (member : part ∈ s.splitOn separator) : separator ∉ part := by
  induction s generalizing part with
  | nil =>
    rw [List.splitOn_nil, List.mem_singleton] at member
    rw [member]
    exact List.not_mem_nil
  | cons c s ih =>
    rw [List.splitOn_cons_eq_if_modifyHead] at member
    split at member
    · rcases List.mem_cons.1 member with rfl | member
      · exact List.not_mem_nil
      · exact ih member
    · next other =>
      obtain ⟨first, rest, pieces⟩ := List.exists_cons_of_ne_nil (List.splitOn_ne_nil separator s)
      rw [pieces] at ih member
      rcases List.mem_cons.1 member with rfl | member
      · have free := ih List.mem_cons_self
        simp only [beq_iff_eq] at other
        simp [Ne.symm other, free]
      · exact ih (List.mem_cons_of_mem first member)

theorem mem_partsOf {pieces : List Text} {part : Text} (member : part ∈ partsOf pieces) : part ∈ pieces ∧ part ≠ [] := by
  rcases List.mem_append.1 member with lead | kept
  · split at lead
    · next first =>
      obtain rfl := List.mem_singleton.1 lead
      exact ⟨List.mem_of_mem_head? first, List.cons_ne_nil _ _⟩
    · cases lead
  · obtain ⟨inside, counts⟩ := List.mem_filter.1 kept
    exact ⟨inside, fun empty => by simp [isPart, empty] at counts⟩

theorem notMem_filter_isPart (pieces : List Text) : ['.'] ∉ pieces.filter isPart := by simp [isPart]

theorem filter_isPart {parts : List Text} (nonempty : ∀ part ∈ parts, part ≠ []) (plain : ['.'] ∉ parts) :
    parts.filter isPart = parts := by
  rw [List.filter_eq_self]
  intro part member
  have other : part ≠ ['.'] := by
    rintro rfl
    exact plain member
  simp [isPart, nonempty part member, other]

theorem partsOf_cons {first : Text} {rest : List Text} (nonempty : ∀ part ∈ first :: rest, part ≠ []) (plain : ['.'] ∉ rest) :
    partsOf (first :: rest) = first :: rest := by
  have kept : rest.filter isPart = rest :=
    filter_isPart (fun part member => nonempty part (List.mem_cons_of_mem first member)) plain
  have named : first ≠ [] := nonempty first List.mem_cons_self
  by_cases lead : first = ['.']
  · simp [partsOf, lead, isPart, kept]
  · simp [partsOf, lead, isPart, kept, named]

theorem isInParts_ofString (path : String) : (ofString path).IsInParts := by
  refine ⟨fun part member => ?_, fun isAbsolute => ?_, fun first rest parts => ?_⟩
  · obtain ⟨inside, nonempty⟩ := mem_partsOf member
    exact ⟨nonempty, notMem_of_mem_splitOn inside⟩
  · -- The first piece of a path from the top is empty.
    obtain ⟨inner, spelled⟩ := List.head?_eq_some_iff.1 (of_decide_eq_true isAbsolute)
    have first : (path.toList.splitOn '/').head? ≠ some ['.'] := by
      rw [spelled, List.splitOn_cons_eq_if_modifyHead]
      simp
    rw [ofString, partsOf, if_neg first]
    exact notMem_filter_isPart _
  · intro member
    rw [ofString, partsOf] at parts
    split at parts
    · rw [List.singleton_append, List.cons.injEq] at parts
      exact notMem_filter_isPart _ (parts.2 ▸ member)
    · rw [List.nil_append] at parts
      exact notMem_filter_isPart _ (parts ▸ List.mem_cons_of_mem first member)

theorem IsInParts.of_isAbove (inParts : p.IsInParts) (within : above.IsAbove p) : above.IsInParts := by
  obtain ⟨back, whole⟩ := within.2
  refine ⟨fun part member => ?_, fun isAbsolute member => ?_, fun first rest parts member => ?_⟩
  · exact inParts.parts part (within.2.subset member)
  · exact inParts.absolute (within.1 ▸ isAbsolute) (within.2.subset member)
  · rw [parts, List.cons_append] at whole
    exact inParts.later first (rest ++ back) whole.symm (List.mem_append_left back member)

theorem toList_text (p : WrittenPath) :
    p.text.toList = (if p.isAbsolute then ['/'] else []) ++ ['/'].intercalate p.parts := by
  rw [text, String.toList_append, String.toList_intercalate]
  cases p.isAbsolute <;> simp [Function.comp_def]

/-- A path in parts is read back from its written form. -/
theorem ofString_text (inParts : p.IsInParts) : ofString p.text = p := by
  obtain ⟨isAbsolute, parts⟩ := p
  have nonempty : ∀ part ∈ parts, part ≠ [] := fun part member => (inParts.parts part member).1
  have slashless : ∀ part ∈ parts, '/' ∉ part := fun part member => (inParts.parts part member).2
  have spelled := toList_text ⟨isAbsolute, parts⟩
  rw [ofString, spelled]
  cases isAbsolute with
  | true =>
    have plain : ['.'] ∉ parts := inParts.absolute rfl
    have kept : ((['/'].intercalate parts).splitOn '/').filter isPart = parts := by
      by_cases none : parts = []
      · rw [none]
        rfl
      · rw [List.splitOn_intercalate '/' slashless none, filter_isPart nonempty plain]
    have pieces : ('/' :: ['/'].intercalate parts).splitOn '/' = [] :: (['/'].intercalate parts).splitOn '/' := by
      rw [List.splitOn_cons_eq_if_modifyHead]
      simp
    have empty : isPart [] = false := rfl
    simp only [if_true, List.singleton_append, pieces, partsOf, List.head?_cons, List.filter_cons, empty, kept]
    rfl
  | false =>
    cases parts with
    | nil => rfl
    | cons first rest =>
      have relative : (['/'].intercalate (first :: rest)).head? ≠ some '/' := by
        intro slash
        obtain ⟨c, word, rfl⟩ := List.exists_cons_of_ne_nil (nonempty first List.mem_cons_self)
        have begins : (['/'].intercalate ((c :: word) :: rest)).head? = some c := by
          cases rest <;> rfl
        rw [begins] at slash
        exact slashless _ List.mem_cons_self (Option.some.inj slash ▸ List.mem_cons_self)
      rw [if_neg Bool.false_ne_true, List.nil_append, List.splitOn_intercalate '/' slashless (List.cons_ne_nil first rest),
        partsOf_cons nonempty (inParts.later first rest rfl), decide_eq_false relative]

/-- The path from the top to a location. -/
def ofLocation (l : Location) : WrittenPath := ⟨true, l.map (·.text.toList)⟩

theorem text_ofLocation (l : Location) : (ofLocation l).text = l.path := by
  simp [text, ofLocation, Location.path, Location.relativePath, Function.comp_def]

theorem ofString_path (l : Location) : ofString l.path = ofLocation l := by
  have named : ∀ part ∈ (ofLocation l).parts, part ≠ [] ∧ '/' ∉ part ∧ part ≠ ['.'] := by
    intro part member
    obtain ⟨name, -, rfl⟩ := List.mem_map.1 member
    obtain ⟨nonempty, other, -, slashless⟩ := name.isName
    refine ⟨fun empty => nonempty (String.toList_eq_nil_iff.1 empty), slashless, fun same => other ?_⟩
    exact String.toList_inj.1 same
  have plain : ['.'] ∉ (ofLocation l).parts := fun member => (named _ member).2.2 rfl
  rw [← text_ofLocation]
  refine ofString_text ⟨fun part member => ⟨(named part member).1, (named part member).2.1⟩, fun _ => plain, ?_⟩
  intro first rest parts member
  exact plain (parts ▸ List.mem_cons_of_mem first member)

end WrittenPath

end ReadingLog
