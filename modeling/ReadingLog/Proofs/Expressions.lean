import Mathlib.Data.List.Nodup
import ReadingLog.Proofs.Matching

/-!
# Reading what templates are written out as

The segments of a template are read back from the regular expression that they are written out as, if no two of its groups have
one name. A template without faults has no such groups, so it always compiles.
-/

namespace ReadingLog

open Template

namespace Expression

variable {c : Char} {piece piece' : Text} {mark : Mark} {marks marks' : List Mark} {p : Placeholder} {segments : List Segment}

/-! ## Marks -/

/-- A piece has some marks, whatever follows it. -/
def Spells (piece : Text) (marks : List Mark) : Prop := ∀ rest, marks? (piece ++ rest) = (marks? rest).map (marks ++ ·)

namespace Spells

theorem nil : Spells [] [] := fun rest => by simp

theorem append (first : Spells piece marks) (second : Spells piece' marks') : Spells (piece ++ piece') (marks ++ marks') := by
  intro rest
  rw [List.append_assoc, first, second, Option.map_map]
  simp only [List.append_assoc, Function.comp_def]

theorem flatMap {spelled : Segment → Text} {marked : Segment → List Mark}
    (each : ∀ segment, Spells (spelled segment) (marked segment)) :
    Spells (segments.flatMap spelled) (segments.flatMap marked) := by
  induction segments with
  | nil => exact nil
  | cons segment segments ih => exact (each segment).append ih

theorem of_mark? (read : ∀ rest, mark? c (piece ++ rest) = some (mark, piece.length)) : Spells (c :: piece) [mark] := by
  intro rest
  simp only [List.cons_append, marks?, read, Option.bind_some, List.drop_left, List.nil_append]

/-- A repetition takes as much as it can where no question mark follows. -/
theorem greedy {times : Times} (asks : timesOf? c = some times) {d : Char} (other : d ≠ '?') (later : Spells (d :: piece) marks) :
    Spells (c :: d :: piece) (.repetition times false :: marks) := by
  have read (rest : Text) : mark? c (d :: rest) = some (.repetition times false, 0) := by
    unfold timesOf? at asks
    split at asks <;> cases asks <;> simp [mark?, timesOf?, other]
  intro rest
  have behind := later rest
  rw [List.cons_append] at behind
  simp only [List.cons_append, marks?, read, Option.bind_some, List.drop_zero]
  rw [← marks?, behind, Option.map_map]
  rfl

/-- A character that is spelled to stand for itself does so. -/
theorem char (c : Char) : Spells (if c ∈ escaped then ['\\', c] else [c]) [.once (.exactly c)] := by
  split
  · next special =>
    have other : c ≠ 'd' := by
      rintro rfl
      exact absurd special (by decide)
    exact of_mark? fun _ => by simp [mark?, special]
  · next plain =>
    simp only [escaped, operators, List.cons_append, List.nil_append, List.mem_cons, List.not_mem_nil, not_or, or_false] at plain
    exact of_mark? fun _ => by simp [mark?, timesOf?, operators, plain]

theorem escape (text : Text) : Spells (escape text) (text.map fun c => .once (.exactly c)) := by
  induction text with
  | nil => exact nil
  | cons c text ih => exact (char c).append ih

theorem any : Spells ['.'] [.once .any] := of_mark? fun _ => rfl

theorem digit : Spells ['\\', 'd'] [.once .digit] := of_mark? fun _ => rfl

theorem closing : Spells [')'] [.closing] := of_mark? fun _ => rfl

theorem group (named : p ≠ .anything) (inside : Spells (piece ++ [')']) (marks ++ [.closing])) :
    Spells (spellGroup p.name.toList piece) (.opening p.name.toList :: marks ++ [.closing]) := by
  have opening : Spells (['(', '?', 'P', '<'] ++ p.name.toList ++ ['>']) [.opening p.name.toList] := by
    refine of_mark? fun rest => ?_
    cases p with
    | anything => exact absurd rfl named
    | date | book | startPage | endPage | finish => rfl
  have spelled : spellGroup p.name.toList piece = ['(', '?', 'P', '<'] ++ p.name.toList ++ ['>'] ++ (piece ++ [')']) := by
    simp [spellGroup]
  rw [spelled]
  exact opening.append inside

end Spells

/-- The marks of a slot, inside its group if it has one. -/
def innerMarks : Placeholder → List Mark
  | .date | .book => [.once .any, .repetition .atLeastOnce true]
  | .startPage | .endPage => [.once .digit, .repetition .atLeastOnce false]
  | .finish => [.once .digit, .repetition .atLeastOnce false, .once (.exactly '%'), .repetition .atMostOnce false]
  | .anything => [.once .any, .repetition .anyNumber true]

/-- The marks of a slot. -/
def slotMarks (p : Placeholder) : List Mark :=
  if p = .anything then innerMarks p else .opening p.name.toList :: innerMarks p ++ [.closing]

theorem spells_slot (p : Placeholder) : Spells (spellSlot p) (slotMarks p) := by
  have many : Spells ['+', ')'] [.repetition .atLeastOnce false, .closing] := .greedy rfl (by decide) .closing
  have percent : Spells ['%', '?', ')'] [.once (.exactly '%'), .repetition .atMostOnce false, .closing] :=
    (Spells.char '%').append (.greedy rfl (by decide) .closing)
  have manyBefore : Spells ['+', '%', '?', ')']
      [.repetition .atLeastOnce false, .once (.exactly '%'), .repetition .atMostOnce false, .closing] :=
    .greedy rfl (by decide) percent
  have little : Spells ['+', '?'] [.repetition .atLeastOnce true] := .of_mark? fun _ => rfl
  have none : Spells ['*', '?'] [.repetition .anyNumber true] := .of_mark? fun _ => rfl
  cases p with
  | date | book => exact .group (by decide) (Spells.any.append (little.append .closing))
  | startPage | endPage => exact .group (by decide) (Spells.digit.append many)
  | finish => exact .group (by decide) (Spells.digit.append manyBefore)
  | anything => exact Spells.any.append none

/-- The marks of a segment. -/
def segmentMarks : Segment → List Mark
  | .literal text => text.map fun c => .once (.exactly c)
  | .slot p => slotMarks p

theorem marks?_spell (segments : List Segment) :
    marks? (spell segments) = some (.start :: segments.flatMap segmentMarks ++ [.finish]) := by
  have start : Spells ['^'] [.start] := .of_mark? fun _ => rfl
  have finish : Spells ['$'] [.finish] := .of_mark? fun _ => rfl
  have inside : Spells (segments.flatMap spellSegment) (segments.flatMap segmentMarks) := by
    refine .flatMap fun segment => ?_
    cases segment with
    | literal text => exact .escape text
    | slot p => exact spells_slot p
  have whole := (start.append inside).append finish []
  rw [List.append_nil, marks?] at whole
  simpa [spell] using whole

/-! ## Reading -/

/-- The parts of a slot, inside its group if it has one. -/
def innerParts : Placeholder → List Part
  | .date | .book => [.repeated .any .atLeastOnce true]
  | .startPage | .endPage => [.repeated .digit .atLeastOnce false]
  | .finish => [.repeated .digit .atLeastOnce false, .repeated (.exactly '%') .atMostOnce false]
  | .anything => [.repeated .any .anyNumber true]

/-- The parts of a segment. -/
def segmentParts : Segment → List Part
  | .literal text => text.map fun c => .once (.exactly c)
  | .slot p => if p = .anything then innerParts p else [.group p.name.toList (innerParts p)]

/-- The name of the group of a segment. -/
def segmentName? : Segment → Option Text
  | .literal _ => none
  | .slot p => if p = .anything then none else some p.name.toList

theorem segmentParts_slot (named : p ≠ .anything) : segmentParts (.slot p) = [.group p.name.toList (innerParts p)] := if_neg named

theorem segmentName?_slot (named : p ≠ .anything) : segmentName? (.slot p) = some p.name.toList := if_neg named

/-- What is read of a segment. -/
def Reading.withSegment (r : Reading) (segment : Segment) : Reading :=
  ⟨r.outer, (segmentName? segment).toList ++ r.names, (segmentParts segment).reverse ++ r.parts⟩

theorem foldlM_literal (text : Text) (r : Reading) :
    (segmentMarks (.literal text)).foldlM Reading.step? r = some (r.withSegment (.literal text)) := by
  induction text generalizing r with
  | nil => rfl
  | cons c text ih =>
    have first : segmentMarks (.literal (c :: text)) = .once (.exactly c) :: segmentMarks (.literal text) := rfl
    rw [first, List.foldlM_cons]
    refine (ih (r.add (.once (.exactly c)))).trans ?_
    simp [Reading.withSegment, Reading.add, segmentParts, segmentName?]

theorem foldlM_inner (p : Placeholder) (r : Reading) :
    (innerMarks p).foldlM Reading.step? r = some { r with parts := (innerParts p).reverse ++ r.parts } := by
  cases p <;> rfl

theorem foldlM_segment (segment : Segment) (r : Reading) : (segmentMarks segment).foldlM Reading.step? r =
    if ∃ name ∈ segmentName? segment, name ∈ r.names then none else some (r.withSegment segment) := by
  cases segment with
  | literal text => simpa [segmentName?] using foldlM_literal text r
  | slot p =>
    by_cases named : p = .anything
    · subst named
      exact foldlM_inner .anything r
    · have marks : segmentMarks (.slot p) = .opening p.name.toList :: innerMarks p ++ [.closing] := if_neg named
      rw [marks, List.cons_append, List.foldlM_cons, Reading.withSegment, segmentName?_slot named, segmentParts_slot named,
        Reading.step?]
      simp only [Option.mem_some_iff, exists_eq_left']
      by_cases used : p.name.toList ∈ r.names
      · rw [if_pos used, if_pos used]
        rfl
      · rw [if_neg used, if_neg used]
        simp [List.foldlM_append, foldlM_inner, Reading.step?]

/-- The segments are read one after the other, if no name comes twice. -/
theorem foldlM_segments {r r' : Reading} : (segments.flatMap segmentMarks).foldlM Reading.step? r = some r' ↔
    r' = segments.foldl Reading.withSegment r ∧
    (segments.filterMap segmentName?).Nodup ∧ ∀ name ∈ segments.filterMap segmentName?, name ∉ r.names := by
  induction segments generalizing r with
  | nil => simp [eq_comm]
  | cons segment segments ih =>
    have names : (r.withSegment segment).names = (segmentName? segment).toList ++ r.names := rfl
    have later := ih (r := r.withSegment segment)
    rw [names] at later
    rw [List.flatMap_cons, List.foldlM_append, foldlM_segment, List.foldl_cons, List.filterMap_cons]
    cases named : segmentName? segment with
    | none => simpa [named] using later
    | some name =>
      rw [named] at later
      by_cases used : name ∈ r.names
      · simp [used]
      · simp only [Option.mem_some_iff, exists_eq_left', if_neg used, Option.bind_eq_bind, Option.bind_some, later,
          Option.toList_some, List.nodup_cons, List.forall_mem_cons]
        refine and_congr_right fun _ => ?_
        constructor
        · rintro ⟨single, fresh⟩
          exact ⟨⟨fun member => fresh name member (by simp), single⟩, used, fun n member old => fresh n member (by simp [old])⟩
        · rintro ⟨⟨apart, single⟩, -, fresh⟩
          refine ⟨single, fun n member listed => ?_⟩
          rcases List.mem_cons.1 listed with rfl | old
          · exact apart member
          · exact fresh n member old

theorem foldl_withSegment (r : Reading) : segments.foldl Reading.withSegment r =
    ⟨r.outer, (segments.filterMap segmentName?).reverse ++ r.names, (segments.flatMap segmentParts).reverse ++ r.parts⟩ := by
  induction segments generalizing r with
  | nil => rfl
  | cons segment segments ih =>
    rw [List.foldl_cons, ih]
    cases named : segmentName? segment <;> simp [Reading.withSegment, named]

/-- The expression for some segments is read just when no two of its groups have one name, and then as the parts of the
segments. -/
theorem ofText?_spell {parts : List Part} : ofText? (spell segments) = some parts ↔
    (segments.filterMap segmentName?).Nodup ∧ parts = .start :: segments.flatMap segmentParts ++ [.finish] := by
  have whole : ((segments.foldl Reading.withSegment (Reading.add {} .start)).add .finish).whole? =
      some (.start :: segments.flatMap segmentParts ++ [.finish]) := by
    simp [foldl_withSegment, Reading.add, Reading.whole?]
  simp only [ofText?, marks?_spell, Option.bind_eq_bind, Option.bind_some, List.cons_append, List.foldlM_cons, Reading.step?,
    List.foldlM_append, Option.bind_eq_some_iff, foldlM_segments]
  constructor
  · rintro ⟨_, ⟨_, ⟨rfl, single, -⟩, ⟨⟩⟩, read⟩
    exact ⟨single, Option.some.inj (read.symm.trans whole)⟩
  · rintro ⟨single, rfl⟩
    exact ⟨_, ⟨_, ⟨rfl, single, fun _ _ => List.not_mem_nil⟩, rfl⟩, whole⟩

theorem exists_of_segmentName? {segment : Segment} {name : Text} (group : segmentName? segment = some name) :
    ∃ p, p ≠ Placeholder.anything ∧ p.name.toList = name := by
  cases segment with
  | literal text => cases group
  | slot p =>
    obtain ⟨named, same⟩ := Option.ite_none_left_eq_some.1 group
    exact ⟨p, named, Option.some.inj same⟩

theorem segmentName?_eq_some_iff {segment : Segment} (named : p ≠ .anything) :
    segmentName? segment = some p.name.toList ↔ segment = .slot p := by
  cases segment with
  | literal text => simp [segmentName?]
  | slot q => cases p <;> cases q <;> simp_all [segmentName?, Placeholder.name]

/-- No two groups have one name when no slot stands twice, but for those for anything. -/
theorem nodup_names_iff : (segments.filterMap segmentName?).Nodup ↔ ∀ p ≠ .anything, Segment.count p segments ≤ 1 := by
  have counted (p : Placeholder) (named : p ≠ .anything) :
      (segments.filterMap segmentName?).count p.name.toList = Segment.count p segments := by
    rw [List.count_filterMap, Segment.count, List.count]
    refine List.countP_congr fun segment _ => ?_
    rw [beq_iff_eq, beq_iff_eq, segmentName?_eq_some_iff named]
  rw [List.nodup_iff_count_le_one]
  constructor
  · intro single p named
    exact counted p named ▸ single p.name.toList
  · intro single name
    by_cases member : name ∈ segments.filterMap segmentName?
    · obtain ⟨segment, -, group⟩ := List.mem_filterMap.1 member
      obtain ⟨p, named, rfl⟩ := exists_of_segmentName? group
      exact counted p named ▸ single p named
    · rw [List.count_eq_zero.2 member]
      exact Nat.zero_le 1

end Expression

/-! ## Compiling -/

namespace Pattern

variable {kind : Kind} {template : String}

/-- A template without faults compiles: no slot but for anything stands twice in it, so its expression is read. -/
theorem compile_of_faultless (faultless : fault? kind template = none) :
    compile template kind = .ok ⟨kind, template, .iso, faultless⟩ := by
  have single := Expression.nodup_names_iff.2 (fault?_eq_none_iff.1 faultless).2
  unfold compile
  split
  · next fault found => simp [faultless] at found
  · rw [Expression.ofText?_spell.2 ⟨single, rfl⟩]

theorem compile_of_fault {e : Error} (found : fault? kind template = some e) : compile template kind = .error e := by
  unfold compile
  split
  · next fault found' => rw [Option.some.inj (found'.symm.trans found)]
  · next faultless => simp [faultless] at found

theorem compile_eq_ok_iff {p : Pattern} : compile template kind = .ok p ↔
    ∃ faultless : fault? kind template = none, p = ⟨kind, template, .iso, faultless⟩ := by
  constructor
  · intro ok
    have faultless : fault? kind template = none := by
      rw [Option.eq_none_iff_forall_ne_some]
      intro e found
      rw [compile_of_fault found] at ok
      cases ok
    rw [compile_of_faultless faultless] at ok
    exact ⟨faultless, (Except.ok.inj ok).symm⟩
  · rintro ⟨faultless, rfl⟩
    exact compile_of_faultless faultless

theorem compile_eq_error_iff {e : Error} : compile template kind = .error e ↔ fault? kind template = some e := by
  cases found : fault? kind template with
  | none => simp [compile_of_faultless found]
  | some e => simp [compile_of_fault found]

end Pattern
end ReadingLog
