import ReadingLog.Proofs.Expressions

/-!
# Matching by expressions

What an expression matches is found by trying: each part in turn takes what it prefers to take first, and less or more where
what follows does not match otherwise. The expression that a template is written out as matches the lines that can be split by
its segments, and its groups take the pieces of the preferred split.
-/

namespace ReadingLog

open Template

namespace Expression

/-- The characters of a class. -/
def Class.admits : Class → Char → Bool
  | exactly c, d => d == c
  | digit, d => Text.isScriptDigit d
  | any, d => d != '\n'

/-- How often a character can be taken, where at most `available` stand in a row. -/
def Times.admits (available : Nat) : Times → Nat → Bool
  | atMostOnce, n => n ≤ min 1 available
  | anyNumber, n => n ≤ available
  | atLeastOnce, n => 1 ≤ n && n ≤ available

/-- How often a character is taken, in the order of preference. -/
def Times.counts (times : Times) (little : Bool) (available : Nat) : List Nat :=
  let counts := (List.range (available + 1)).filter (times.admits available)
  if little then counts else counts.reverse

/-- A way to take some text: what the groups took, by their names, and the text that is left. -/
structure Way where
  groups : List (Text × Text)
  rest : Text

/-- One way after another. -/
def Way.andThen (first later : Way) : Way := ⟨first.groups ++ later.groups, later.rest⟩

mutual

/-- The ways in which a part takes some text from the start of `s`, in the order of preference. -/
def Part.ways (line : Text) : Part → Text → List Way
  | .start, s => if s.length = line.length then [⟨[], s⟩] else []
  | .finish, s => if s.isEmpty then [⟨[], s⟩] else []
  | .once what, s => if s.head?.any what.admits then [⟨[], s.tail⟩] else []
  | .repeated what times little, s => (times.counts little (s.takeWhile what.admits).length).map fun n => ⟨[], s.drop n⟩
  | .group name inside, s =>
    (ways line inside s).map fun way => ⟨(name, s.take (s.length - way.rest.length)) :: way.groups, way.rest⟩

/-- The ways in which parts take some text one after the other. -/
def ways (line : Text) : List Part → Text → List Way
  | [], s => [⟨[], s⟩]
  | part :: parts, s => (part.ways line s).flatMap fun way => (ways line parts way.rest).map way.andThen

end

/-- What the groups take in the preferred match, which begins as early in the line as any. -/
def match? (parts : List Part) (line : Text) : Option (List (Text × Text)) :=
  (Segment.suffixes line).findSome? fun s => (ways line parts s).head?.map Way.groups

variable {line : Text}

theorem Way.andThen_of_nil (s : Text) : Way.andThen ⟨[], s⟩ = id := rfl

theorem Way.andThen_andThen (first later : Way) : (first.andThen later).andThen = first.andThen ∘ later.andThen := by
  funext last
  simp [andThen]

theorem ways_append (parts parts' : List Part) (s : Text) :
    ways line (parts ++ parts') s = (ways line parts s).flatMap fun way => (ways line parts' way.rest).map way.andThen := by
  induction parts generalizing s with
  | nil => simp [ways, Way.andThen_of_nil]
  | cons part parts ih =>
    simp only [List.cons_append, ways, ih, List.flatMap_assoc, List.map_flatMap, List.flatMap_map, List.map_map,
      Way.andThen_andThen]
    rfl

/-! ## Counts -/

theorem counts_anyNumber (available : Nat) : Times.anyNumber.counts true available = Segment.upFrom 0 (available + 1) := by
  have all : (List.range (available + 1)).filter (Times.anyNumber.admits available) = List.range (available + 1) := by
    rw [List.filter_eq_self]
    intro n member
    have inside := List.mem_range.1 member
    simp only [Times.admits, decide_eq_true_eq]
    omega
  simp [Times.counts, all, Segment.upFrom]

theorem filter_atLeastOnce (available : Nat) :
    (List.range (available + 1)).filter (Times.atLeastOnce.admits available) = Segment.upFrom 1 available := by
  have all : (List.range available).filter (Times.atLeastOnce.admits available ∘ Nat.succ) = List.range available := by
    rw [List.filter_eq_self]
    intro n member
    have inside := List.mem_range.1 member
    simp only [Times.admits, Function.comp_apply, Bool.and_eq_true, decide_eq_true_eq]
    omega
  rw [List.range_succ_eq_map, List.filter_cons_of_neg (by simp [Times.admits]), List.filter_map, all, Segment.upFrom]
  exact List.map_congr_left fun n _ => Nat.succ_eq_one_add n

theorem counts_little (available : Nat) : Times.atLeastOnce.counts true available = Segment.upFrom 1 available :=
  filter_atLeastOnce available

theorem counts_most (available : Nat) : Times.atLeastOnce.counts false available = Text.lengthsDown available := by
  have down : (Segment.upFrom 1 available).reverse = Text.lengthsDown available := by
    induction available with
    | zero => rfl
    | succ n ih =>
      rw [Text.lengthsDown, ← ih]
      simp [Segment.upFrom, List.range_succ, Nat.add_comm]
  rw [Times.counts, filter_atLeastOnce]
  exact down

theorem counts_atMostOnce (available : Nat) :
    Times.atMostOnce.counts false available = if available = 0 then [0] else [1, 0] := by
  cases available with
  | zero => rfl
  | succ available => simp [Times.counts, List.range_succ_eq_map, List.filter_map, Times.admits, Function.comp_def]

theorem counts_percent (s : Text) : Times.atMostOnce.counts false (s.takeWhile (Class.exactly '%').admits).length =
    if s.head? = some '%' then [1, 0] else [0] := by
  rw [counts_atMostOnce]
  cases s with
  | nil => rfl
  | cons c s => by_cases percent : c = '%' <;> simp [percent, Class.admits]

/-! ## Slots -/

theorem ways_repeated (what : Class) (times : Times) (little : Bool) (parts : List Part) (s : Text) :
    ways line (.repeated what times little :: parts) s =
      (times.counts little (s.takeWhile what.admits).length).flatMap fun n => ways line parts (s.drop n) := by
  simp [ways, Part.ways, List.flatMap_map, Way.andThen_of_nil]

/-- Within a run of digits there is no percent sign. -/
theorem head?_drop_ne_percent {s : Text} {n : Nat} (inside : n < Segment.digitCount s) : (s.drop n).head? ≠ some '%' := by
  intro percent
  have short : n + 1 ≤ s.length := Nat.le_trans inside (Segment.length_takeWhile_le _ s)
  have digits := (Segment.all_take_iff short).2 inside
  have member : '%' ∈ s.take (n + 1) := by
    rw [List.head?_drop] at percent
    exact List.mem_of_getElem? (i := n) (by rw [List.getElem?_take_of_lt (Nat.lt_succ_self n), percent])
  exact Segment.not_isScriptDigit_percent (digits '%' member)

theorem ways_finish (s : Text) : ways line (innerParts .finish) s = (Segment.lengths s .finish).map fun n => ⟨[], s.drop n⟩ := by
  have shorter (m : Nat) (inside : m < Segment.digitCount s) : (Text.lengthsDown m).flatMap (fun n =>
      ways line [.repeated (.exactly '%') .atMostOnce false] (s.drop n)) = (Text.lengthsDown m).map fun n => ⟨[], s.drop n⟩ := by
    rw [List.map_eq_flatMap]
    refine List.flatMap_congr fun n member => ?_
    have before := (Segment.mem_lengthsDown.1 member).2
    rw [ways_repeated, counts_percent, if_neg (head?_drop_ne_percent (by omega))]
    rfl
  have digits : (s.takeWhile Class.digit.admits).length = Segment.digitCount s := rfl
  rw [innerParts, ways_repeated, counts_most, digits, Segment.lengths]
  cases longest : Segment.digitCount s with
  | zero => rfl
  | succ m =>
    rw [Text.lengthsDown, List.flatMap_cons, shorter m (by omega), ways_repeated, counts_percent]
    by_cases percent : s[m + 1]? = some '%' <;> simp [percent, ways]

theorem ways_inner (p : Placeholder) (s : Text) :
    ways line (innerParts p) s = (Segment.lengths s p).map fun n => ⟨[], s.drop n⟩ := by
  have single (what : Class) (times : Times) (little : Bool) : ways line [.repeated what times little] s =
      (times.counts little (s.takeWhile what.admits).length).map fun n => ⟨[], s.drop n⟩ := by
    rw [ways_repeated, List.map_eq_flatMap]
    rfl
  cases p with
  | finish => exact ways_finish s
  | date | book => exact (single .any .atLeastOnce true).trans (congrArg _ (counts_little _))
  | anything => exact (single .any .anyNumber true).trans (congrArg _ (counts_anyNumber _))
  | startPage | endPage => exact (single .digit .atLeastOnce false).trans (congrArg _ (counts_most _))

/-- A slot takes of a text what it can take as a segment, and its group records that. -/
theorem ways_slot (p : Placeholder) (s : Text) : ways line (segmentParts (.slot p)) s =
    (Segment.lengths s p).map fun n => ⟨((segmentName? (.slot p)).map fun name => (name, s.take n)).toList, s.drop n⟩ := by
  by_cases named : p = .anything
  · subst named
    exact ways_inner .anything s
  · have alone (q : Part) : ways line [q] s = q.ways line s := by
      simp [ways, Way.andThen]
    rw [segmentName?_slot named, segmentParts_slot named, alone, Part.ways, ways_inner, List.map_map]
    refine List.map_congr_left fun n member => ?_
    have taken : s.length - (s.drop n).length = n := by
      have inside := Segment.le_length_of_mem_lengths member
      rw [List.length_drop]
      omega
    simp only [Function.comp_apply, taken, Option.map_some, Option.toList_some]

theorem ways_literal (text s : Text) : ways line (segmentParts (.literal text)) s =
    if text.isPrefixOf s then [⟨[], s.drop text.length⟩] else [] := by
  induction text generalizing s with
  | nil => simp [segmentParts, ways]
  | cons c text ih =>
    have first : segmentParts (.literal (c :: text)) = .once (.exactly c) :: segmentParts (.literal text) := rfl
    rw [first, ways, Part.ways]
    cases s with
    | nil => simp
    | cons d s =>
      by_cases same : d = c
      · subst same
        simp [Class.admits, ih, Way.andThen_of_nil]
      · simp [Class.admits, same, Ne.symm same]

/-! ## Lines -/

/-- What the groups of some segments take of a line that is split into pieces. -/
def groupsOf (segments : List Segment) (pieces : List Text) : List (Text × Text) :=
  (segments.zip pieces).filterMap fun (segment, piece) => (segmentName? segment).map fun name => (name, piece)

theorem groupsOf_cons (segment : Segment) (segments : List Segment) (piece : Text) (pieces : List Text) :
    groupsOf (segment :: segments) (piece :: pieces) =
      ((segmentName? segment).map fun name => (name, piece)).toList ++ groupsOf segments pieces := by
  cases named : segmentName? segment <;> simp [groupsOf, named]

/-- The preferred way through the segments to the end of the text is the preferred split of the text. -/
theorem head?_ways_segments (segments : List Segment) (s : Text) :
    ((ways line (segments.flatMap segmentParts ++ [.finish]) s).head?).map Way.groups =
      (Segment.split? segments s).map (groupsOf segments) := by
  induction segments generalizing s with
  | nil => cases s <;> rfl
  | cons segment segments ih =>
    have later (way : Way) : ((ways line (segments.flatMap segmentParts ++ [.finish]) way.rest).map way.andThen).head?.map
        Way.groups = (Segment.split? segments way.rest).map fun pieces => way.groups ++ groupsOf segments pieces := by
      have behind := congrArg (Option.map (way.groups ++ ·)) (ih way.rest)
      rw [Option.map_map, Option.map_map] at behind
      rw [List.head?_map, Option.map_map]
      exact behind
    rw [List.flatMap_cons, List.append_assoc, ways_append, List.head?_flatMap, List.map_findSome?]
    simp only [Function.comp_def, later]
    cases segment with
    | literal text =>
      rw [ways_literal, Segment.split?]
      split
      · simp [groupsOf_cons, segmentName?, Function.comp_def]
      · rfl
    | slot p =>
      rw [ways_slot, Segment.split?, List.findSome?_map, List.map_findSome?]
      refine Segment.findSome?_congr fun n _ => ?_
      simp [groupsOf_cons, Function.comp_def]

theorem length_le_of_mem_suffixes {s t : Text} (member : s ∈ Segment.suffixes t) : s.length ≤ t.length := by
  obtain ⟨i, found⟩ := List.mem_iff_getElem?.1 member
  rw [Segment.getElem?_suffixes] at found
  obtain ⟨-, same⟩ := Option.ite_none_right_eq_some.1 found
  rw [← Option.some.inj same, List.length_drop]
  exact Nat.sub_le ..

/-- The expression for some segments matches the lines that they split, and its groups take the pieces of the preferred split. -/
theorem match?_segments (segments : List Segment) (line : Text) :
    match? (.start :: segments.flatMap segmentParts ++ [.finish]) line =
      (Segment.split? segments line).map (groupsOf segments) := by
  have start (s : Text) : (ways line (.start :: segments.flatMap segmentParts ++ [.finish]) s).head?.map Way.groups =
      if s.length = line.length then (Segment.split? segments s).map (groupsOf segments) else none := by
    rw [List.cons_append, ways, Part.ways]
    split
    · simp [Way.andThen_of_nil, head?_ways_segments]
    · rfl
  rw [match?]
  simp only [start]
  -- A match has to begin with the line, so no shorter suffix has one.
  cases line with
  | nil => simp [Segment.suffixes]
  | cons c line =>
    have shorter : (Segment.suffixes line).findSome? (fun s =>
        if s.length = (c :: line).length then (Segment.split? segments s).map (groupsOf segments) else none) = none := by
      rw [List.findSome?_eq_none_iff]
      intro s member
      have short := length_le_of_mem_suffixes member
      rw [if_neg (by rw [List.length_cons]; omega)]
    rw [Segment.suffixes, List.findSome?_cons, if_pos rfl, shorter]
    cases (Segment.split? segments (c :: line)).map (groupsOf segments) <;> rfl

theorem lookup_groupsOf {p : Placeholder} (named : p ≠ .anything) (segments : List Segment) (pieces : List Text) :
    (groupsOf segments pieces).lookup p.name.toList = Segment.piece? p segments pieces := by
  rw [groupsOf, Segment.piece?]
  induction segments.zip pieces with
  | nil => rfl
  | cons pair pairs ih =>
    obtain ⟨segment, piece⟩ := pair
    by_cases here : segment = .slot p
    · subst here
      simp [segmentName?_slot named]
    · have other : segmentName? segment ≠ some p.name.toList := mt (segmentName?_eq_some_iff named).1 here
      cases name : segmentName? segment with
      | none => simpa [name, here] using ih
      | some name' =>
        have differs : (p.name.toList == name') = false := by
          rw [beq_eq_false_iff_ne]
          rintro rfl
          exact other name
        simpa [name, here, List.lookup_cons, differs] using ih

end Expression

/-- A pattern has the expression read that its template is written out as. The expression matches the lines that the segments
split, and its groups take the pieces of the split that the pattern goes by. -/
theorem Pattern.splits_by_expression (p : Pattern) (line : Text) :
    ∃ parts, Expression.ofText? (Expression.spell p.segments) = some parts ∧
      (Expression.match? parts line = none ↔ Segment.preferred? p.segments line = none) ∧
      ∀ pieces, Segment.preferred? p.segments line = some pieces → ∃ groups, Expression.match? parts line = some groups ∧
        ∀ q ≠ .anything, groups.lookup q.name.toList = Segment.piece? q p.segments pieces := by
  have single := Expression.nodup_names_iff.2 fun q named => p.count_le_one named
  refine ⟨_, Expression.ofText?_spell.2 ⟨single, rfl⟩, ?_, fun pieces split => ?_⟩
  · rw [Expression.match?_segments, Segment.preferred?_eq, Option.map_eq_none_iff]
  · rw [Expression.match?_segments, ← Segment.preferred?_eq, split]
    exact ⟨_, rfl, fun q named => Expression.lookup_groupsOf named p.segments pieces⟩

end ReadingLog
