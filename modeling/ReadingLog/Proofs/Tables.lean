import ReadingLog.Toml.Table

/-!
# Tables that statements build

Where each header names a table that is new, and each assignment a name that is new in its table, statements add to the last
table of a document: `nest` is that table with those around it.
-/

namespace ReadingLog.Toml.Table

variable {t t' : Table} {name : Text} {value old : Value} {path : List (Text × Table)}

/-! ## One table -/

theorem get?_cons (other : Text) (held : Value) (t : Table) (name : Text) :
    Table.get? ((other, held) :: t) name = if name = other then some held else t.get? name := by
  rw [get?, List.lookup_cons]
  by_cases same : name = other
  · simp [same]
  · have unequal : (name == other) = false := beq_false_of_ne same
    simp [unequal, same, get?]

theorem get?_append (t u : Table) (name : Text) : Table.get? (t ++ u) name = (t.get? name).or (u.get? name) :=
  List.lookup_append

/-- The table with a value for one name, if there is a value. -/
theorem get?_optional {α : Type} (name other : Text) (held : Option α) (f : α → Value) :
    Table.get? (held.toList.map fun a => (name, f a)) other = if other = name then held.map f else none := by
  cases held with
  | none => rw [Option.map_none, ite_self]; rfl
  | some a => exact get?_cons name (f a) [] other

theorem get?_last (absent : t.get? name = none) : Table.get? (t ++ [(name, value)]) name = some value := by
  rw [get?_append, absent, get?_cons, if_pos rfl]
  rfl

theorem put_of_absent (absent : t.get? name = none) : t.put name value = t ++ [(name, value)] := by
  induction t with
  | nil => rfl
  | cons entry t ih =>
    obtain ⟨other, held⟩ := entry
    rw [get?_cons] at absent
    split at absent
    · contradiction
    · next differs =>
      rw [put, if_neg (Ne.symm differs), ih absent]
      rfl

theorem put_last (absent : t.get? name = none) : Table.put (t ++ [(name, old)]) name value = t ++ [(name, value)] := by
  induction t with
  | nil => simp [put]
  | cons entry t ih =>
    obtain ⟨other, held⟩ := entry
    rw [get?_cons] at absent
    split at absent
    · contradiction
    · next differs =>
      rw [List.cons_append, put, if_neg (Ne.symm differs), ih absent]
      rfl

/-! ## Tables within tables -/

/-- A table inside others, outermost first, each of which has the next one as its last entry. -/
def nest : List (Text × Table) → Table → Table
  | [], t => t
  | (name, before) :: path, t => before ++ [(name, .table .header (nest path t))]

/-- Every name on the way is given once. -/
def IsWay (path : List (Text × Table)) : Prop := ∀ step ∈ path, Table.get? step.2 step.1 = none

theorem nest_concat (path : List (Text × Table)) (name : Text) (before t : Table) :
    nest (path ++ [(name, before)]) t = nest path (before ++ [(name, .table .header t)]) := by
  induction path with
  | nil => rfl
  | cons step path ih => rw [List.cons_append, nest, nest, ih]

theorem editAt?_nest {edit : Origin → Table → Option (Origin × Table)} (way : IsWay path)
    (edited : edit .header t = some (.header, t')) :
    editAt? false edit (path.map Prod.fst) .header (nest path t) = some (.header, nest path t') := by
  induction path with
  | nil => exact edited
  | cons step path ih =>
    obtain ⟨name, before⟩ := step
    have absent : before.get? name = none := way _ List.mem_cons_self
    have inner := ih fun step member => way step (List.mem_cons_of_mem _ member)
    rw [List.map_cons, nest, nest, editAt?]
    simp [get?_last absent, inner, put_last absent]

/-- An assignment adds to the innermost table. -/
theorem add?_assign (way : IsWay path) (absent : t.get? name = none) :
    Draft.add? ⟨nest path t, path.map Prod.fst⟩ (.assign ⟨[], name⟩ value) =
      some ⟨nest path (t ++ [(name, value)]), path.map Prod.fst⟩ := by
  have edited : assign? ⟨[], name⟩ value .header t = some (.header, t ++ [(name, value)]) := by
    simp [assign?, editAt?, absent, put_of_absent absent]
  simp [Draft.add?, editAt?_nest way edited]

/-- A header opens a table in the innermost one. -/
theorem add?_header (way : IsWay path) (absent : t.get? name = none) (place : List Text) :
    Draft.add? ⟨nest path t, place⟩ (.header ⟨path.map Prod.fst, name⟩) =
      some ⟨nest (path ++ [(name, t)]) [], (path ++ [(name, t)]).map Prod.fst⟩ := by
  have opened (edit : Origin → Table → Option (Origin × Table))
      (edited : edit .header t = some (.header, t ++ [(name, .table .header [])])) :
      (editAt? false edit (path.map Prod.fst) .header (nest path t)).map (·.2) = some (nest (path ++ [(name, t)]) []) := by
    rw [editAt?_nest way edited, nest_concat]
    rfl
  have header : header? ⟨path.map Prod.fst, name⟩ (nest path t) = some (nest (path ++ [(name, t)]) []) :=
    opened _ (by simp [absent, put_of_absent absent])
  simp [Draft.add?, header]

/-! ## Fields -/

/-- The entries of a table of strings, each of which may be absent. -/
def ofFields (fields : List (String × Option String)) : Table :=
  fields.flatMap fun (name, value) => value.toList.map fun s => (name.toList, .string s.toList)

/-- The assignments of fields that are there. -/
def assignments (fields : List (String × Option String)) : List (Statement Value) :=
  fields.flatMap fun (name, value) => value.toList.map fun s => .assign ⟨[], name.toList⟩ (.string s.toList)

theorem ofFields_cons (name : String) (value : Option String) (fields : List (String × Option String)) :
    ofFields ((name, value) :: fields) = (value.toList.map fun s => (name.toList, .string s.toList)) ++ ofFields fields :=
  List.flatMap_cons

theorem get?_field (name : String) (value : Option String) (other : String) :
    Table.get? (value.toList.map fun s => (name.toList, .string s.toList)) other.toList =
      if other = name then value.map fun s => .string s.toList else none := by
  rw [get?_optional name.toList other.toList value fun s => .string s.toList]
  simp only [String.toList_inj]

theorem get?_ofFields_of_notMem {fields : List (String × Option String)} {name : String}
    (foreign : name ∉ fields.map Prod.fst) : (ofFields fields).get? name.toList = none := by
  induction fields with
  | nil => rfl
  | cons field fields ih =>
    obtain ⟨other, value⟩ := field
    rw [List.map_cons, List.mem_cons, not_or] at foreign
    rw [ofFields_cons, get?_append, get?_field, if_neg foreign.1, ih foreign.2, Option.none_or]

theorem get?_ofFields {fields : List (String × Option String)} (nodup : (fields.map Prod.fst).Nodup) {name : String}
    {value : Option String} (member : (name, value) ∈ fields) :
    (ofFields fields).get? name.toList = value.map fun s => .string s.toList := by
  induction fields with
  | nil => cases member
  | cons field fields ih =>
    obtain ⟨other, held⟩ := field
    obtain ⟨fresh, distinct⟩ := List.nodup_cons.1 nodup
    rw [ofFields_cons, get?_append, get?_field]
    rcases List.mem_cons.1 member with same | later
    · obtain ⟨rfl, rfl⟩ := Prod.mk.inj same
      rw [if_pos rfl, get?_ofFields_of_notMem fresh, Option.or_none]
    · have differs : name ≠ other := by
        rintro rfl
        exact fresh (List.mem_map.2 ⟨_, later, rfl⟩)
      rw [if_neg differs, ih distinct later, Option.none_or]

theorem foldlM_assignments {fields : List (String × Option String)} (nodup : (fields.map Prod.fst).Nodup) (way : IsWay path)
    (absent : ∀ name ∈ fields.map Prod.fst, t.get? name.toList = none) :
    (assignments fields).foldlM Draft.add? ⟨nest path t, path.map Prod.fst⟩ =
      some ⟨nest path (t ++ ofFields fields), path.map Prod.fst⟩ := by
  -- The table so far has none of the names that are still to come.
  induction fields generalizing t with
  | nil => simp [assignments, ofFields]
  | cons field fields ih =>
    obtain ⟨name, value⟩ := field
    obtain ⟨fresh, distinct⟩ := List.nodup_cons.1 nodup
    have here := absent name List.mem_cons_self
    have later : ∀ other ∈ fields.map Prod.fst, Table.get? t other.toList = none :=
      fun other member => absent other (List.mem_cons_of_mem _ member)
    rw [assignments, List.flatMap_cons, ← assignments, List.foldlM_append, ofFields_cons]
    cases value with
    | none => exact ih distinct later
    | some s =>
      have added : ∀ other ∈ fields.map Prod.fst, Table.get? (t ++ [(name.toList, .string s.toList)]) other.toList = none := by
        intro other member
        have differs : other.toList ≠ name.toList := fun same => fresh (String.toList_inj.1 same ▸ member)
        rw [get?_append, later other member, get?_cons, if_neg differs]
        rfl
      simp only [Option.toList_some, List.map_singleton, List.foldlM_cons, List.foldlM_nil, add?_assign way here]
      rw [← List.append_assoc]
      exact ih distinct added

end ReadingLog.Toml.Table
