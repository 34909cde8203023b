import ReadingLog.Text.Basic

/-!
# Tables

The values of a settings document and the statements it is made of: headers, which open tables, and assignments.
`Table.ofStatements?` is the table that statements define; it is none where they define something twice.
-/

namespace ReadingLog.Toml

/-- How a table came into being, which decides what may still be added to it. -/
inductive Origin where
  /-- It has a header. -/
  | header
  /-- A header names a table in it. -/
  | implied
  /-- An assignment names it in a dotted key. -/
  | dotted
  /-- It is written between braces. -/
  | inline
  deriving DecidableEq, Repr

/-- A value of a settings document. -/
inductive Value where
  | string (text : Text)
  | integer (value : Int)
  | float (text : Text)
  | boolean (value : Bool)
  | moment (text : Text)
  /-- An array; an open one grows with headers in double brackets. -/
  | array (isOpen : Bool) (items : List Value)
  | table (origin : Origin) (entries : List (Text × Value))
  deriving Repr

/-- Names with their values, each name once. -/
abbrev Table := List (Text × Value)

/-- The place of a value: the tables it is in, outermost first, and its name. -/
structure Key where
  tables : List Text
  name : Text
  deriving DecidableEq, Repr

/-- A statement, of which `α` is what it can assign. -/
inductive Statement (α : Type) where
  | header (key : Key)
  | element (key : Key)
  | assign (key : Key) (value : α)
  deriving DecidableEq, Repr

namespace Statement

/-- The statement with its value changed. -/
def map {α β : Type} (f : α → β) : Statement α → Statement β
  | header key => header key
  | element key => element key
  | assign key value => assign key (f value)

end Statement

namespace Table

/-- The value of a name. -/
def get? (t : Table) (name : Text) : Option Value := List.lookup name t

/-- The table with a value for a name, in the place of any earlier one. -/
def put (t : Table) (name : Text) (value : Value) : Table :=
  match t with
  | [] => [(name, value)]
  | (other, old) :: rest => if other = name then (name, value) :: rest else (other, old) :: put rest name value

/-- The table changed at a place inside it. Tables on the way that do not exist come into being by way of a dotted key or a
    header; a dotted key reaches into no table that has a header, and nothing reaches into a table between braces. -/
def editAt? (isDotted : Bool) (edit : Origin → Table → Option (Origin × Table)) :
    List Text → Origin → Table → Option (Origin × Table)
  | [], origin, t => edit origin t
  | name :: path, origin, t =>
    let change (origin : Origin) (inner : Table) : Option Value :=
      (editAt? isDotted edit path origin inner).map fun (origin, inner) => .table origin inner
    let changed? : Option Value := match t.get? name with
      | none => change (if isDotted then .dotted else .implied) []
      | some (.table made inner) =>
        if made = .inline ∨ (isDotted ∧ made = .header) then none else change made inner
      | some (.array true items) =>
        match items.getLast? with
        | some (.table last inner) => (change last inner).map fun value => .array true (items.dropLast ++ [value])
        | _ => none
      | some _ => none
    changed?.map fun value => (origin, t.put name value)

/-- The table with an assignment made in it. A name is assigned once, and a dotted key adds to tables of dotted keys
    only. -/
def assign? (key : Key) (value : Value) (origin : Origin) (t : Table) : Option (Origin × Table) :=
  editAt? true (fun inner t =>
    if (inner = .dotted ↔ key.tables = []) ∨ (t.get? key.name).isSome then none
    else some (inner, t.put key.name value)) key.tables origin t

/-- The table with a header for one of its tables, which no other header or assignment has made before. -/
def header? (key : Key) (t : Table) : Option Table :=
  (editAt? false (fun inner t =>
    match t.get? key.name with
    | none => some (inner, t.put key.name (.table .header []))
    | some (.table .implied old) => some (inner, t.put key.name (.table .header old))
    | some _ => none) key.tables .header t).map (·.2)

/-- The table with one more element in one of its open arrays. -/
def element? (key : Key) (t : Table) : Option Table :=
  (editAt? false (fun inner t =>
    match t.get? key.name with
    | none => some (inner, t.put key.name (.array true [.table .header []]))
    | some (.array true items) => some (inner, t.put key.name (.array true (items ++ [.table .header []])))
    | some _ => none) key.tables .header t).map (·.2)

/-- A document in the making: all of its table, and the place that assignments are made in. -/
structure Draft where
  root : Table
  place : List Text
  deriving Repr

/-- The draft after one more statement. -/
def Draft.add? (d : Draft) : Statement Value → Option Draft
  | .header key => (header? key d.root).map (⟨·, key.tables ++ [key.name]⟩)
  | .element key => (element? key d.root).map (⟨·, key.tables ++ [key.name]⟩)
  | .assign key value => (editAt? false (assign? key value) d.place .header d.root).map fun (_, root) => ⟨root, d.place⟩

/-- The table that statements define. -/
def ofStatements? (statements : List (Statement Value)) : Option Table :=
  (statements.foldlM Draft.add? ⟨[], []⟩).map Draft.root

/-- The table between braces that assignments define. -/
def ofAssignments? (assignments : List (Key × Value)) : Option Table :=
  (assignments.foldlM (fun (t : Table) (key, value) => (assign? key value .inline t).map (·.2)) [])

end Table
end ReadingLog.Toml
