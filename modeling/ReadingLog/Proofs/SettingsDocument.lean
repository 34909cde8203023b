import ReadingLog.Proofs.Documents
import ReadingLog.Proofs.Instants
import ReadingLog.Proofs.Tables
import ReadingLog.Settings

/-!
# Settings are read back

A settings document may leave out any setting but the instant of setting up. What it gives is read as it is given, and a
default takes the place of the rest. The document that is saved leaves out only what is absent, so that settings are read
back from it.
-/

namespace ReadingLog

open Toml (Statement Value Table Origin)

/-! ## The tables of a settings document -/

namespace Templates

/-- The fields of the table of templates. -/
def fields (t : Templates) : List (String × Option String) :=
  Template.Purpose.all.map fun purpose => (purpose.name, t.get purpose)

theorem fields_nodup (t : Templates) : (t.fields.map Prod.fst).Nodup := by
  have names : t.fields.map Prod.fst = Template.Purpose.all.map Template.Purpose.name := rfl
  rw [names]
  decide

theorem get?_fields (t : Templates) (purpose : Template.Purpose) :
    (Table.ofFields t.fields).get? purpose.name.toList = (t.get purpose).map fun s => .string s.toList :=
  Table.get?_ofFields t.fields_nodup (List.mem_map.2 ⟨purpose, by cases purpose <;> decide, rfl⟩)

end Templates

/-! ## What a document gives -/

/-- What a section gives of the settings of a log. -/
structure LogSettings.Excerpt where
  folder : Option String
  datePattern : Option String
  heading : Option String
  templates : Option Templates

/-- What a document gives of settings: the instant of setting up, and a section for each log or none. -/
structure Settings.Excerpt where
  created : Instant
  sections : Template.Log → Option LogSettings.Excerpt

namespace Settings

/-- The assignments of fields that are there. -/
def assigns (fields : List (String × Option String)) : List (Statement Text) :=
  fields.flatMap fun (name, value) => assign name value

theorem map_assigns (fields : List (String × Option String)) :
    (assigns fields).map (Statement.map Value.string) = Table.assignments fields := by
  simp [assigns, assign, Table.assignments, Statement.map, List.map_flatMap, Function.comp_def]

theorem string?_map (value : Option String) : string? (value.map fun s => .string s.toList) = some value := by
  cases value with
  | none => rfl
  | some s => simp [string?]

theorem stringOr?_map (default : String) (value : Option String) :
    stringOr? default (value.map fun s => .string s.toList) = some (value.getD default) := by
  cases value with
  | none => rfl
  | some s => simp [stringOr?]

end Settings

namespace LogSettings.Excerpt

open Settings (sectionName templatesName)

variable (e : Excerpt) (log : Template.Log)

/-- Everything in the settings of a log. -/
def ofLog (folder : Option String) (s : LogSettings) : Excerpt := ⟨folder, s.datePattern, s.heading, s.templates⟩

/-- The settings of a log that a section gives, and defaults for the others. -/
def settings : LogSettings :=
  ⟨e.datePattern.getD DateLayout.defaultPattern, e.heading.getD (initialHeading log), e.templates.getD (.initial log)⟩

/-- The fields of a section. -/
def fields : List (String × Option String) := [("folder", e.folder), ("date_format", e.datePattern), ("heading", e.heading)]

/-- The statements of a section. -/
def statements : List (Statement Text) :=
  .header ⟨[], sectionName log⟩ :: (Settings.assigns e.fields ++
    e.templates.toList.flatMap fun t => .header ⟨[sectionName log], templatesName⟩ :: Settings.assigns t.fields)

/-- The table of a section. -/
def table : Table :=
  Table.ofFields e.fields ++ e.templates.toList.map fun t => (templatesName, .table .header (Table.ofFields t.fields))

theorem names_fields : e.fields.map Prod.fst = ["folder", "date_format", "heading"] := rfl

theorem fields_nodup : (e.fields.map Prod.fst).Nodup := by
  rw [names_fields]
  decide

theorem get?_fields_templatesName : (Table.ofFields e.fields).get? templatesName = none :=
  Table.get?_ofFields_of_notMem (by rw [names_fields]; decide)

theorem get?_table {name : String} {value : Option String} (member : (name, value) ∈ e.fields) :
    e.table.get? name.toList = value.map fun s => .string s.toList := by
  have named : name ∈ e.fields.map Prod.fst := List.mem_map.2 ⟨_, member, rfl⟩
  have apart : ∀ name ∈ ["folder", "date_format", "heading"], name.toList ≠ templatesName := by decide
  rw [table, Table.get?_append, Table.get?_ofFields e.fields_nodup member, Table.get?_optional, if_neg (apart name named),
    Option.or_none]

theorem get?_table_templatesName :
    e.table.get? templatesName = e.templates.map fun t => .table .header (Table.ofFields t.fields) := by
  rw [table, Table.get?_append, e.get?_fields_templatesName, Option.none_or, Table.get?_optional, if_pos rfl]

/-- The statements of a section add its table. -/
theorem foldlM_statements {root : Table} (absent : root.get? (sectionName log) = none) (place : List Text) :
    ∃ place', ((e.statements log).map (Statement.map Value.string)).foldlM Table.Draft.add? ⟨root, place⟩ =
      some ⟨root ++ [(sectionName log, .table .header e.table)], place'⟩ := by
  let outer : List (Text × Table) := [(sectionName log, root)]
  have outer_way : Table.IsWay outer := by simp [outer, Table.IsWay, absent]
  have opened : Table.Draft.add? ⟨root, place⟩ (.header ⟨[], sectionName log⟩) =
      some ⟨Table.nest outer [], outer.map Prod.fst⟩ :=
    @Table.add?_header root _ [] (by simp [Table.IsWay]) absent place
  have filled := @Table.foldlM_assignments [] outer e.fields e.fields_nodup outer_way fun _ _ => rfl
  rw [List.nil_append] at filled
  rw [statements, List.map_cons, List.map_append, Settings.map_assigns, Statement.map, List.foldlM_cons, opened]
  simp only [Option.bind_eq_bind, Option.bind_some, List.foldlM_append, filled]
  cases templates : e.templates with
  | none =>
    refine ⟨outer.map Prod.fst, ?_⟩
    rw [table, templates, Option.toList_none, List.map_nil, List.append_nil]
    rfl
  | some t =>
    let inner : List (Text × Table) := outer ++ [(templatesName, Table.ofFields e.fields)]
    have inner_way : Table.IsWay inner := by simp [inner, outer, Table.IsWay, absent, e.get?_fields_templatesName]
    have divided : Table.Draft.add? ⟨Table.nest outer (Table.ofFields e.fields), outer.map Prod.fst⟩
        (.header ⟨[sectionName log], templatesName⟩) = some ⟨Table.nest inner [], inner.map Prod.fst⟩ :=
      Table.add?_header outer_way e.get?_fields_templatesName (outer.map Prod.fst)
    have filled' := @Table.foldlM_assignments [] inner t.fields t.fields_nodup inner_way fun _ _ => rfl
    rw [List.nil_append] at filled'
    have mapped : (Statement.header ⟨[sectionName log], templatesName⟩ :: Settings.assigns t.fields).map
        (Statement.map Value.string) = .header ⟨[sectionName log], templatesName⟩ :: Table.assignments t.fields :=
      congrArg (List.cons _) (Settings.map_assigns _)
    refine ⟨inner.map Prod.fst, ?_⟩
    rw [Option.toList_some, List.flatMap_singleton, mapped, List.foldlM_cons, divided, Option.bind_eq_bind, Option.bind_some,
      filled', table, templates]
    rfl

theorem templates?_table :
    Settings.templates? log (e.templates.map fun t => .table .header (Table.ofFields t.fields)) =
      some (e.templates.getD (.initial log)) := by
  cases e.templates with
  | none => rfl
  | some t =>
    have template (purpose : Template.Purpose) (place : Nat) :
        Settings.string? (Settings.member? (.table .header (Table.ofFields t.fields)) purpose.name place) =
          some (t.get purpose) := by
      rw [Settings.member?, t.get?_fields, Settings.string?_map]
    simp only [Option.map_some, Settings.templates?, Settings.isRecord, template]
    rfl

theorem logOf?_table (first : Nat) : Settings.logOf? log first (.table .header e.table) = some (e.settings log) := by
  have pattern := e.get?_table (List.mem_cons_of_mem _ List.mem_cons_self)
  have heading := e.get?_table (List.mem_cons_of_mem _ (List.mem_cons_of_mem _ List.mem_cons_self))
  have templates : e.table.get? "templates".toList = _ := e.get?_table_templatesName
  simp only [Settings.logOf?, Settings.member?, pattern, heading, templates, Settings.stringOr?_map, templates?_table,
    Option.bind_eq_bind, Option.bind_some]
  rfl

theorem string?_folder : Settings.string? (Settings.member? (.table .header e.table) "folder" 0) = some e.folder := by
  rw [Settings.member?, e.get?_table List.mem_cons_self, Settings.string?_map]

end LogSettings.Excerpt

namespace Settings

theorem tables_of_mem_assigns {fields : List (String × Option String)} {st : Statement Text} (member : st ∈ assigns fields) :
    st.key.tables = [] := by
  obtain ⟨_, -, assigned⟩ := List.mem_flatMap.1 member
  obtain ⟨_, -, rfl⟩ := List.mem_map.1 assigned
  rfl

namespace Excerpt

variable (e : Excerpt)

/-- Everything in settings. -/
def ofSettings (s : Settings) : Excerpt where
  created := s.created
  sections
    | .day => some (.ofLog s.folder s.daily)
    | .book => some (.ofLog none s.books)

/-- The settings of a log: those of its section, or those of a new vault. -/
def ofLog (log : Template.Log) : LogSettings := ((e.sections log).map (·.settings log)).getD (.initial log)

/-- The settings that a document gives, and defaults for the others. -/
def settings : Settings := ⟨e.created, (e.sections .day).bind (·.folder), e.ofLog .day, e.ofLog .book⟩

/-- The statements of the section for a log, if there is one. -/
def sectionStatements (log : Template.Log) : List (Statement Text) := (e.sections log).toList.flatMap (·.statements log)

/-- The statements of a document. -/
def statements : List (Statement Text) :=
  .assign ⟨[], "created".toList⟩ e.created.toText :: (e.sectionStatements .day ++ e.sectionStatements .book)

/-- The entry for a log. -/
def entry (log : Template.Log) : Table := (e.sections log).toList.map fun s => (sectionName log, .table .header s.table)

/-- The table of a document. -/
def table : Table := ("created".toList, .string e.created.toText) :: (e.entry .day ++ e.entry .book)

/-! ## Writing -/

theorem foldlM_sectionStatements {root : Table} {log : Template.Log} (absent : root.get? (sectionName log) = none)
    (place : List Text) : ∃ place', ((e.sectionStatements log).map (Statement.map Value.string)).foldlM Table.Draft.add?
      ⟨root, place⟩ = some ⟨root ++ e.entry log, place'⟩ := by
  unfold sectionStatements entry
  cases e.sections log with
  | none => exact ⟨place, by simp⟩
  | some s =>
    simp only [Option.toList_some, List.flatMap_singleton, List.map_singleton]
    exact s.foldlM_statements log absent place

theorem get?_entry (log other : Template.Log) :
    (e.entry log).get? (sectionName other) =
      if other = log then (e.sections other).map fun s => .table .header s.table else none := by
  have names : sectionName other = sectionName log ↔ other = log := by cases other <;> cases log <;> decide
  simp only [entry, Table.get?_optional, names]
  split
  · next same => rw [same]
  · rfl

theorem sectionName_ne_created (log : Template.Log) : sectionName log ≠ "created".toList := by cases log <;> decide

theorem ofStatements?_statements : Table.ofStatements? (e.statements.map (Statement.map Value.string)) = some e.table := by
  let root : Table := [("created".toList, .string e.created.toText)]
  have created : Table.Draft.add? ⟨[], []⟩ (.assign ⟨[], "created".toList⟩ (.string e.created.toText)) = some ⟨root, []⟩ :=
    @Table.add?_assign [] _ _ [] (by simp [Table.IsWay]) rfl
  have absent (log : Template.Log) : root.get? (sectionName log) = none := by
    rw [Table.get?_cons, if_neg (sectionName_ne_created log)]
    rfl
  obtain ⟨place, daily⟩ := e.foldlM_sectionStatements (absent .day) []
  have later : Table.get? (root ++ e.entry .day) (sectionName .book) = none := by
    rw [Table.get?_append, absent, get?_entry]
    rfl
  obtain ⟨place', books⟩ := e.foldlM_sectionStatements later place
  simp only [Table.ofStatements?, statements, List.map_cons, List.map_append, List.foldlM_cons, List.foldlM_append,
    Statement.map, created, Option.bind_eq_bind, Option.bind_some, daily, books, Option.map_some]
  simp [table, root]

/-! ## Reading -/

theorem get?_table_sectionName (log : Template.Log) :
    e.table.get? (sectionName log) = (e.sections log).map fun s => .table .header s.table := by
  rw [table, Table.get?_cons, if_neg (sectionName_ne_created log), Table.get?_append, get?_entry, get?_entry]
  cases log <;> simp

theorem ofTable?_table : ofTable? e.table = some e.settings := by
  have created : e.table.get? "created".toList = some (.string e.created.toText) := rfl
  have daily : daily? ((e.sections .day).map fun s => .table .header s.table) =
      some ((e.sections .day).bind (·.folder), e.ofLog .day) := by
    unfold ofLog
    cases e.sections .day with
    | none => rfl
    | some s =>
      simp only [Option.map_some, daily?, isRecord, s.string?_folder, s.logOf?_table, Option.bind_eq_bind, Option.bind_some]
      rfl
  have books : books? ((e.sections .book).map fun s => .table .header s.table) = some (e.ofLog .book) := by
    unfold ofLog
    cases e.sections .book with
    | none => rfl
    | some s => simp only [Option.map_some, books?, isRecord, s.logOf?_table, if_true, Option.getD_some]
  simp only [ofTable?, created, get?_table_sectionName, daily, books, Instant.parse?_toText, Option.bind_eq_bind,
    Option.bind_some]
  rfl

theorem tables_of_mem_statements {st : Statement Text} (member : st ∈ e.statements) : st.key.tables.length ≤ 1 := by
  have section_shallow {log : Template.Log} (inside : st ∈ e.sectionStatements log) : st.key.tables.length ≤ 1 := by
    obtain ⟨s, -, inside⟩ := List.mem_flatMap.1 inside
    simp only [LogSettings.Excerpt.statements, List.mem_cons, List.mem_append, List.mem_flatMap] at inside
    rcases inside with rfl | assigned | ⟨t, -, rfl | assigned⟩
    · exact Nat.zero_le 1
    · simp [tables_of_mem_assigns assigned]
    · exact Nat.le_refl 1
    · simp [tables_of_mem_assigns assigned]
  simp only [statements, List.mem_cons, List.mem_append] at member
  rcases member with rfl | daily | books
  · exact Nat.zero_le 1
  · exact section_shallow daily
  · exact section_shallow books

/-- A document is read as its statements. -/
theorem parse?_statements :
    Toml.Document.parse? (Toml.Document.render e.statements) = some (e.statements.map (Statement.map Value.string)) :=
  Toml.Document.parse?_render fun _ member => Nat.lt_of_le_of_lt (e.tables_of_mem_statements member) (by decide)

/-- A document with these statements, however it is laid out, is read as the settings it gives. -/
theorem parse?_of_statements {document : String}
    (read : Toml.Document.parse? document.toList = some (e.statements.map (Statement.map Value.string))) :
    parse? document = some e.settings := by
  simp only [parse?, read, Option.bind_eq_bind, Option.bind_some, ofStatements?_statements, ofTable?_table]

theorem statements_ofSettings (s : Settings) : (ofSettings s).statements = s.statements := by
  simp [statements, sectionStatements, ofSettings, LogSettings.Excerpt.statements, LogSettings.Excerpt.ofLog,
    LogSettings.Excerpt.fields, Settings.statements, logStatements, assigns, Templates.fields, List.flatMap_map]

end Excerpt

/-- Settings are read back from their document. -/
theorem parse?_render (s : Settings) : parse? s.render = some s := by
  refine (Excerpt.ofSettings s).parse?_of_statements ?_
  rw [render, String.toList_ofList, ← Excerpt.statements_ofSettings]
  exact (Excerpt.ofSettings s).parse?_statements

end Settings
end ReadingLog
