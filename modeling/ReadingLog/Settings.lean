import ReadingLog.Instant
import ReadingLog.Toml.Document
import ReadingLog.Template.PatternSet

/-!
# Settings

The settings of a vault: when it was set up, where its daily notes are, how dates are spelled, under which headings reading
is logged, and the templates of both logs. They are kept as a settings document, in which whatever is missing has a default.
-/

namespace ReadingLog

/-- A template for each purpose, if there is one. -/
structure Templates where
  started : Option String
  finished : Option String
  abandoned : Option String
  progress : Option String
  relativeProgress : Option String
  deriving DecidableEq, Repr

namespace Templates

open Template

/-- No templates. -/
def none : Templates := ⟨.none, .none, .none, .none, .none⟩

/-- The template for a purpose. -/
def get (t : Templates) : Purpose → Option String
  | .started => t.started
  | .finished => t.finished
  | .abandoned => t.abandoned
  | .progress => t.progress
  | .relativeProgress => t.relativeProgress

/-- The templates with another one for a purpose. -/
def set (t : Templates) (template : Option String) : Purpose → Templates
  | .started => { t with started := template }
  | .finished => { t with finished := template }
  | .abandoned => { t with abandoned := template }
  | .progress => { t with progress := template }
  | .relativeProgress => { t with relativeProgress := template }

/-- The templates in a new vault. -/
def initial : Log → Templates
  | .day =>
    ⟨"Started \x7bbook\x7d", "Finished \x7bbook\x7d", "Abandoned \x7bbook\x7d", "Read \x7bbook\x7d: \x7bendPage\x7d",
     "Read \x7bbook\x7d: \x7bend\x7d%"⟩
  | .book =>
    ⟨"\x7bdate\x7d: Started", "\x7bdate\x7d: Finished", "\x7bdate\x7d: Abandoned", "\x7bdate\x7d: \x7bendPage\x7d",
     "\x7bdate\x7d: \x7bend\x7d%"⟩

/-- The templates with their kinds, in the order in which they are tried. -/
def sources (t : Templates) (log : Log) : List Source := Purpose.all.map fun purpose => ⟨⟨log, purpose⟩, t.get purpose⟩

/-- The patterns of the templates, with dates in a layout. -/
def patterns (t : Templates) (log : Log) (layout : DateLayout) : PatternSet := PatternSet.ofSources layout (t.sources log)

end Templates

/-- How the lines of one log are found and read. -/
structure LogSettings where
  datePattern : String
  heading : String
  templates : Templates
  deriving DecidableEq, Repr

namespace LogSettings

/-- The heading in a new vault. -/
def initialHeading : Template.Log → String
  | .day => "Reading"
  | .book => "Reading Log"

/-- The settings of a log in a new vault. -/
def initial (log : Template.Log) : LogSettings := ⟨DateLayout.defaultPattern, initialHeading log, Templates.initial log⟩

/-- The layout of dates. -/
def layout (s : LogSettings) : Except Error DateLayout := DateLayout.ofPattern s.datePattern

end LogSettings

/-- The settings of a vault. -/
structure Settings where
  created : Instant
  /-- What the paths of daily notes begin with. -/
  folder : Option String
  daily : LogSettings
  books : LogSettings
  deriving DecidableEq

namespace Settings

open Toml (Statement Value Table Key)

/-- The settings of a vault set up at an instant. -/
def initial (created : Instant) : Settings := ⟨created, none, .initial .day, .initial .book⟩

/-- A change of one setting. -/
inductive Change where
  | folder (value : Option String)
  | datePattern (log : Template.Log) (value : String)
  | heading (log : Template.Log) (value : String)
  | template (log : Template.Log) (purpose : Template.Purpose) (value : Option String)
  deriving DecidableEq, Repr

/-- The settings with those of one log changed. -/
def mapLog (s : Settings) (f : LogSettings → LogSettings) : Template.Log → Settings
  | .day => { s with daily := f s.daily }
  | .book => { s with books := f s.books }

/-- The settings after a change. -/
def apply (s : Settings) : Change → Settings
  | .folder value => { s with folder := value }
  | .datePattern log value => s.mapLog (fun l => { l with datePattern := value }) log
  | .heading log value => s.mapLog (fun l => { l with heading := value }) log
  | .template log purpose value => s.mapLog (fun l => { l with templates := l.templates.set value purpose }) log

/-! ## Writing -/

/-- An assignment of a string, if there is one. -/
def assign (name : String) (value : Option String) : List (Statement Text) :=
  value.toList.map fun s => .assign ⟨[], name.toList⟩ s.toList

/-- The name of the section for a log. -/
def sectionName : Template.Log → Text
  | .day => "daily".toList
  | .book => "books".toList

/-- The name of the table of templates within a section. -/
def templatesName : Text := "templates".toList

/-- The statements of a section. -/
def logStatements (log : Template.Log) (folder : Option String) (s : LogSettings) : List (Statement Text) :=
  .header ⟨[], sectionName log⟩
    :: assign "folder" folder ++ assign "date_format" s.datePattern ++ assign "heading" s.heading
    ++ .header ⟨[sectionName log], templatesName⟩
    :: Template.Purpose.all.flatMap fun purpose => assign purpose.name (s.templates.get purpose)

/-- The statements of the settings document. -/
def statements (s : Settings) : List (Statement Text) :=
  .assign ⟨[], "created".toList⟩ s.created.toText
    :: logStatements .day s.folder s.daily ++ logStatements .book none s.books

/-- The settings document. -/
def render (s : Settings) : String := String.ofList (Toml.Document.render s.statements)

/-! ## Reading -/

/-- The value is a record: a table, or an array of its members in order, or a moment, which has no members. -/
def isRecord : Value → Bool
  | .table .. | .array .. | .moment _ => true
  | _ => false

/-- A member of a record, by its name or its place. -/
def member? (record : Value) (name : String) (place : Nat) : Option Value :=
  match record with
  | .table _ t => Table.get? t name.toList
  | .array _ items => items[place]?
  | _ => none

/-- A string that has a default; any other value is refused. -/
def stringOr? (default : String) : Option Value → Option String
  | none => some default
  | some (.string s) => some (String.ofList s)
  | some _ => none

/-- A string that may be absent; any other value is refused. -/
def string? : Option Value → Option (Option String)
  | none => some none
  | some (.string s) => some (some (String.ofList s))
  | some _ => none

/-- The templates of a record; those that are not in it are absent. No record stands for the templates of a new vault. -/
def templates? (log : Template.Log) : Option Value → Option Templates
  | none => some (.initial log)
  | some record => do
    if !isRecord record then none
    let template? (purpose : Template.Purpose) (place : Nat) : Option (Option String) :=
      string? (member? record purpose.name place)
    return ⟨← template? .started 0, ← template? .finished 1, ← template? .abandoned 2, ← template? .progress 3,
      ← template? .relativeProgress 4⟩

/-- The settings of a log from the members of a record, of which the first stands at a place. -/
def logOf? (log : Template.Log) (first : Nat) (record : Value) : Option LogSettings := do
  let pattern ← stringOr? DateLayout.defaultPattern (member? record "date_format" first)
  let heading ← stringOr? (LogSettings.initialHeading log) (member? record "heading" (first + 1))
  return ⟨pattern, heading, ← templates? log (member? record "templates" (first + 2))⟩

/-- The folder and the settings of daily notes. No record stands for those of a new vault. -/
def daily? : Option Value → Option (Option String × LogSettings)
  | none => some (none, .initial .day)
  | some record => do
    if !isRecord record then none
    return (← string? (member? record "folder" 0), ← logOf? .day 1 record)

/-- The settings of book notes. No record stands for those of a new vault. -/
def books? : Option Value → Option LogSettings
  | none => some (.initial .book)
  | some record => if isRecord record then logOf? .book 0 record else none

/-- The settings in a table; a table without the instant of setting up, or with values of a wrong kind, has none. -/
def ofTable? (t : Table) : Option Settings := do
  let created ← match Table.get? t "created".toList with
    | some (.string s) => Instant.parse? s
    | _ => none
  let (folder, daily) ← daily? (Table.get? t (sectionName .day))
  return ⟨created, folder, daily, ← books? (Table.get? t (sectionName .book))⟩

/-- The settings that a document gives. -/
def parse? (document : String) : Option Settings := do
  ofTable? (← Table.ofStatements? (← Toml.Document.parse? document.toList))

end Settings
end ReadingLog
