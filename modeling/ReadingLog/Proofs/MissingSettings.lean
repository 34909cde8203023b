import ReadingLog.Proofs.SavedSettings

/-!
# Settings that are missing

Keys and tables may be taken out of a saved document. Whatever is taken out, the document is read, what is left keeps its
value, and each setting that is missing falls back to a default of its own: that of its section, or none for a template
whose table is still there.
-/

namespace ReadingLog

open Toml (Statement Value)

/-! ## Taking places out of a document -/

namespace Toml.Document

variable {α : Type} {removed : List (List Text)} {table place : List Text} {rest : List (Statement α)}

/-- Statements, each with the place of what it defines; assignments are made in the table of the last header. -/
def placed : List Text → List (Statement α) → List (List Text × Statement α)
  | _, [] => []
  | table, .assign key value :: rest => (table ++ key.tables ++ [key.name], .assign key value) :: placed table rest
  | _, .header key :: rest => (key.tables ++ [key.name], .header key) :: placed (key.tables ++ [key.name]) rest
  | _, .element key :: rest => (key.tables ++ [key.name], .element key) :: placed (key.tables ++ [key.name]) rest

/-- Neither a place nor a table around it is removed. -/
def Spared (removed : List (List Text)) (place : List Text) : Prop := ∀ other ∈ removed, ¬ other <+: place

instance (removed : List (List Text)) (place : List Text) : Decidable (Spared removed place) :=
  inferInstanceAs (Decidable (∀ other ∈ removed, ¬ other <+: place))

/-- The statements of a document, or of the end of one within a table, but for what is at the removed places. -/
def without (removed : List (List Text)) (table : List Text) (statements : List (Statement α)) : List (Statement α) :=
  ((placed table statements).filter fun statement => Spared removed statement.1).map Prod.snd

/-- What is left of the value at a place. -/
def left (removed : List (List Text)) (place : List Text) (value : Option α) : Option α :=
  if Spared removed place then value else none

/-- What is left of the fields of a table. -/
def leftFields (removed : List (List Text)) (table : List Text) (fields : List (String × Option String)) :
    List (String × Option String) :=
  fields.map fun field => (field.1, left removed (table ++ [field.1.toList]) field.2)

theorem map_snd_placed (table : List Text) (statements : List (Statement α)) :
    (placed table statements).map Prod.snd = statements := by
  induction statements generalizing table with
  | nil => rfl
  | cons statement statements ih => cases statement <;> exact congrArg (List.cons _) (ih _)

theorem without_sublist (removed : List (List Text)) (table : List Text) (statements : List (Statement α)) :
    (without removed table statements).Sublist statements := by
  have kept : (without removed table statements).Sublist ((placed table statements).map Prod.snd) :=
    List.filter_sublist.map Prod.snd
  rwa [map_snd_placed] at kept

theorem Spared.of_append {inner : List Text} (spared : Spared removed (place ++ inner)) : Spared removed place :=
  fun other member within => spared other member (within.trans (List.prefix_append place inner))

theorem left_of_spared {value : Option α} (spared : Spared removed place) : left removed place value = value := if_pos spared

theorem left_of_not_spared {value : Option α} (lost : ¬ Spared removed place) : left removed place value = none := if_neg lost

theorem left_none : left removed place (none : Option α) = none := ite_self _

theorem without_cons_header (key : Key) : without removed table (.header key :: rest) =
    (if Spared removed (key.tables ++ [key.name]) then [.header key] else []) ++
      without removed (key.tables ++ [key.name]) rest := by
  rw [without, placed, List.filter_cons, without]
  simp only [decide_eq_true_eq]
  split <;> rfl

theorem without_cons_assign (name : Text) (value : α) : without removed table (.assign ⟨[], name⟩ value :: rest) =
    (if Spared removed (table ++ [name]) then [.assign ⟨[], name⟩ value] else []) ++ without removed table rest := by
  rw [without, placed, List.filter_cons, without, List.append_nil]
  simp only [decide_eq_true_eq]
  split <;> rfl

theorem without_assigns (fields : List (String × Option String)) (rest : List (Statement Text)) :
    without removed table (Settings.assigns fields ++ rest) =
      Settings.assigns (leftFields removed table fields) ++ without removed table rest := by
  induction fields with
  | nil => rfl
  | cons field fields ih =>
    obtain ⟨name, value⟩ := field
    have here (value : Option String) (rest : List (Statement Text)) :
        without removed table (Settings.assign name value ++ rest) =
          Settings.assign name (left removed (table ++ [name.toList]) value) ++ without removed table rest := by
      cases value with
      | none => rw [left_none]; rfl
      | some s =>
        rw [Settings.assign, Option.toList_some, List.map_singleton, List.singleton_append, without_cons_assign]
        unfold left
        split <;> rfl
    rw [Settings.assigns, List.flatMap_cons, List.append_assoc, here, ← Settings.assigns, ih, ← List.append_assoc]
    rfl

theorem assigns_leftFields_of_not_spared (lost : ¬ Spared removed table) (fields : List (String × Option String)) :
    Settings.assigns (leftFields removed table fields) = [] := by
  refine List.flatMap_eq_nil_iff.2 fun _ member => ?_
  obtain ⟨field, -, rfl⟩ := List.mem_map.1 member
  have gone : left removed (table ++ [field.1.toList]) field.2 = none :=
    left_of_not_spared fun spared => lost spared.of_append
  simp [gone, Settings.assign]

/-- A table that is removed takes its fields with it. -/
theorem without_block (key : Key) (fields : List (String × Option String)) (rest : List (Statement Text)) :
    without removed table (.header key :: (Settings.assigns fields ++ rest)) =
      (if Spared removed (key.tables ++ [key.name]) then
        .header key :: Settings.assigns (leftFields removed (key.tables ++ [key.name]) fields) else []) ++
      without removed (key.tables ++ [key.name]) rest := by
  rw [without_cons_header, without_assigns]
  split
  · rfl
  · next lost => rw [assigns_leftFields_of_not_spared lost, List.nil_append]

end Toml.Document

open Toml.Document (Spared left leftFields left_none left_of_spared left_of_not_spared)

/-! ## What is left of settings -/

variable {removed : List (List Text)}

namespace Templates

/-- Templates by their purposes. -/
def ofGet (f : Template.Purpose → Option String) : Templates :=
  ⟨f .started, f .finished, f .abandoned, f .progress, f .relativeProgress⟩

theorem get_ofGet (f : Template.Purpose → Option String) (purpose : Template.Purpose) : (ofGet f).get purpose = f purpose := by
  cases purpose <;> rfl

/-- What is left of templates in a table. -/
def without (t : Templates) (removed : List (List Text)) (table : List Text) : Templates :=
  ofGet fun purpose => left removed (table ++ [purpose.name.toList]) (t.get purpose)

theorem fields_without (t : Templates) (table : List Text) :
    (t.without removed table).fields = leftFields removed table t.fields := by
  simp [fields, leftFields, without, get_ofGet]

end Templates

namespace LogSettings.Excerpt

open Settings (sectionName templatesName)

/-- What is left of a section. -/
def without (e : Excerpt) (removed : List (List Text)) (log : Template.Log) : Excerpt where
  folder := left removed [sectionName log, "folder".toList] e.folder
  datePattern := left removed [sectionName log, "date_format".toList] e.datePattern
  heading := left removed [sectionName log, "heading".toList] e.heading
  templates := left removed [sectionName log, templatesName]
    (e.templates.map fun t => t.without removed [sectionName log, templatesName])

theorem without_statements (e : Excerpt) (log : Template.Log) (table : List Text) (rest : List (Statement Text)) :
    ∃ table', Toml.Document.without removed table (e.statements log ++ rest) =
      (left removed [sectionName log] (some (e.without removed log))).toList.flatMap (·.statements log) ++
        Toml.Document.without removed table' rest := by
  have outer := @Toml.Document.without_block removed table ⟨[], sectionName log⟩ e.fields
  have inner (fields : List (String × Option String)) :=
    @Toml.Document.without_block removed [sectionName log] ⟨[sectionName log], templatesName⟩ fields rest
  have fields : leftFields removed [sectionName log] e.fields = (e.without removed log).fields := rfl
  have kept : (e.without removed log).templates = left removed [sectionName log, templatesName]
    (e.templates.map fun t => t.without removed [sectionName log, templatesName]) := rfl
  simp only [List.nil_append, List.singleton_append, fields] at outer inner
  rw [statements, List.cons_append, List.append_assoc, outer]
  cases given : e.templates with
  | none =>
    have absent : (e.without removed log).templates = none := by rw [kept, given, Option.map_none, left_none]
    refine ⟨[sectionName log], ?_⟩
    unfold left
    split <;> simp [statements, absent]
  | some t =>
    refine ⟨[sectionName log, templatesName], ?_⟩
    rw [given, Option.map_some] at kept
    rw [Option.toList_some, List.flatMap_singleton, List.cons_append, inner, ← t.fields_without]
    by_cases table_spared : Spared removed [sectionName log, templatesName]
    · have spared : Spared removed [sectionName log] := @Spared.of_append removed _ [templatesName] table_spared
      rw [left_of_spared table_spared] at kept
      simp [statements, kept, left_of_spared spared, table_spared, spared]
    · rw [left_of_not_spared table_spared] at kept
      unfold left
      split <;> simp [statements, kept]

end LogSettings.Excerpt

namespace Settings

namespace Excerpt

/-- What is left of the settings in a document. -/
def without (e : Excerpt) (removed : List (List Text)) : Excerpt where
  created := e.created
  sections log := left removed [sectionName log] ((e.sections log).map (·.without removed log))

theorem without_sectionStatements (e : Excerpt) (log : Template.Log) (table : List Text) (rest : List (Statement Text)) :
    ∃ table', Toml.Document.without removed table (e.sectionStatements log ++ rest) =
      (e.without removed).sectionStatements log ++ Toml.Document.without removed table' rest := by
  unfold sectionStatements without
  cases given : e.sections log with
  | none => exact ⟨table, by simp [given, left]⟩
  | some s =>
    obtain ⟨table', taken⟩ := s.without_statements log table rest
    exact ⟨table', by simpa [given] using taken⟩

/-- What is left of a document is the document of what is left. -/
theorem without_statements (e : Excerpt) (spared : Spared removed ["created".toList]) :
    Toml.Document.without removed [] e.statements = (e.without removed).statements := by
  obtain ⟨table, daily⟩ := @without_sectionStatements removed e .day [] (e.sectionStatements .book)
  obtain ⟨table', books⟩ := @without_sectionStatements removed e .book table []
  rw [List.append_nil] at books
  have nothing : @Toml.Document.without Text removed table' [] = [] := rfl
  rw [statements, Toml.Document.without_cons_assign, List.nil_append, if_pos spared, daily, books, nothing, List.append_nil]
  rfl

end Excerpt

/-! ## Optional parts -/

/-- What a saved document may lack: a setting, the templates of a log, or all about a log. -/
inductive Part where
  | setting (s : Setting)
  | templates (log : Template.Log)
  | log (log : Template.Log)
  deriving DecidableEq

namespace Part

/-- Every part. -/
def all : List Part :=
  .setting .folder :: [.day, .book].flatMap fun l =>
    [.log l, .templates l, .setting (.datePattern l), .setting (.heading l)] ++
      Template.Purpose.all.map fun purpose => .setting (.template l purpose)

/-- The parts that a part is in. -/
def around : Part → List Part
  | .setting .folder => [.log .day]
  | .setting (.datePattern l) | .setting (.heading l) => [.log l]
  | .setting (.template l _) => [.log l, .templates l]
  | .templates l => [.log l]
  | .log _ => []

/-- The place of a part in a document. -/
def place : Part → List Text
  | .setting .folder => [sectionName .day, "folder".toList]
  | .setting (.datePattern l) => [sectionName l, "date_format".toList]
  | .setting (.heading l) => [sectionName l, "heading".toList]
  | .setting (.template l purpose) => [sectionName l, templatesName, purpose.name.toList]
  | .templates l => [sectionName l, templatesName]
  | .log l => [sectionName l]

theorem mem_all (part : Part) : part ∈ all := by
  rcases part with (_ | log | log | ⟨log, purpose⟩) | log | log
  · decide
  · cases log <;> decide
  · cases log <;> decide
  · cases log <;> cases purpose <;> decide
  · cases log <;> decide
  · cases log <;> decide

/-- The place of a part leads through those of the parts around it, and of no others. -/
theorem place_prefix_iff (other part : Part) : other.place <+: part.place ↔ other = part ∨ other ∈ part.around := by
  have checked : ∀ other ∈ all, ∀ part ∈ all, (other.place <+: part.place ↔ other = part ∨ other ∈ part.around) := by
    decide +kernel
  exact checked other other.mem_all part part.mem_all

/-- Neither a part nor one around it is removed. -/
def Stays (removed : List Part) (part : Part) : Prop := part ∉ removed ∧ ∀ outer ∈ part.around, outer ∉ removed

instance (removed : List Part) (part : Part) : Decidable (part.Stays removed) := inferInstanceAs (Decidable (_ ∧ _))

theorem spared_place_iff {removed : List Part} {part : Part} : Spared (removed.map place) part.place ↔ Stays removed part := by
  simp only [Spared, List.forall_mem_map, place_prefix_iff, not_or]
  constructor
  · intro spared
    exact ⟨fun member => (spared part member).1 rfl, fun outer within member => (spared outer member).2 within⟩
  · rintro ⟨here, around⟩ other member
    exact ⟨fun same => here (same ▸ member), fun within => around other within member⟩

theorem Stays.of_mem_around {removed : List Part} {part outer : Part} (stays : part.Stays removed)
    (within : outer ∈ part.around) : outer.Stays removed := by
  refine spared_place_iff.1 fun other member lead => spared_place_iff.2 stays other member ?_
  exact lead.trans ((place_prefix_iff outer part).2 (.inr within))

theorem left_place {α : Type} (removed : List Part) (part : Part) (value : Option α) :
    left (removed.map place) part.place value = if part.Stays removed then value else none := by
  simp only [left, spared_place_iff]

end Part

/-- The statements of the saved document that are left where parts are removed. -/
def statementsWithout (s : Settings) (removed : List Part) : List (Statement Text) :=
  Toml.Document.without (removed.map Part.place) [] s.statements

/-- What a setting falls back to where it is missing. -/
def fallback (removed : List Part) : Setting → Option String
  | .folder => none
  | .datePattern _ => some DateLayout.defaultPattern
  | .heading log => some (LogSettings.initialHeading log)
  | .template log purpose => if (Part.templates log).Stays removed then none else (Templates.initial log).get purpose

/-! ## Defaults -/

/-- What the document says of settings after parts are removed. -/
def excerptWithout (s : Settings) (removed : List Part) : Excerpt := (Excerpt.ofSettings s).without (removed.map Part.place)

theorem statements_excerptWithout (s : Settings) (removed : List Part) :
    (s.excerptWithout removed).statements = s.statementsWithout removed := by
  have spared : Spared (removed.map Part.place) ["created".toList] := by
    have apart : ∀ part ∈ Part.all, ¬ part.place <+: ["created".toList] := by decide +kernel
    exact List.forall_mem_map.2 fun part _ => apart part part.mem_all
  rw [excerptWithout, ← Excerpt.without_statements _ spared, Excerpt.statements_ofSettings, statementsWithout]

variable (s : Settings) {removed : List Part} {log : Template.Log}

/-- What is left of the section for a log. -/
def sectionWithout (removed : List Part) (log : Template.Log) : LogSettings.Excerpt :=
  (LogSettings.Excerpt.ofLog (match log with | .day => s.folder | .book => none) (s.ofLog log)).without
    (removed.map Part.place) log

theorem sections_excerptWithout : (s.excerptWithout removed).sections log =
    if (Part.log log).Stays removed then some (s.sectionWithout removed log) else none := by
  rw [← Part.left_place]
  cases log <;> rfl

theorem folder_sectionWithout :
    (s.sectionWithout removed .day).folder = if (Part.setting .folder).Stays removed then s.folder else none :=
  Part.left_place removed (.setting .folder) s.folder

theorem datePattern_sectionWithout : (s.sectionWithout removed log).datePattern =
    if (Part.setting (.datePattern log)).Stays removed then some (s.ofLog log).datePattern else none :=
  Part.left_place removed (.setting (.datePattern log)) _

theorem heading_sectionWithout : (s.sectionWithout removed log).heading =
    if (Part.setting (.heading log)).Stays removed then some (s.ofLog log).heading else none :=
  Part.left_place removed (.setting (.heading log)) _

theorem templates_sectionWithout : (s.sectionWithout removed log).templates =
    if (Part.templates log).Stays removed then
      some ((s.ofLog log).templates.without (removed.map Part.place) [sectionName log, templatesName])
    else none :=
  Part.left_place removed (.templates log) _

theorem get_without (t : Templates) (purpose : Template.Purpose) :
    (t.without (removed.map Part.place) [sectionName log, templatesName]).get purpose =
      if (Part.setting (.template log purpose)).Stays removed then t.get purpose else none := by
  rw [Templates.without, Templates.get_ofGet]
  exact Part.left_place removed (.setting (.template log purpose)) _

theorem ofLog_settings (e : Excerpt) (log : Template.Log) : e.settings.ofLog log = e.ofLog log := by cases log <;> rfl

/-- Without the section of a log, all settings of the log fall back. -/
theorem ofLog_of_lost (lost : ¬ (Part.log log).Stays removed) :
    (s.excerptWithout removed).settings.ofLog log = .initial log := by
  rw [ofLog_settings, Excerpt.ofLog, sections_excerptWithout, if_neg lost]
  rfl

theorem ofLog_of_stays (stays : (Part.log log).Stays removed) :
    (s.excerptWithout removed).settings.ofLog log = (s.sectionWithout removed log).settings log := by
  rw [ofLog_settings, Excerpt.ofLog, sections_excerptWithout, if_pos stays]
  rfl

/-- What is missing falls back, and what is left keeps its value. -/
theorem value_excerptWithout (setting : Setting) : (s.excerptWithout removed).settings.value setting =
    if (Part.setting setting).Stays removed then s.value setting else fallback removed setting := by
  cases setting with
  | folder =>
    have folder : (s.excerptWithout removed).settings.folder = ((s.excerptWithout removed).sections .day).bind (·.folder) := rfl
    rw [value, folder, sections_excerptWithout]
    by_cases log_stays : (Part.log .day).Stays removed
    · rw [if_pos log_stays, Option.bind_some, folder_sectionWithout]
      rfl
    · rw [if_neg log_stays, if_neg fun stays => log_stays (stays.of_mem_around (by decide))]
      rfl
  | datePattern log | heading log =>
    rw [value]
    by_cases log_stays : (Part.log log).Stays removed
    · simp only [ofLog_of_stays s log_stays, LogSettings.Excerpt.settings, datePattern_sectionWithout, heading_sectionWithout]
      split <;> rfl
    · rw [ofLog_of_lost s log_stays, if_neg fun stays => log_stays (stays.of_mem_around (by simp [Part.around]))]
      rfl
  | template log purpose =>
    rw [value]
    by_cases templates_stay : (Part.templates log).Stays removed
    · have log_stays : (Part.log log).Stays removed := templates_stay.of_mem_around (by simp [Part.around])
      rw [ofLog_of_stays s log_stays, LogSettings.Excerpt.settings, templates_sectionWithout, if_pos templates_stay,
        Option.getD_some, get_without, fallback, if_pos templates_stay]
      rfl
    · -- With the table of templates or the whole section, the templates of a new vault take their place.
      have initial : ((s.excerptWithout removed).settings.ofLog log).templates = .initial log := by
        by_cases log_stays : (Part.log log).Stays removed
        · rw [ofLog_of_stays s log_stays, LogSettings.Excerpt.settings, templates_sectionWithout, if_neg templates_stay]
          rfl
        · rw [ofLog_of_lost s log_stays]
          rfl
      rw [initial, if_neg fun stays => templates_stay (stays.of_mem_around (by simp [Part.around])), fallback,
        if_neg templates_stay]

end Settings

namespace Vault

open Settings (Part)

/-- The statements are what is read in a document, however it is laid out. -/
def Holds (document : String) (statements : List (Statement Text)) : Prop :=
  Toml.Document.parse? document.toList = some (statements.map (Statement.map Value.string))

/-- Whatever parts of a saved document are removed, settings are loaded: what is removed falls back, and all else keeps its
value, in whatever layout the rest is written down. -/
theorem loadSettings_without (s : Settings) (removed : List Part) :
    (s.statementsWithout removed).Sublist s.statements ∧
    Holds (String.ofList (Toml.Document.render (s.statementsWithout removed))) (s.statementsWithout removed) ∧
    ∀ (t : FileTree) (v : Vault) (document : String), Holds document (s.statementsWithout removed) →
      t.find? v.settingsFile = some (.file (.text document)) →
      ∃ s', loadSettings t v = .ok s' ∧ s'.created = s.created ∧
        ∀ setting, s'.value setting =
          if (Part.setting setting).Stays removed then s.value setting else Settings.fallback removed setting := by
  refine ⟨Toml.Document.without_sublist .., ?_⟩
  rw [← s.statements_excerptWithout]
  refine ⟨?rendered, fun t v document holds stands => ?loaded⟩
  case rendered =>
    rw [Holds, String.toList_ofList]
    exact (s.excerptWithout removed).parse?_statements
  case loaded =>
    have read := (s.excerptWithout removed).parse?_of_statements holds
    exact ⟨_, loadSettings_eq_ok_iff.2 ⟨document, stands, read⟩, rfl, s.value_excerptWithout⟩

/-- A key of one section, a table of the other, and a key of the other's table that stays. -/
def fewParts : List Part :=
  [.setting .folder, .templates .day, .setting (.heading .book), .setting (.template .book .started)]

/-- A vault whose settings document lacks a few parts. -/
def prunedVault : FileTree where
  entries :=
    [([settingsFolderName], .folder),
     ([settingsFolderName, settingsFileName],
      .file (.text (String.ofList (Toml.Document.render (awkwardSettings.statementsWithout fewParts)))))]
  nodup := by decide
  rooted := by decide

theorem loadSettings_without_fewParts :
    Holds (String.ofList (Toml.Document.render (awkwardSettings.statementsWithout fewParts)))
      (awkwardSettings.statementsWithout fewParts) ∧
    loadSettings prunedVault (standing []) = .ok
      { awkwardSettings with
        folder := none
        daily := { awkwardSettings.daily with templates := .initial .day }
        books := ⟨"", "Reading Log", ⟨none, none, some "\"\"\"\u0000", none, some "λ = \\u03bb"⟩⟩ } := by
  obtain ⟨-, holds, loads⟩ := loadSettings_without awkwardSettings fewParts
  obtain ⟨s', loaded, created, values⟩ := loads prunedVault (standing []) _ holds rfl
  refine ⟨holds, loaded.trans (congrArg Except.ok (Settings.ext_value created fun setting => (values setting).trans ?_))⟩
  rcases setting with _ | log | log | ⟨log, purpose⟩
  · decide
  · cases log <;> decide
  · cases log <;> decide
  · cases log <;> cases purpose <;> decide

end Vault
end ReadingLog
