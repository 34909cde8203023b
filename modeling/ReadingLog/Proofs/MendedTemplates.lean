import ReadingLog.Proofs.PatternSets
import ReadingLog.Proofs.Report
import ReadingLog.Proofs.SavedSettings

/-!
# Mended templates

A template that does not compile has no part in what is found in notes. When it is taken out of the settings, and when white
space around other templates goes, reports stay as they were but for the failures they tell.
-/

namespace ReadingLog

open Template

/-! ## What mending changes -/

/-- What may become of a template: white space around it goes, or all of it where no pattern comes of it. -/
inductive Template.Mends (kind : Kind) : Option String → Option String → Prop
  | kept (template : Option String) : Mends kind template template
  | trimmed (text : String) : Mends kind (some text) (some (String.ofList (Text.trim text.toList)))
  | dropped {template : Option String}
    (useless : ∀ text, Source.Gives ⟨kind, template⟩ text → ∃ e, Pattern.compile text kind = .error e) :
    Mends kind template none

theorem Template.Mends.pattern?_eq {kind : Kind} {template template' : Option String} (mends : Mends kind template template')
    (layout : DateLayout) : Source.pattern? layout ⟨kind, template'⟩ = Source.pattern? layout ⟨kind, template⟩ := by
  cases mends with
  | kept => rfl
  | trimmed text => simp [Source.pattern?, Source.text?]
  | dropped useless =>
    have absent : Source.pattern? layout ⟨kind, none⟩ = none := rfl
    rw [absent]
    cases given : Source.text? ⟨kind, template⟩ with
    | none => rw [Source.pattern?, given, Option.bind_none]
    | some text =>
      obtain ⟨e, failed⟩ := useless text (Source.text?_eq_some_iff.1 given)
      rw [Source.pattern?, given, Option.bind_some, failed]
      rfl

/-- Templates are mended, and nothing else is changed. -/
structure Settings.Mends (s s' : Settings) : Prop where
  folder : s'.folder = s.folder
  datePattern : ∀ log, (s'.ofLog log).datePattern = (s.ofLog log).datePattern
  heading : ∀ log, (s'.ofLog log).heading = (s.ofLog log).heading
  templates : ∀ log purpose,
    Template.Mends ⟨log, purpose⟩ ((s.ofLog log).templates.get purpose) ((s'.ofLog log).templates.get purpose)

/-! ## What mending leaves -/

theorem Templates.patterns_of_mends {log : Log} {templates templates' : Templates}
    (mends : ∀ purpose, Template.Mends ⟨log, purpose⟩ (templates.get purpose) (templates'.get purpose)) (layout : DateLayout) :
    (templates'.patterns log layout).patterns = (templates.patterns log layout).patterns := by
  simp only [patterns, PatternSet.patterns_ofSources, sources, List.filterMap_map]
  exact List.filterMap_congr fun purpose _ => (mends purpose).pattern?_eq layout

namespace Logs

/-- Logs that know nothing of templates that did not compile. -/
def withoutFailures (logs : Logs) : Logs :=
  ⟨{ logs.day with patterns := ⟨logs.day.patterns.patterns, []⟩ },
    { logs.book with patterns := ⟨logs.book.patterns.patterns, []⟩ }⟩

theorem ofSettings_of_mends {s s' : Settings} (mends : s.Mends s') :
    (ofSettings s').map withoutFailures = (ofSettings s).map withoutFailures := by
  have day_layout : s'.daily.layout = s.daily.layout := congrArg DateLayout.ofPattern (mends.datePattern .day)
  have book_layout : s'.books.layout = s.books.layout := congrArg DateLayout.ofPattern (mends.datePattern .book)
  have day_heading : s'.daily.heading = s.daily.heading := mends.heading .day
  have book_heading : s'.books.heading = s.books.heading := mends.heading .book
  have day_patterns := Templates.patterns_of_mends (mends.templates .day)
  have book_patterns := Templates.patterns_of_mends (mends.templates .book)
  simp only [Settings.ofLog] at day_patterns book_patterns
  simp only [ofSettings, day_layout, book_layout]
  cases s.daily.layout with
  | error => rfl
  | ok layout =>
    cases s.books.layout with
    | error => rfl
    | ok layout' =>
      show Except.ok (withoutFailures _) = Except.ok (withoutFailures _)
      simp only [withoutFailures, day_patterns, book_patterns, day_heading, book_heading, mends.folder]

end Logs

/-- What a report tells of the notes. -/
def Report.found (r : Report) : List Event × List NotePath := (r.events, r.books)

namespace Vault

variable {t t' : FileTree} {v : Vault} {s s' : Settings}

/-- What is found in notes does not depend on the templates that did not compile. -/
theorem map_found_report (loaded : loadSettings t v = .ok s) (q : Query) :
    (report t v q).map Report.found = do
      let logs ← (Logs.ofSettings s).map Logs.withoutFailures
      let book ← q.book? ⟨notes t v⟩
      let read ← (noteFiles t v).mapM noteOf
      return (Report.ofNotes logs ⟨notes t v⟩ q book read).found := by
  unfold report
  rw [loaded]
  -- Either side goes through the same steps, and the failures are dropped at the end or after the first of them.
  show Except.map _ (Logs.ofSettings s >>= _) = _
  cases Logs.ofSettings s with
  | error => rfl
  | ok logs =>
    show Except.map _ (q.book? ⟨notes t v⟩ >>= _) = q.book? ⟨notes t v⟩ >>= _
    cases q.book? ⟨notes t v⟩ with
    | error => rfl
    | ok book =>
      show Except.map _ ((noteFiles t v).mapM noteOf >>= _) = (noteFiles t v).mapM noteOf >>= _
      cases (noteFiles t v).mapM noteOf <;> rfl

/-- Saving settings changes no note. -/
theorem noteFiles_of_saves (can : CanSave t v) (saves : Saves t v s t') : noteFiles t' v = noteFiles t v := by
  refine noteFiles_congr fun inner content visible => ?_
  -- The settings file is in a hidden folder, and the settings folder is no file.
  have no_settings : v.location ++ inner ≠ v.settingsFile := by
    intro same
    have inside : v.location ++ inner = v.location ++ [settingsFolderName, settingsFileName] := by
      rw [same, settingsFile, settingsFolder, List.append_assoc]
      rfl
    obtain rfl := List.append_cancel_left inside
    exact visible (by decide)
  rw [saves, if_neg no_settings]
  split
  · next here =>
    rw [here]
    exact iff_of_false (by simp) (can.settings_folder content)
  · exact Iff.rfl

theorem found_of_mends (loaded : loadSettings t v = .ok s) (loaded' : loadSettings t' v = .ok s') (mends : s.Mends s')
    (same : noteFiles t' v = noteFiles t v) (q : Query) :
    (report t' v q).map Report.found = (report t v q).map Report.found := by
  have index : notes t' v = notes t v := congrArg (List.map Prod.fst) same
  rw [map_found_report loaded', map_found_report loaded, Logs.ofSettings_of_mends mends, index, same]

/-- Each template of a log becomes a pattern or fails apart from all others. So with other templates as they are, a report
finds the same, or gives the same error, wherever useless ones are taken out and white space around the others goes; and the
settings can always be changed so. -/
theorem report_mended :
    (∀ templates log layout, Templates.SortedInto templates log layout (templates.patterns log layout)) ∧
    ∀ t v s s', loadSettings t v = .ok s → s.Mends s' →
      (∀ t', loadSettings t' v = .ok s' → noteFiles t' v = noteFiles t v →
        ∀ q, (report t' v q).map Report.found = (report t v q).map Report.found) ∧
      ∃ t', saveSettings t v s' = .ok t' ∧ loadSettings t' v = .ok s' ∧ noteFiles t' v = noteFiles t v := by
  refine ⟨Templates.sortedInto_patterns, fun t v s s' loaded mends => ⟨fun t' loaded' same => ?_, ?_⟩⟩
  · exact found_of_mends loaded loaded' mends same
  · have can := canSave_of_loadSettings loaded
    obtain ⟨t', saved⟩ := saveSettings_of_canSave can s'
    have saves := (saves_of_saveSettings saved).2
    exact ⟨t', saved, loadSettings_of_saves saves, noteFiles_of_saves can saves⟩

/-- Templates of which one is blank, one says nothing about its book, and one has white space around it. -/
def roughTemplates : Templates :=
  ⟨some "\tStarted \x7bbook\x7d\n", some "Finished", some "  ", none, some "Read \x7bbook\x7d: \x7bend\x7d%"⟩

/-- The same templates mended. -/
def mendedTemplates : Templates :=
  ⟨some "Started \x7bbook\x7d", none, none, none, some "Read \x7bbook\x7d: \x7bend\x7d%"⟩

/-- Settings of a new vault but for the templates of daily notes. -/
def settingsWith (templates : Templates) : Settings :=
  { Settings.initial .start with daily := ⟨"YYYY-MM-DD", LogSettings.initialHeading .day, templates⟩ }

theorem mends_rough : (settingsWith roughTemplates).Mends (settingsWith mendedTemplates) := by
  refine ⟨rfl, fun log => ?_, fun log => ?_, fun log purpose => ?_⟩
  · cases log <;> rfl
  · cases log <;> rfl
  · cases log with
    | book => exact .kept _
    | day =>
      cases purpose with
      | started => exact .trimmed "\tStarted \x7bbook\x7d\n"
      | finished =>
        refine .dropped fun text given => ?_
        have only : Source.text? ⟨⟨.day, .finished⟩, "Finished"⟩ = some "Finished" := by decide +kernel
        obtain rfl := Option.some.inj (only.symm.trans (Source.text?_eq_some_iff.2 given))
        exact ⟨.missingPlaceholder "Finished" "book", by decide +kernel⟩
      | abandoned =>
        refine .dropped fun text given => ?_
        have blank : Source.text? ⟨⟨.day, .abandoned⟩, "  "⟩ = none := by decide +kernel
        exact absurd (blank.symm.trans (Source.text?_eq_some_iff.2 given)) nofun
      | progress => exact .kept _
      | relativeProgress => exact .kept _

theorem report_settingsWith {templates : Templates} {n : Nat}
    (loaded : loadSettings t (.standing []) = .ok (settingsWith templates))
    (same : noteFiles t (.standing []) = noteFiles diary (.standing []))
    (failures : (Logs.ofSettings (settingsWith templates)).map (fun logs => logs.failures.length) = .ok n) :
    ∃ r, report t (.standing []) .everything = .ok r ∧ r.failures.length = n := by
  cases built : Logs.ofSettings (settingsWith templates) with
  | error e => simp [built, Except.map] at failures
  | ok logs =>
    rw [built] at failures
    refine ⟨_, report_eq_ok_iff.2 ⟨_, loaded, logs, built, none, rfl, [diaryNote], ?_, rfl⟩, Except.ok.inj failures⟩
    rw [same, noteFiles_diary]
    decide +kernel

/-- The diary with either settings: the report with the rough templates tells of one failure, and finds what the report with
the mended ones finds. -/
theorem report_mended_diary :
    ∃ t t', saveSettings diary (.standing []) (settingsWith roughTemplates) = .ok t ∧
      saveSettings t (.standing []) (settingsWith mendedTemplates) = .ok t' ∧
      ∃ r r', report t (.standing []) .everything = .ok r ∧ report t' (.standing []) .everything = .ok r' ∧
        r.failures.length = 1 ∧ r'.failures.length = 0 ∧ r'.found = r.found := by
  have folder : diary.find? (standing []).settingsFolder = some .folder := rfl
  have can : CanSave diary (.standing []) := ⟨rfl, fun content file => absurd (folder.symm.trans file) (by simp), by decide⟩
  obtain ⟨t, saved⟩ := saveSettings_of_canSave can (settingsWith roughTemplates)
  have loaded := loadSettings_of_saves (saves_of_saveSettings saved).2
  have same := noteFiles_of_saves can (saves_of_saveSettings saved).2
  obtain ⟨r, told, failed⟩ := report_settingsWith loaded same (n := 1) (by decide +kernel)
  obtain ⟨found, t', saved', loaded', same'⟩ := report_mended.2 t (.standing []) _ _ loaded mends_rough
  obtain ⟨r', told', failed'⟩ := report_settingsWith loaded' (same'.trans same) (n := 0) (by decide +kernel)
  refine ⟨t, t', saved, saved', r, r', told, told', failed, failed', ?_⟩
  have agree := found t' loaded' same' .everything
  rw [told, told'] at agree
  exact Except.ok.inj agree

end Vault
end ReadingLog
