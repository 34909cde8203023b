import ReadingLog.Command.Run
import ReadingLog.Proofs.PatternSets
import ReadingLog.Proofs.Report

/-!
# Checks and reports

A check and a report each load the settings and compile the templates on their own. They meet the same errors there, in the
same order, and tell the same failures, so a vault that passes the check is never warned about.
-/

namespace ReadingLog

open Template

/-! ## Counting templates -/

theorem Template.Source.isSome_text? (source : Source) :
    source.text?.isSome = source.text.any fun text => text.toList.any fun c => !Text.isBlank c := by
  rw [Bool.eq_iff_iff, Option.isSome_iff_exists]
  simp only [text?_eq_some_iff, Gives, Option.any_eq_true, List.any_eq_true, Bool.not_eq_true', Bool.not_eq_true]
  constructor
  · rintro ⟨template, text, here, inked, -⟩
    exact ⟨text, here, inked⟩
  · rintro ⟨text, here, inked⟩
    exact ⟨_, text, here, inked, rfl⟩

/-- No template is lost, and none is counted twice. -/
theorem PatternSet.length_ofSources (layout : DateLayout) (sources : List Source) :
    (ofSources layout sources).patterns.length + (ofSources layout sources).failures.length =
      sources.countP (·.text?.isSome) := by
  rw [patterns_ofSources, failures_ofSources]
  induction sources with
  | nil => rfl
  | cons source sources ih =>
    rw [List.countP_cons, ← ih]
    cases given : source.text? with
    | none =>
      have no_pattern : source.pattern? layout = none := by rw [Source.pattern?, given, Option.bind_none]
      have no_failure : source.failure? = none := by rw [Source.failure?, given, Option.bind_none]
      rw [List.filterMap_cons_none no_pattern, List.filterMap_cons_none no_failure]
      rfl
    | some template =>
      have either : (source.pattern? layout).isSome ↔ source.failure? = none :=
        Source.isSome_pattern?_iff (Source.text?_eq_some_iff.1 given)
      rw [Option.isSome_some, if_pos rfl]
      cases failed : source.failure? with
      | none =>
        obtain ⟨p, found⟩ := Option.isSome_iff_exists.1 (either.2 failed)
        rw [List.filterMap_cons_some found, List.filterMap_cons_none failed, List.length_cons]
        exact Nat.add_right_comm _ _ _
      | some f =>
        have no_pattern : source.pattern? layout = none := by
          rw [← Option.not_isSome_iff_eq_none, either, failed]
          simp
        rw [List.filterMap_cons_none no_pattern, List.filterMap_cons_some failed, List.length_cons]
        rfl

namespace Templates

/-- How many templates are there and not blank. -/
def count (templates : Templates) : Nat :=
  Purpose.all.countP fun purpose => (templates.get purpose).any fun text => text.toList.any fun c => !Text.isBlank c

theorem length_patterns (templates : Templates) (log : Log) (layout : DateLayout) :
    (templates.patterns log layout).patterns.length + (templates.patterns log layout).failures.length = templates.count := by
  rw [patterns, PatternSet.length_ofSources, sources, List.countP_map, count]
  refine List.countP_congr fun purpose _ => ?_
  simp only [Function.comp_apply, Source.isSome_text?]

end Templates

theorem Logs.ofSettings_eq_ok_iff {s : Settings} {logs : Logs} : ofSettings s = .ok logs ↔
    ∃ dayLayout, s.daily.layout = .ok dayLayout ∧ ∃ bookLayout, s.books.layout = .ok bookLayout ∧
      ⟨⟨s.daily.templates.patterns .day dayLayout, s.daily.heading, dayLayout, s.folder⟩,
        ⟨s.books.templates.patterns .book bookLayout, s.books.heading⟩⟩ = logs := by
  simp only [ofSettings, bind_eq_ok_iff, pure, Except.pure, Except.ok.injEq]

/-! ## Checks -/

namespace Vault

variable {t : FileTree} {v : Vault} {q : Query} {e : Error} {r : Report}

theorem check_eq (t : FileTree) (v : Vault) : check t v = do
    let logs ← Logs.ofSettings (← loadSettings t v)
    return ⟨logs.day.patterns.patterns.length + logs.book.patterns.patterns.length, logs.failures⟩ := by
  unfold check
  cases loadSettings t v with
  | error => rfl
  | ok s =>
    show (s.daily.layout >>= _) = Logs.ofSettings s >>= _
    unfold Logs.ofSettings
    cases s.daily.layout with
    | error => rfl
    | ok dayLayout =>
      show (s.books.layout >>= _) = (s.books.layout >>= _) >>= _
      cases s.books.layout <;> rfl

/-- A report goes on where a check ends. -/
theorem report_of_check_error (failed : check t v = .error e) (q : Query) : report t v q = .error e := by
  rw [check_eq] at failed
  rcases bind_eq_error_iff.1 failed with unloaded | ⟨s, loaded, failed⟩
  · exact bind_eq_error_iff.2 (.inl unloaded)
  · refine bind_eq_error_iff.2 (.inr ⟨s, loaded, ?_⟩)
    rcases bind_eq_error_iff.1 failed with unbuilt | ⟨logs, -, ended⟩
    · exact bind_eq_error_iff.2 (.inl unbuilt)
    · cases ended

theorem check_of_report (told : report t v q = .ok r) : ∃ c s, check t v = .ok c ∧ loadSettings t v = .ok s ∧
    c.failures = r.failures ∧ c.compiled + c.failures.length = s.daily.templates.count + s.books.templates.count := by
  obtain ⟨s, loaded, logs, built, book, -, read, -, rfl⟩ := report_eq_ok_iff.1 told
  refine ⟨⟨logs.day.patterns.patterns.length + logs.book.patterns.patterns.length, logs.failures⟩, s, ?_, loaded, rfl, ?_⟩
  · rw [check_eq, loaded]
    show Logs.ofSettings s >>= _ = _
    rw [built]
    rfl
  · obtain ⟨dayLayout, -, bookLayout, -, rfl⟩ := Logs.ofSettings_eq_ok_iff.1 built
    have day := s.daily.templates.length_patterns .day dayLayout
    have book := s.books.templates.length_patterns .book bookLayout
    simp only [Logs.failures, List.length_append]
    omega

end Vault

/-! ## Warnings -/

namespace Command

/-- A run begins its messages with a warning. -/
def Outcome.Warns (o : Outcome) : Prop := "Warning: ".toList <+: o.err.toList

namespace Outcome

instance (o : Outcome) : Decidable o.Warns := inferInstanceAs (Decidable (_ <+: _))

theorem not_warns_usage : ¬ (⟨2, "", usage⟩ : Outcome).Warns := by
  have opening : "Reading".toList <+: usage.toList := by
    rw [usage, String.toList_intercalate, List.map_cons, List.map_cons, List.intercalate_cons_cons, List.append_assoc]
    exact List.IsPrefix.trans ⟨" journeys from markdown notes".toList, rfl⟩ (List.prefix_append _ _)
  rintro ⟨rest, same⟩
  change _ = usage.toList at same
  rw [← same] at opening
  exact absurd opening (by simp)

theorem not_warns_success (out : String) : ¬ (success out).Warns := by
  rintro ⟨rest, same⟩
  exact absurd same nofun

theorem not_warns_failure (out : String) (e : Error) : ¬ (failure out e).Warns := by
  rintro ⟨rest, same⟩
  simpa [failure, String.toList_append] using congrArg List.head? same

theorem exit_failure_ne_zero (out : String) (e : Error) : (failure out e).exit ≠ 0 := by
  cases e <;> simp [failure, Error.exitCode]

end Outcome

variable {t : FileTree} {s : Surroundings} {book first last : Option String} {r : Report}

theorem failures_of_passed (passed : (runCheck t s).exit = 0) (told : reportFor t s book first last = .ok r) :
    r.failures = [] := by
  obtain ⟨q, -, v, found, told⟩ :
      ∃ q, _ ∧ ∃ v, Vault.discover t s.working s.named = .ok v ∧ Vault.report t v q = .ok r := by
    simpa only [reportFor, bind_eq_ok_iff] using told
  obtain ⟨c, -, checked, -, same, -⟩ := Vault.check_of_report told
  have outcome : (Vault.discover t s.working s.named >>= Vault.check t) = .ok c := by
    rw [found]
    exact checked
  simp only [runCheck, outcome] at passed
  split at passed
  · next none => rw [← same, List.isEmpty_iff.1 none]
  · exact absurd passed (Outcome.exit_failure_ne_zero _ _)

theorem not_warns_runJourneys (passed : (runCheck t s).exit = 0) (book first last : Option String) :
    ¬ (runJourneys t s book first last).Warns := by
  unfold runJourneys
  cases told : reportFor t s book first last with
  | error e => exact Outcome.not_warns_failure "" e
  | ok r =>
    simp only [failures_of_passed passed told, List.isEmpty_nil, if_true]
    split
    · exact Outcome.not_warns_failure "" _
    · exact Outcome.not_warns_success _

theorem not_warns_run (passed : (runCheck t s).exit = 0) (words : List String) : ¬ (run t s words).2.Warns := by
  unfold run
  split
  · exact Outcome.not_warns_usage
  · exact Outcome.not_warns_success _
  · exact Outcome.not_warns_success _
  · unfold runInit
    split
    · exact Outcome.not_warns_success _
    · exact Outcome.not_warns_failure "" _
  · exact not_warns_runJourneys passed _ _ _
  · unfold runCheck
    split
    · exact Outcome.not_warns_failure "" _
    · split
      · exact Outcome.not_warns_success _
      · exact Outcome.not_warns_failure _ _

/-- Where a check fails, every report fails with the same error. Where there is a report, a check succeeds, tells the same
failures and counts all templates. So on a vault that passes the check no run warns. -/
theorem checks_agree_with_reports :
    (∀ t v e, Vault.check t v = .error e → ∀ q, Vault.report t v q = .error e) ∧
    (∀ t v q r, Vault.report t v q = .ok r → ∃ c s, Vault.check t v = .ok c ∧ Vault.loadSettings t v = .ok s ∧
      c.failures = r.failures ∧ c.compiled + c.failures.length = s.daily.templates.count + s.books.templates.count) ∧
    ∀ t s, (runCheck t s).exit = 0 → ∀ words, ¬ (run t s words).2.Warns :=
  ⟨fun _ _ _ => Vault.report_of_check_error, fun _ _ _ _ => Vault.check_of_report, fun _ _ => not_warns_run⟩

/-- A vault without notes, in which a template does not tell the date. -/
def carelessVault : FileTree where
  entries :=
    [([Vault.settingsFolderName], .folder),
     ([Vault.settingsFolderName, Vault.settingsFileName], .file (.text
       "created = \"2024-01-01T00:00:00Z\"\n[books.templates]\nstarted = \"Started\"\nfinished = \"\x7bdate\x7d\""))]
  nodup := by decide
  rooted := by decide

theorem noteFiles_carelessVault : Vault.noteFiles carelessVault (.standing []) = [] := by
  have none : carelessVault.entries.filterMap (Vault.noteFile? (.standing [])) = [] := by decide +kernel
  rw [Vault.noteFiles, none, List.mergeSort_nil]

theorem checks_agree_with_reports_careless :
    (∃ c r, Vault.check carelessVault (.standing []) = .ok c ∧
      Vault.report carelessVault (.standing []) .everything = .ok r ∧ c.failures = r.failures ∧
      r.failures = [⟨⟨.book, .started⟩, .missingPlaceholder "Started" "date"⟩]) ∧
    Vault.report ∅ (.standing []) .everything = .error (.notVault (Location.path [])) ∧
    (runCheck Vault.diary ⟨[], none, .start⟩).exit = 0 ∧ ¬ (run Vault.diary ⟨[], none, .start⟩ ["journeys"]).2.Warns := by
  obtain ⟨fails, agrees, quiet⟩ := checks_agree_with_reports
  refine ⟨?_, fails ∅ (.standing []) _ (by decide +kernel) _, by decide +kernel, quiet _ _ (by decide +kernel) _⟩
  have failures : (do return (← Logs.ofSettings (← Vault.loadSettings carelessVault (.standing []))).failures) =
      Except.ok [⟨⟨.book, .started⟩, .missingPlaceholder "Started" "date"⟩] := by decide +kernel
  obtain ⟨s, loaded, logs, built, only⟩ : ∃ s, _ ∧ ∃ logs, _ ∧ _ := by
    simpa only [bind_eq_ok_iff, pure, Except.pure, Except.ok.injEq] using failures
  have told : Vault.report carelessVault (.standing []) .everything =
      .ok (Report.ofNotes logs ⟨Vault.notes carelessVault (.standing [])⟩ .everything none []) := by
    rw [Vault.report_eq_ok_iff, noteFiles_carelessVault]
    exact ⟨s, loaded, logs, built, none, rfl, [], rfl, rfl⟩
  obtain ⟨c, -, checked, -, same, -⟩ := agrees _ _ _ _ told
  exact ⟨c, _, checked, told, same, only⟩

end Command
end ReadingLog
