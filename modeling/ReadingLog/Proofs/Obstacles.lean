import ReadingLog.Proofs.ReadBack
import ReadingLog.Proofs.Report
import ReadingLog.Proofs.SavedSettings

/-!
# What keeps a vault from being reported on

Five things can: the settings, the layout of dates of either log, a reference to no book, and a note that is no text. A report
fails with the first of them that applies, and succeeds where none does.
-/

namespace ReadingLog

namespace DateLayout

/-- A pattern asks for a year, a month and a day. -/
structure IsComplete (pattern : String) : Prop where
  year : ∃ f, .field f ∈ Token.ofPattern pattern.toList ∧ f.isYear
  month : ∃ f, .field f ∈ Token.ofPattern pattern.toList ∧ f.isMonth
  day : ∃ f, .field f ∈ Token.ofPattern pattern.toList ∧ f.isDay

theorem isComplete_iff {pattern : String} :
    IsComplete pattern ↔ Token.areComplete (Token.ofPattern pattern.toList) = true := by
  simp only [Token.areComplete, Bool.and_eq_true, Token.anyField_iff]
  constructor
  · intro complete
    exact ⟨⟨complete.year, complete.month⟩, complete.day⟩
  · rintro ⟨⟨year, month⟩, day⟩
    exact ⟨year, month, day⟩

theorem ofPattern_eq_error_iff {pattern : String} {e : Error} :
    ofPattern pattern = .error e ↔ ¬ IsComplete pattern ∧ e = .invalidDateLayout pattern := by
  rw [isComplete_iff, ofPattern]
  split
  · next complete => simp [complete]
  · next lacking => simp [lacking, eq_comm]

end DateLayout

/-- The error of an outcome, if it is one. -/
def errorOf? {α : Type} : Except Error α → Option Error
  | .ok _ => none
  | .error e => some e

theorem errorOf?_eq_some_iff {α : Type} {outcome : Except Error α} {e : Error} :
    errorOf? outcome = some e ↔ outcome = .error e := by
  cases outcome <;> simp [errorOf?]

theorem errorOf?_eq_none_iff {α : Type} {outcome : Except Error α} : errorOf? outcome = none ↔ ∃ a, outcome = .ok a := by
  cases outcome <;> simp [errorOf?]

/-- Reading a list one by one ends at the first element that cannot be read. -/
theorem mapM_eq_error_iff {α β : Type} {f : α → Except Error β} {l : List α} {e : Error} : l.mapM f = .error e ↔
    ∃ before a after, l = before ++ a :: after ∧ (∀ earlier ∈ before, ∃ b, f earlier = .ok b) ∧ f a = .error e := by
  induction l with
  | nil => simp [pure, Except.pure]
  | cons a l ih =>
    simp only [List.mapM_cons, bind_eq_error_iff, ih, pure, Except.pure, reduceCtorEq, and_false, exists_false, or_false]
    constructor
    · rintro (here | ⟨b, read, before, a', after, rfl, earlier, there⟩)
      · exact ⟨[], a, l, rfl, nofun, here⟩
      · refine ⟨a :: before, a', after, rfl, ?_, there⟩
        simpa using ⟨⟨b, read⟩, earlier⟩
    · rintro ⟨before, a', after, split, earlier, there⟩
      cases before with
      | nil =>
        obtain ⟨rfl, -⟩ := List.cons.inj split
        exact .inl there
      | cons first before =>
        obtain ⟨rfl, rfl⟩ := List.cons.inj split
        obtain ⟨b, read⟩ := earlier a List.mem_cons_self
        exact .inr ⟨b, read, before, a', after, rfl, fun other member => earlier other (List.mem_cons_of_mem _ member), there⟩

namespace Vault

/-- What can keep a vault from being reported on. -/
inductive Obstacle where
  | settings
  | dayLayout
  | bookLayout
  | book
  | note
  deriving DecidableEq, Repr

/-- Every obstacle, in the order in which they are met. -/
def Obstacle.all : List Obstacle := [settings, dayLayout, bookLayout, book, note]

/-- An obstacle is there, with the error that tells it. -/
def Stands (t : FileTree) (v : Vault) (q : Query) : Obstacle → Error → Prop
  | .settings, e => Unloadable t v e
  | .dayLayout, e => ∃ s, loadSettings t v = .ok s ∧ ¬ DateLayout.IsComplete s.daily.datePattern ∧
    e = .invalidDateLayout s.daily.datePattern
  | .bookLayout, e => ∃ s, loadSettings t v = .ok s ∧ ¬ DateLayout.IsComplete s.books.datePattern ∧
    e = .invalidDateLayout s.books.datePattern
  | .book, e => ∃ reference, q.book = some reference ∧
    NoteIndex.resolve? ⟨notes t v⟩ (linkTarget reference.toList) "" = none ∧ e = .nothingFound (.unknownBook reference)
  | .note, e => ∃ before path after, notes t v = before ++ path :: after ∧
    (∀ earlier ∈ before, ∃ content, readNote t v earlier = .ok content) ∧
    e = .storage .notText ∧ readNote t v path = .error e

/-- The error that tells an obstacle, if it is there. -/
def obstruction? (t : FileTree) (v : Vault) (q : Query) : Obstacle → Option Error
  | .settings => errorOf? (loadSettings t v)
  | .dayLayout => (loadSettings t v).toOption.bind fun s => errorOf? s.daily.layout
  | .bookLayout => (loadSettings t v).toOption.bind fun s => errorOf? s.books.layout
  | .book => errorOf? (q.book? ⟨notes t v⟩)
  | .note => errorOf? ((notes t v).mapM (readNote t v))

variable {t : FileTree} {v : Vault} {q : Query} {e : Error}

/-! ## Reading the notes -/

theorem mapM_readNote (t : FileTree) (v : Vault) :
    (notes t v).mapM (readNote t v) = ((noteFiles t v).mapM noteOf).map (·.map Note.content) := by
  have each : ∀ file ∈ noteFiles t v, readNote t v file.1 = (noteOf file).map Note.content := fun _ => readNote_of_mem
  rw [notes, List.mapM_map]
  revert each
  generalize noteFiles t v = files
  intro each
  induction files with
  | nil => rfl
  | cons file files ih =>
    rw [List.mapM_cons, List.mapM_cons, ih fun other member => each other (List.mem_cons_of_mem _ member)]
    simp only [Function.comp_apply, each file List.mem_cons_self]
    cases noteOf file with
    | error => rfl
    | ok note => cases files.mapM noteOf <;> rfl

theorem eq_notText_of_readNote {path : NotePath} (member : path ∈ notes t v) (unread : readNote t v path = .error e) :
    e = .storage .notText := by
  obtain ⟨⟨path, content⟩, inside, rfl⟩ := List.mem_map.1 member
  rw [readNote_of_mem inside] at unread
  cases content with
  | text => cases unread
  | binary => exact (Except.error.inj unread).symm

theorem obstruction?_eq_some_iff {o : Obstacle} : obstruction? t v q o = some e ↔ Stands t v q o e := by
  cases o with
  | settings => rw [obstruction?, errorOf?_eq_some_iff, loadSettings_eq_error_iff, Stands]
  | dayLayout =>
    simp only [obstruction?, Stands, Option.bind_eq_some_iff, toOption_eq_some_iff, errorOf?_eq_some_iff,
      LogSettings.layout, DateLayout.ofPattern_eq_error_iff]
  | bookLayout =>
    simp only [obstruction?, Stands, Option.bind_eq_some_iff, toOption_eq_some_iff, errorOf?_eq_some_iff,
      LogSettings.layout, DateLayout.ofPattern_eq_error_iff]
  | book =>
    rw [obstruction?, errorOf?_eq_some_iff, Stands, Query.book?]
    cases q.book with
    | none => simp
    | some reference =>
      cases found : NoteIndex.resolve? ⟨notes t v⟩ (linkTarget reference.toList) "" <;> simp [found, eq_comm]
  | note =>
    rw [obstruction?, errorOf?_eq_some_iff, mapM_eq_error_iff, Stands]
    refine exists_congr fun before => exists_congr fun path => exists_congr fun after => ?_
    refine and_congr_right fun split => and_congr_right fun _ => ⟨fun unread => ?_, fun ⟨same, unread⟩ => unread⟩
    have member : path ∈ notes t v := by rw [split]; exact List.mem_append_right _ List.mem_cons_self
    exact ⟨eq_notText_of_readNote member unread, unread⟩

/-! ## Reports -/

theorem errorOf?_report (t : FileTree) (v : Vault) (q : Query) :
    errorOf? (report t v q) = Obstacle.all.findSome? (obstruction? t v q) := by
  have notes_read : errorOf? ((notes t v).mapM (readNote t v)) = errorOf? ((noteFiles t v).mapM noteOf) := by
    rw [mapM_readNote]
    cases (noteFiles t v).mapM noteOf <;> rfl
  simp only [Obstacle.all, List.findSome?_cons, List.findSome?_nil, obstruction?, notes_read]
  unfold report Logs.ofSettings
  cases loadSettings t v with
  | error => rfl
  | ok s =>
    simp only [bind, Except.bind, Except.toOption, Option.bind]
    cases s.daily.layout with
    | error => rfl
    | ok dayLayout =>
      cases s.books.layout with
      | error => rfl
      | ok bookLayout =>
        cases q.book? ⟨notes t v⟩ with
        | error => rfl
        | ok book => cases (noteFiles t v).mapM noteOf <;> rfl

/-- An obstacle stands, and none of those before it. -/
def StandsFirst (t : FileTree) (v : Vault) (q : Query) (o : Obstacle) (e : Error) : Prop :=
  Stands t v q o e ∧ ∃ before after, Obstacle.all = before ++ o :: after ∧ ∀ earlier ∈ before, ∀ e', ¬ Stands t v q earlier e'

theorem not_stands_iff {o : Obstacle} : (∀ e, ¬ Stands t v q o e) ↔ obstruction? t v q o = none := by
  simp only [← obstruction?_eq_some_iff, Option.eq_none_iff_forall_ne_some, ne_eq]

theorem readNote_of_report {r : Report} (succeeds : report t v q = .ok r) {path : NotePath} (member : path ∈ notes t v) :
    ∃ content, readNote t v path = .ok content := by
  obtain ⟨_, _, _, _, _, _, read, opened, -⟩ := report_eq_ok_iff.1 succeeds
  obtain ⟨file, inside, rfl⟩ := List.mem_map.1 member
  rw [readNote_of_mem inside]
  rw [mapM_noteOf_eq_ok_iff.1 opened] at inside
  obtain ⟨note, -, rfl⟩ := List.mem_map.1 inside
  exact ⟨note.content, rfl⟩

/-- A report fails with the first obstacle that stands, in the order of `Obstacle.all`, and succeeds where none does. Nothing
    else makes it fail, and a note that is no text does so whatever is asked for. -/
theorem report_meets_first_obstacle (t : FileTree) (v : Vault) (q : Query) :
    (∀ e, report t v q = .error e ↔ ∃ o, StandsFirst t v q o e) ∧
    ((∃ r, report t v q = .ok r) ↔ ∀ o e, ¬ Stands t v q o e) ∧
    ∀ path ∈ notes t v, ∀ e, readNote t v path = .error e → ∀ q', ∃ e', report t v q' = .error e' := by
  have fails_iff (q : Query) (e : Error) : report t v q = .error e ↔ ∃ o, StandsFirst t v q o e := by
    rw [← errorOf?_eq_some_iff, errorOf?_report, List.findSome?_eq_some_iff]
    simp only [obstruction?_eq_some_iff, ← not_stands_iff, StandsFirst]
    constructor
    · rintro ⟨before, o, after, order, here, clear⟩
      exact ⟨o, here, before, after, order, clear⟩
    · rintro ⟨o, here, before, after, order, clear⟩
      exact ⟨before, o, after, order, here, clear⟩
  have succeeds_iff (q : Query) : (∃ r, report t v q = .ok r) ↔ ∀ o e, ¬ Stands t v q o e := by
    rw [← errorOf?_eq_none_iff, errorOf?_report, List.findSome?_eq_none_iff]
    simp only [← not_stands_iff]
    exact ⟨fun clear o => clear o (by cases o <;> decide), fun clear o _ => clear o⟩
  refine ⟨fails_iff q, succeeds_iff q, fun path member e unread q' => ?_⟩
  cases outcome : report t v q' with
  | error e' => exact ⟨e', rfl⟩
  | ok r =>
    obtain ⟨content, read⟩ := readNote_of_report outcome member
    exact absurd (read.symm.trans unread) (by simp)

/-- A vault with a note that is no text. -/
def scrawl : FileTree where
  entries :=
    [([settingsFolderName], .folder),
     ([settingsFolderName, settingsFileName], .file (.text "created = \"2024-01-01T00:00:00Z\"")),
     ([⟨"Scrawl.md", by decide⟩], .file (.binary [.ofNat 0xFF]))]
  nodup := by decide
  rooted := by decide

theorem report_meets_first_obstacle_scrawl :
    readNote scrawl (.standing []) "Scrawl.md" = .error (.storage .notText) ∧
    ∀ q, ∃ e, report scrawl (.standing []) q = .error e := by
  have found : scrawl.entries.filterMap (noteFile? (.standing [])) = [("Scrawl.md", .binary [.ofNat 0xFF])] := by
    decide +kernel
  have member : "Scrawl.md" ∈ notes scrawl (.standing []) := by
    rw [notes, noteFiles, found, List.mergeSort_singleton]
    exact List.mem_singleton_self _
  have unread : readNote scrawl (.standing []) "Scrawl.md" = .error (.storage .notText) := by decide +kernel
  exact ⟨unread, (report_meets_first_obstacle scrawl (.standing []) .everything).2.2 _ member _ unread⟩

end Vault
end ReadingLog
