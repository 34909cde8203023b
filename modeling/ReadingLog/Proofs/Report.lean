import ReadingLog.Proofs.Chronology
import ReadingLog.Proofs.NoteFiles
import ReadingLog.Vault.Report

/-!
# What a report contains

The events of a vault are those of its notes in the order of their paths, and of each note those that its lines record. A
report has the selected ones among them in the order of their dates (`Chronological`), so that asking for less selects from
what asking for everything gives, and a span of days can be asked for in two parts.
-/

namespace ReadingLog

/-! ## The events of a note -/

/-- The events that the lines of a daily note record, in the order of the lines; any other note has none. -/
def DayLog.eventsIn (log : DayLog) (index : NoteIndex) (note : Note) : List Event :=
  match log.date? note.path with
  | none => []
  | some date => (note.linesUnder log.heading).filterMap (log.event? index note.path date)

/-- The events that the lines of a book's note record, in the order of the lines. -/
def BookLog.eventsIn (log : BookLog) (note : Note) : List Event :=
  (note.linesUnder log.heading).filterMap (log.event? note.path)

/-- The events of a note, those of its day first. -/
def Logs.eventsIn (logs : Logs) (index : NoteIndex) (note : Note) : List Event :=
  logs.day.eventsIn index note ++ logs.book.eventsIn note

namespace History

@[simp] theorem events_empty : (∅ : History).events = [] := rfl

@[simp] theorem events_push (h : History) (e : Event) : (h.push e).events = h.events ++ [e] := rfl

@[simp] theorem events_append (h other : History) : (h ++ other).events = h.events ++ other.events := rfl

theorem events_foldl_push (h : History) (events : List Event) : (events.foldl push h).events = h.events ++ events := by
  induction events generalizing h with
  | nil => simp
  | cons event events ih => simp [ih]

@[simp] theorem events_ofEvents (events : List Event) : (ofEvents events).events = events := events_foldl_push _ events

end History

theorem DayLog.events_extract (log : DayLog) (index : NoteIndex) (note : Note) :
    (log.extract index note).events = log.eventsIn index note := by
  unfold DayLog.extract DayLog.eventsIn
  cases log.date? note.path with
  | none => rfl
  | some date => exact History.events_ofEvents _

theorem BookLog.events_extract (log : BookLog) (note : Note) : (log.extract note).events = log.eventsIn note :=
  History.events_ofEvents _

theorem Logs.events_extract (logs : Logs) (index : NoteIndex) (note : Note) :
    (logs.extract index note).events = logs.eventsIn index note := by
  simp [Logs.extract, Logs.eventsIn, DayLog.events_extract, BookLog.events_extract]

/-- Putting the histories of notes together loses no event and moves none. -/
theorem Logs.events_foldl (logs : Logs) (index : NoteIndex) (h : History) (notes : List Note) :
    (notes.foldl (fun h note => h ++ logs.extract index note) h).events =
      h.events ++ notes.flatMap (logs.eventsIn index) := by
  induction notes generalizing h with
  | nil => simp
  | cons note notes ih => simp [ih, Logs.events_extract]

/-! ## Selected events -/

namespace Query

/-- An event is about the book, if one is asked for, and its day is none before the first and none after the last. -/
def Selects (q : Query) (book : Option NotePath) (e : Event) : Prop :=
  (∀ path ∈ book, e.book = path) ∧ (∀ first ∈ q.first, first ≤ e.date) ∧ (∀ last ∈ q.last, e.date ≤ last)

instance (q : Query) (book : Option NotePath) (e : Event) : Decidable (q.Selects book e) :=
  inferInstanceAs (Decidable (_ ∧ _ ∧ _))

theorem wants_eq (q : Query) (book : Option NotePath) : q.wants book = fun e => decide (q.Selects book e) := by
  funext e
  obtain ⟨_, first, last⟩ := q
  cases book <;> cases first <;> cases last <;> simp [wants, Selects, eq_comm, Bool.and_assoc]

theorem selects_everything (e : Event) : everything.Selects none e := by
  simp [Selects, everything]

section Span
variable {reference : Option String} {book : Option NotePath} {first middle following last : Date} (e : Event)

theorem selects_early_iff (before : middle < last) :
    (⟨reference, some first, some middle⟩ : Query).Selects book e ↔
      e.date ≤ middle ∧ (⟨reference, some first, some last⟩ : Query).Selects book e := by
  have reach (early : e.date ≤ middle) : e.date ≤ last := Date.le_trans early (Date.le_of_lt before)
  simp only [Selects, Option.mem_some_iff, forall_eq']
  tauto

theorem selects_late_iff (begins : first ≤ middle) (next : middle.next? = some following) :
    (⟨reference, some following, some last⟩ : Query).Selects book e ↔
      middle < e.date ∧ (⟨reference, some first, some last⟩ : Query).Selects book e := by
  have reach (late : middle < e.date) : first ≤ e.date := Date.le_trans begins (Date.le_of_lt late)
  simp only [Selects, Option.mem_some_iff, forall_eq', Date.next?_le_iff next]
  tauto

end Span
end Query

/-! ## Reports -/

namespace Report

theorem chronological_ofNotes (logs : Logs) (index : NoteIndex) (q : Query) (book : Option NotePath) (notes : List Note) :
    Chronological ((notes.flatMap (logs.eventsIn index)).filter (q.Selects book ·))
      (ofNotes logs index q book notes).events := by
  simp only [ofNotes, History.events_ofEvents, Logs.events_foldl, History.events_empty, List.nil_append, Query.wants_eq]
  exact Chronological.mergeSort _

theorem events_everything (logs : Logs) (index : NoteIndex) (notes : List Note) :
    Chronological (notes.flatMap (logs.eventsIn index)) (ofNotes logs index .everything none notes).events := by
  have sorted := chronological_ofNotes logs index .everything none notes
  simpa only [Query.selects_everything, decide_true, List.filter_true] using sorted

/-- Selecting before sorting is selecting after it. -/
theorem events_ofNotes (logs : Logs) (index : NoteIndex) (q : Query) (book : Option NotePath) (notes : List Note) :
    (ofNotes logs index q book notes).events =
      (ofNotes logs index .everything none notes).events.filter (q.Selects book ·) :=
  (chronological_ofNotes logs index q book notes).unique ((events_everything logs index notes).filter _)

theorem events_span (logs : Logs) (index : NoteIndex) (reference : Option String) (book : Option NotePath) (notes : List Note)
    {first middle following last : Date} (begins : first ≤ middle) (ends : middle < last)
    (next : middle.next? = some following) :
    (ofNotes logs index ⟨reference, some first, some last⟩ book notes).events =
      (ofNotes logs index ⟨reference, some first, some middle⟩ book notes).events ++
      (ofNotes logs index ⟨reference, some following, some last⟩ book notes).events := by
  have whole := chronological_ofNotes logs index ⟨reference, some first, some last⟩ book notes
  rw [Chronological.filter_split whole.ordered middle]
  congr 1
  · rw [events_ofNotes, events_ofNotes logs index ⟨reference, some first, some middle⟩, List.filter_filter]
    simp only [Query.selects_early_iff _ ends, Bool.decide_and]
  · rw [events_ofNotes, events_ofNotes logs index ⟨reference, some following, some last⟩, List.filter_filter]
    simp only [Query.selects_late_iff _ begins next, Bool.decide_and]

end Report

namespace Vault

theorem noteOf_eq_ok_iff {file : NotePath × Content} {note : Note} :
    noteOf file = .ok note ↔ file = (note.path, .text note.content) := by
  obtain ⟨path, content⟩ := file
  obtain ⟨path', content'⟩ := note
  cases content with
  | text content => simp [noteOf]
  | binary bytes => simp [noteOf]

/-- Reading succeeds for all files when each is the text of its note. -/
theorem mapM_noteOf_eq_ok_iff {files : List (NotePath × Content)} {notes : List Note} :
    files.mapM noteOf = .ok notes ↔ files = notes.map fun note => (note.path, .text note.content) := by
  induction files generalizing notes with
  | nil => cases notes <;> simp [pure, Except.pure]
  | cons file files ih =>
    simp only [List.mapM_cons, bind_eq_ok_iff, noteOf_eq_ok_iff, ih, pure, Except.pure, Except.ok.injEq]
    constructor
    · rintro ⟨note, rfl, rest, rfl, rfl⟩
      rfl
    · intro all
      cases notes with
      | nil => contradiction
      | cons note rest =>
        obtain ⟨first, others⟩ := List.cons.inj all
        exact ⟨note, first, rest, others, rfl⟩

/-- The parts that a report is made of. -/
theorem report_eq_ok_iff {t : FileTree} {v : Vault} {q : Query} {r : Report} :
    report t v q = .ok r ↔ ∃ settings, loadSettings t v = .ok settings ∧ ∃ logs, Logs.ofSettings settings = .ok logs ∧
      ∃ book, q.book? ⟨notes t v⟩ = .ok book ∧ ∃ read, (noteFiles t v).mapM noteOf = .ok read ∧
        Report.ofNotes logs ⟨notes t v⟩ q book read = r := by
  simp only [report, bind_eq_ok_iff, pure, Except.pure, Except.ok.injEq]

/-- A report has the events that the lines of the notes record, note by note in the order of their paths, as far as they are
    asked for, sorted by date and otherwise left in order. So it selects from the report on everything, and a span of days
    can be cut after each of its days but the last. -/
theorem report_events (t : FileTree) (v : Vault) (q : Query) (r : Report) (succeeds : report t v q = .ok r) :
    ∃ (settings : Settings) (logs : Logs) (book : Option NotePath) (read : List Note),
      loadSettings t v = .ok settings ∧ Logs.ofSettings settings = .ok logs ∧ q.book? ⟨notes t v⟩ = .ok book ∧
      noteFiles t v = read.map (fun note => (note.path, .text note.content)) ∧ (read.map Note.path).Pairwise (· < ·) ∧
      Chronological ((read.flatMap (logs.eventsIn ⟨notes t v⟩)).filter (q.Selects book ·)) r.events ∧
      (∃ all, report t v .everything = .ok all ∧ r.events = all.events.filter (q.Selects book ·)) ∧
      ∀ first middle last : Date, first ≤ middle → middle < last → ∃ following whole early late,
        middle.next? = some following ∧ report t v ⟨q.book, some first, some last⟩ = .ok whole ∧
        report t v ⟨q.book, some first, some middle⟩ = .ok early ∧
        report t v ⟨q.book, some following, some last⟩ = .ok late ∧ whole.events = early.events ++ late.events := by
  obtain ⟨settings, loaded, logs, built, book, resolved, read, opened, rfl⟩ := report_eq_ok_iff.1 succeeds
  have files := mapM_noteOf_eq_ok_iff.1 opened
  have span (first last : Option Date) :
      report t v ⟨q.book, first, last⟩ = .ok (Report.ofNotes logs ⟨notes t v⟩ ⟨q.book, first, last⟩ book read) :=
    report_eq_ok_iff.2 ⟨settings, loaded, logs, built, book, resolved, read, opened, rfl⟩
  refine ⟨settings, logs, book, read, loaded, built, resolved, files, ?_, Report.chronological_ofNotes .., ⟨_,
    report_eq_ok_iff.2 ⟨settings, loaded, logs, built, none, rfl, read, opened, rfl⟩, Report.events_ofNotes ..⟩, ?_⟩
  · have ordered := noteFiles_ordered t v
    rwa [files, List.map_map] at ordered
  · intro first middle last begins ends
    obtain ⟨following, next⟩ := Date.exists_next? ends
    exact ⟨following, _, _, _, next, span _ _, span _ _, span _ _, Report.events_span logs _ _ _ read begins ends next⟩

/-- A note that is both that of a day and that of a book. -/
def diaryNote : Note := ⟨"2024-10-12.md", "# Reading\n- Started [[2024-10-12]]\n# Reading Log\n- 2024-10-11: 7\n"⟩

/-- A vault with this one note. -/
def diary : FileTree where
  entries :=
    [([settingsFolderName], .folder),
     ([settingsFolderName, settingsFileName], .file (.text "created = \"2024-01-01T00:00:00Z\"")),
     ([⟨diaryNote.path, by decide⟩], .file (.text diaryNote.content))]
  nodup := by decide
  rooted := by decide

theorem noteFiles_diary : noteFiles diary (.standing []) = [(diaryNote.path, .text diaryNote.content)] := by
  have found : diary.entries.filterMap (noteFile? (.standing [])) = [(diaryNote.path, .text diaryNote.content)] := by
    decide +kernel
  rw [noteFiles, found, List.mergeSort_singleton]

/-- How the notes of a new vault are read. -/
def newLogs : Logs :=
  ⟨⟨(Templates.initial .day).patterns .day .iso, LogSettings.initialHeading .day, .iso, none⟩,
   ⟨(Templates.initial .book).patterns .book .iso, LogSettings.initialHeading .book⟩⟩

theorem report_diary (q : Query) (book : Option NotePath) (resolved : q.book? ⟨[diaryNote.path]⟩ = .ok book) :
    report diary (.standing []) q = .ok (Report.ofNotes newLogs ⟨[diaryNote.path]⟩ q book [diaryNote]) := by
  have index : notes diary (.standing []) = [diaryNote.path] := by rw [notes, noteFiles_diary, List.map_singleton]
  have loaded : loadSettings diary (.standing []) =
      .ok (.initial ⟨⟨2024, 1, 1, by decide⟩, 0, 0, 0, by decide, by decide, by decide⟩) := by decide +kernel
  rw [report_eq_ok_iff, index, noteFiles_diary]
  exact ⟨_, loaded, newLogs, by decide +kernel, book, resolved, [diaryNote], by decide +kernel, rfl⟩

/-- Asked for from its second day on, the diary tells one of its two events. -/
theorem report_events_diary :
    ∃ r all, report diary (.standing []) ⟨some "2024-10-12", some ⟨2024, 10, 12, by decide⟩, none⟩ = .ok r ∧
      report diary (.standing []) .everything = .ok all ∧ all.events.length = 2 ∧ r.events.length = 1 ∧
      ∀ e ∈ r.events, e ∈ all.events := by
  have asked :=
    report_diary ⟨some "2024-10-12", some ⟨2024, 10, 12, by decide⟩, none⟩ (some diaryNote.path) (by decide +kernel)
  have everything := report_diary .everything none rfl
  obtain ⟨_, _, _, _, _, _, _, _, _, _, ⟨all, whole, selection⟩, _⟩ := report_events _ _ _ _ asked
  obtain rfl := Except.ok.inj (everything.symm.trans whole)
  refine ⟨_, _, asked, whole, ?_, ?_, ?_⟩
  · rw [(Report.events_everything ..).perm.length_eq]
    decide +kernel
  · rw [(Report.chronological_ofNotes ..).perm.length_eq]
    decide +kernel
  · intro e member
    rw [selection] at member
    exact (List.mem_filter.1 member).1

end Vault
end ReadingLog
