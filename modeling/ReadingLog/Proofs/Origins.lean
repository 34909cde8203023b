import ReadingLog.Proofs.Books
import ReadingLog.Proofs.NewTemplates
import ReadingLog.Proofs.Positions
import ReadingLog.Proofs.Report

/-!
# Where the events of a report come from

Every event is recorded by a line of some note: of the note of its day, which refers to its book, or of the note of its book,
which gives its day. No line that matches a template gets lost for want of the one or the other.
-/

namespace ReadingLog

open Template

/-! ## What can be recorded -/

/-- An action is possible: no share is above the whole, and what progress starts from is a page, as is then what it ends at. -/
inductive Action.IsPossible : Action → Prop
  | started : IsPossible started
  | finished : IsPossible finished
  | abandoned : IsPossible abandoned
  | page (stop : UInt32) : IsPossible (progress none (.page stop))
  | pages (start stop : UInt32) : IsPossible (progress (some (.page start)) (.page stop))
  | share {share : UInt8} : share.toNat ≤ 100 → IsPossible (progress none (.percent share))

theorem Action.IsPossible.isSome_compare? {start stop : Position} (possible : IsPossible (progress (some start) stop)) :
    (start.compare? stop).isSome := by
  cases possible
  rfl

/-- A match has what a line of its log tells: in a day's note a reference to a book and no date, in a book's note a date and no
    reference. -/
def Template.Match.Suits (m : Match) : Log → Prop
  | .day => m.date = none ∧ ∃ reference, m.book = some reference
  | .book => m.book = none ∧ ∃ date, m.date = some date

namespace Position

theorem page?_eq_some {s : Text} {position : Position} (read : page? s = some position) :
    ∃ number, position = .page number := by
  obtain ⟨-, -, number, rfl, -⟩ := page?_eq_some_iff.1 read
  exact ⟨number, rfl⟩

theorem percent?_eq_some {s : Text} {position : Position} (read : percent? s = some position) :
    ∃ share, position = .percent share ∧ share.toNat ≤ 100 := by
  obtain ⟨digits, -, -, inside, share, rfl, value⟩ := percent?_eq_some_iff.1 read
  exact ⟨share, rfl, value ▸ inside⟩

end Position

namespace Pattern

variable {p : Pattern} {line : Text} {m : Match}

theorem isPossible_of_givesAction {pieces : List Text} {action : Action} (gives : p.GivesAction pieces action) :
    action.IsPossible := by
  unfold GivesAction at gives
  cases purpose : p.kind.purpose <;> simp only [purpose] at gives
  case started => exact gives ▸ .started
  case finished => exact gives ▸ .finished
  case abandoned => exact gives ▸ .abandoned
  case progress =>
    obtain ⟨start, stop, begins, ⟨_, _, ends⟩, rfl⟩ := gives
    obtain ⟨_, rfl⟩ := Position.page?_eq_some ends
    cases start with
    | none => exact .page _
    | some start =>
      obtain ⟨_, _, begins⟩ := begins
      obtain ⟨_, rfl⟩ := Position.page?_eq_some begins
      exact .pages _ _
  case relativeProgress =>
    obtain ⟨stop, ⟨_, _, ends⟩, rfl⟩ := gives
    obtain ⟨_, rfl, inside⟩ := Position.percent?_eq_some ends
    exact .share inside

theorem records_of_match? (found : p.match? line = some m) :
    ∃ pieces, Segment.Splits p.segments line pieces ∧ p.Records pieces m := by
  rw [match?, Segment.preferred?_eq] at found
  obtain ⟨pieces, split, recorded⟩ := Option.bind_eq_some_iff.1 found
  have splits := Segment.splits_of_split? split
  exact ⟨pieces, splits, (matchOf?_eq_some_iff splits.1.length_eq).1 recorded⟩

theorem isPossible_of_match? (found : p.match? line = some m) : m.action.IsPossible := by
  obtain ⟨_, _, gives, -⟩ := records_of_match? found
  exact isPossible_of_givesAction gives

theorem suits_of_match? (found : p.match? line = some m) : m.Suits p.kind.log := by
  obtain ⟨_, _, -, tells⟩ := records_of_match? found
  cases log : p.kind.log with
  | day =>
    rw [log] at tells
    obtain ⟨undated, _, _, reference⟩ := tells
    exact ⟨undated, _, reference⟩
  | book =>
    rw [log] at tells
    obtain ⟨bookless, _, date, _, _, dated⟩ := tells
    exact ⟨bookless, date, dated⟩

end Pattern

/-- A set of patterns that are all for one log. -/
def PatternSet.IsFor (set : PatternSet) (log : Log) : Prop := ∀ p ∈ set.patterns, p.kind.log = log

theorem PatternSet.IsFor.of_match? {set : PatternSet} {log : Log} (all : set.IsFor log) {line : Text} {m : Match}
    (found : set.match? line = some m) : m.Suits log ∧ m.action.IsPossible := by
  obtain ⟨p, member, matched⟩ := List.exists_of_findSome?_eq_some found
  exact ⟨all p member ▸ Pattern.suits_of_match? matched, Pattern.isPossible_of_match? matched⟩

theorem Templates.isFor_patterns (templates : Templates) (log : Log) (layout : DateLayout) :
    (templates.patterns log layout).IsFor log := by
  intro p member
  obtain ⟨purpose, found⟩ := mem_patterns_iff.1 member
  rw [(Source.pattern?_eq_some found).1]
  rfl

/-! ## Lines that match -/

/-- A line of a book's note that matches is an event. -/
theorem BookLog.event?_of_match? {log : BookLog} (all : log.patterns.IsFor .book) {line : Text} {m : Match}
    (found : log.patterns.match? line = some m) :
    ∃ date, m.date = some date ∧ ∀ path, log.event? path line = some ⟨m.action, date, path⟩ := by
  obtain ⟨⟨_, date, dated⟩, _⟩ := all.of_match? found
  refine ⟨date, dated, fun path => ?_⟩
  simp only [event?, found, dated, bind, Option.bind, pure]

/-- A line of a day's note that matches is an event, provided that its reference finds a book. -/
theorem DayLog.event?_of_match? {log : DayLog} (all : log.patterns.IsFor .day) {line : Text} {m : Match}
    (found : log.patterns.match? line = some m) (index : NoteIndex) :
    ∃ reference, m.book = some reference ∧ ∀ path date, log.event? index path date line =
      (index.resolve? (linkTarget reference) path).map fun book => ⟨m.action, date, book⟩ := by
  obtain ⟨⟨_, reference, named⟩, _⟩ := all.of_match? found
  refine ⟨reference, named, fun path date => ?_⟩
  simp only [event?, found, named, bind, Option.bind, pure]
  cases index.resolve? (linkTarget reference) path <;> rfl

/-! ## Resolved references -/

namespace NoteIndex

theorem mem_of_nearest? {source path : NotePath} {notes : List NotePath} (found : nearest? source notes = some path) :
    path ∈ notes := by
  induction notes generalizing path with
  | nil => cases found
  | cons note notes ih =>
    rw [nearest?] at found
    cases later : nearest? source notes with
    | none =>
      rw [later] at found
      obtain rfl := Option.some.inj found
      exact List.mem_cons_self
    | some other =>
      simp only [later] at found
      split at found
      · obtain rfl := Option.some.inj found
        exact List.mem_cons_of_mem _ (ih later)
      · obtain rfl := Option.some.inj found
        exact List.mem_cons_self

theorem mem_of_resolve? {index : NoteIndex} {target : Text} {source path : NotePath}
    (found : index.resolve? target source = some path) : path ∈ index.notes := by
  simp only [resolve?] at found
  split at found
  · contradiction
  · split at found
    · exact List.mem_of_find?_eq_some found
    · exact (List.mem_filter.1 (mem_of_nearest? found)).1

end NoteIndex

/-! ## Origins -/

/-- The patterns of each log are for it. -/
structure Logs.AreApart (logs : Logs) : Prop where
  day : logs.day.patterns.IsFor .day
  book : logs.book.patterns.IsFor .book

theorem Logs.areApart_of_ofSettings {s : Settings} {logs : Logs} (built : ofSettings s = .ok logs) : logs.AreApart := by
  simp only [ofSettings, bind_eq_ok_iff, pure, Except.pure, Except.ok.injEq] at built
  obtain ⟨_, _, _, _, rfl⟩ := built
  exact ⟨Templates.isFor_patterns _ _ _, Templates.isFor_patterns _ _ _⟩

/-- Where an event comes from: a line of its day's note that refers to its book, or a line of its book's note that gives its
    day. -/
inductive Logs.Origin (logs : Logs) (index : NoteIndex) (notes : List Note) (e : Event) : Prop
  | day {note : Note} {line reference : Text} :
    note ∈ notes → logs.day.date? note.path = some e.date → line ∈ note.linesUnder logs.day.heading →
    logs.day.patterns.match? line = some ⟨e.action, some reference, none⟩ →
    index.resolve? (linkTarget reference) note.path = some e.book → Origin logs index notes e
  | book {note : Note} {line : Text} :
    note ∈ notes → note.path = e.book → line ∈ note.linesUnder logs.book.heading →
    logs.book.patterns.match? line = some ⟨e.action, none, some e.date⟩ → Origin logs index notes e

namespace Logs

variable {logs : Logs} {index : NoteIndex} {notes : List Note} {note : Note} {e : Event}

theorem origin_of_mem (apart : logs.AreApart) (listed : note ∈ notes) (member : e ∈ logs.eventsIn index note) :
    logs.Origin index notes e := by
  rcases List.mem_append.1 member with ofDay | ofBook
  · unfold DayLog.eventsIn at ofDay
    split at ofDay
    · cases ofDay
    · next date dated =>
      obtain ⟨line, under, recorded⟩ := List.mem_filterMap.1 ofDay
      cases found : logs.day.patterns.match? line with
      | none => simp [DayLog.event?, found] at recorded
      | some m =>
        obtain ⟨reference, named, outcome⟩ := DayLog.event?_of_match? apart.day found index
        obtain ⟨book, resolved, rfl⟩ := Option.map_eq_some_iff.1 ((outcome note.path date).symm.trans recorded)
        obtain ⟨⟨undated, -⟩, -⟩ := apart.day.of_match? found
        refine .day listed dated under ?_ resolved
        rw [found, ← named, ← undated]
  · obtain ⟨line, under, recorded⟩ := List.mem_filterMap.1 ofBook
    cases found : logs.book.patterns.match? line with
    | none => simp [BookLog.event?, found] at recorded
    | some m =>
      obtain ⟨date, dated, outcome⟩ := BookLog.event?_of_match? apart.book found
      obtain rfl := Option.some.inj ((outcome note.path).symm.trans recorded)
      obtain ⟨⟨bookless, -⟩, -⟩ := apart.book.of_match? found
      refine .book listed rfl under ?_
      rw [found, ← bookless, ← dated]

theorem Origin.isPossible (origin : logs.Origin index notes e) (apart : logs.AreApart) : e.action.IsPossible := by
  cases origin with
  | day _ _ _ found _ => exact (apart.day.of_match? found).2
  | book _ _ _ found => exact (apart.book.of_match? found).2

theorem Origin.book_mem (origin : logs.Origin ⟨notes.map Note.path⟩ notes e) : e.book ∈ notes.map Note.path := by
  cases origin with
  | day _ _ _ _ resolved => exact NoteIndex.mem_of_resolve? resolved
  | book listed own _ _ => exact own ▸ List.mem_map_of_mem listed

end Logs

/-! ## Reports -/

/-- What holds of a report on notes, whatever it was asked for. -/
structure Report.IsSound (r : Report) (logs : Logs) (notes : List Note) : Prop where
  origin : ∀ e ∈ r.events, logs.Origin ⟨notes.map Note.path⟩ notes e
  possible : ∀ e ∈ r.events, e.action.IsPossible
  comparable : ∀ e ∈ r.events, ∀ start stop, e.action = .progress (some start) stop → (start.compare? stop).isSome
  listed : ∀ e ∈ r.events, e.book ∈ notes.map Note.path
  books_ordered : r.books.Pairwise (· < ·)
  mem_books_iff : ∀ path, path ∈ r.books ↔ ∃ e ∈ r.events, e.book = path

theorem Report.mem_books_ofNotes_iff {logs : Logs} {index : NoteIndex} {q : Query} {book : Option NotePath} {notes : List Note}
    {path : NotePath} : path ∈ (ofNotes logs index q book notes).books ↔
      ∃ e ∈ (ofNotes logs index q book notes).events, e.book = path := by
  simp only [ofNotes, (History.isIndexed_ofEvents _).mem_iff, List.mem_mergeSort]

theorem Report.isSound_ofNotes {logs : Logs} (apart : logs.AreApart) (q : Query) (book : Option NotePath) (notes : List Note) :
    (ofNotes logs ⟨notes.map Note.path⟩ q book notes).IsSound logs notes := by
  have origin : ∀ e ∈ (ofNotes logs ⟨notes.map Note.path⟩ q book notes).events,
      logs.Origin ⟨notes.map Note.path⟩ notes e := by
    intro e member
    have found := (chronological_ofNotes logs ⟨notes.map Note.path⟩ q book notes).perm.mem_iff.1 member
    obtain ⟨note, listed, recorded⟩ := List.mem_flatMap.1 (List.mem_filter.1 found).1
    exact Logs.origin_of_mem apart listed recorded
  exact {
    origin
    possible e member := (origin e member).isPossible apart
    comparable e member start stop same := Action.IsPossible.isSome_compare? (same ▸ (origin e member).isPossible apart)
    listed e member := (origin e member).book_mem
    books_ordered := (History.isIndexed_ofEvents _).ordered
    mem_books_iff _ := mem_books_ofNotes_iff }

namespace Vault

/-- The events of a report are about notes of the vault, which are its books, say something possible, and come from a line of
    their day's note or of their book's note. A pattern of either log finds what its log tells in every line it matches, so that
    each such line in a note is an event, in a day's note provided that it refers to a note. -/
theorem report_sound (t : FileTree) (v : Vault) (q : Query) (r : Report) (succeeds : report t v q = .ok r) :
    ∃ (settings : Settings) (logs : Logs) (read : List Note), loadSettings t v = .ok settings ∧
      Logs.ofSettings settings = .ok logs ∧ noteFiles t v = read.map (fun note => (note.path, .text note.content)) ∧
      notes t v = read.map Note.path ∧ r.IsSound logs read ∧
      (∀ (p : Pattern) (line : Text) (m : Match), p.match? line = some m → m.Suits p.kind.log) ∧
      (∀ line m, logs.day.patterns.match? line = some m → ∃ reference, m.book = some reference ∧ ∀ path date,
        logs.day.event? ⟨notes t v⟩ path date line =
          (NoteIndex.resolve? ⟨notes t v⟩ (linkTarget reference) path).map fun book => ⟨m.action, date, book⟩) ∧
      ∀ line m, logs.book.patterns.match? line = some m → ∃ date, m.date = some date ∧ ∀ path,
        logs.book.event? path line = some ⟨m.action, date, path⟩ := by
  obtain ⟨settings, loaded, logs, built, book, resolved, read, opened, rfl⟩ := report_eq_ok_iff.1 succeeds
  have files := mapM_noteOf_eq_ok_iff.1 opened
  have paths : notes t v = read.map Note.path := by
    rw [notes, files, List.map_map]
    rfl
  have apart := Logs.areApart_of_ofSettings built
  refine ⟨settings, logs, read, loaded, built, files, paths, ?_, fun _ _ _ => Pattern.suits_of_match?, ?_, ?_⟩
  · rw [paths]
    exact Report.isSound_ofNotes apart ..
  · intro line m found
    exact DayLog.event?_of_match? apart.day found ⟨notes t v⟩
  · intro line m found
    exact BookLog.event?_of_match? apart.book found

/-- Both events of the diary, one from each log, are about its one note. -/
theorem report_sound_diary :
    ∃ r, report diary (.standing []) .everything = .ok r ∧ r.events.length = 2 ∧
      (∀ e ∈ r.events, e.book = diaryNote.path ∧ e.action.IsPossible) ∧ ∀ path ∈ r.books, path = diaryNote.path := by
  have everything := report_diary .everything none rfl
  obtain ⟨_, _, _, _, _, _, paths, sound, -⟩ := report_sound _ _ _ _ everything
  rw [notes, noteFiles_diary, List.map_singleton] at paths
  have about : ∀ e ∈ (Report.ofNotes newLogs ⟨[diaryNote.path]⟩ .everything none [diaryNote]).events,
      e.book = diaryNote.path := by
    intro e member
    have listed := sound.listed e member
    rw [← paths] at listed
    exact List.mem_singleton.1 listed
  refine ⟨_, everything, ?_, fun e member => ⟨about e member, sound.possible e member⟩, ?_⟩
  · rw [(Report.events_everything ..).perm.length_eq]
    decide +kernel
  · intro path member
    obtain ⟨e, inside, rfl⟩ := (sound.mem_books_iff path).1 member
    exact about e inside

end Vault
end ReadingLog
