import ReadingLog.Proofs.Books
import ReadingLog.Proofs.Entries
import ReadingLog.Proofs.IsoDates
import ReadingLog.Proofs.Report

/-!
# Notes that are written by the templates

What is written into notes by the templates of a new vault is what their histories tell: `extract_written`.
-/

namespace ReadingLog

open Template

theorem filterMap_map_eq {α β γ : Type} {f : α → β} {g : β → Option γ} {h : α → γ} {l : List α}
    (reads : ∀ a ∈ l, g (f a) = some (h a)) : (l.map f).filterMap g = l.map h := by
  rw [List.filterMap_map, ← List.filterMap_eq_map]
  exact List.filterMap_congr reads

/-! ## Daily notes -/

/-- The path of a note of the vault that can be written into a link as it is. -/
structure NoteIndex.IsLinkable (index : NoteIndex) (path : NotePath) : Prop where
  listed : path ∈ index.notes
  plain : IsPlainPath path.toList
  no_alias : '|' ∉ path.toList
  no_heading : '#' ∉ path.toList
  unbroken : '\n' ∉ path.toList

theorem DayLog.event?_line {log : DayLog} {layout : DateLayout} {index : NoteIndex} {path : NotePath}
    (new : log.patterns = (Templates.initial .day).patterns .day layout) (linkable : index.IsLinkable path) (step : Step)
    (source : NotePath) (day : Date) :
    log.event? index source day (step.line (wikiLink path.toList) .day) = some ⟨step.action, day, path⟩ := by
  have nonempty : wikiLink path.toList ≠ [] := List.cons_ne_nil _ _
  have unbroken : '\n' ∉ wikiLink path.toList := by simp [wikiLink, linkable.unbroken]
  have target : linkTarget (wikiLink path.toList) = path.toList :=
    linkTarget_wikiLink linkable.plain.trimmed linkable.no_alias linkable.no_heading
  have resolved : index.resolve? path.toList source = some path :=
    NoteIndex.resolve?_plainPath linkable.plain linkable.listed source
  simp [event?, new, Step.match?_day nonempty unbroken, trim_wikiLink, target, resolved]

/-! ## Notes of books -/

theorem BookLog.event?_line {log : BookLog} {day : Date} (new : log.patterns = (Templates.initial .book).patterns .book .iso)
    (plain : day.HasPlainYear) (step : Step) (path : NotePath) :
    log.event? path (step.line day.isoText .book) = some ⟨step.action, day, path⟩ := by
  have nonempty : day.isoText ≠ [] := by simp [Date.isoText]
  have trimmed : day.isoText.trim = day.isoText := Date.trim_append_isoText plain []
  have dated : DateLayout.iso.parse? day.isoText.trim = some day := by rw [trimmed, DateLayout.parse?_isoText plain]
  simp [event?, new, Step.match?_book nonempty (Date.newline_notMem_isoText plain) dated]

/-! ## Histories -/

/-- Entries in daily notes and in the notes of books give the events they tell, in their order, and no others. -/
theorem extract_written :
    (∀ (log : DayLog) (layout : DateLayout) (index : NoteIndex) (note : Note) (day : Date) (entries : List (Step × NotePath)),
      log.patterns = (Templates.initial .day).patterns .day layout → log.date? note.path = some day →
      (∀ entry ∈ entries, index.IsLinkable entry.2) →
      note.linesUnder log.heading = entries.map (fun (step, path) => step.line (wikiLink path.toList) .day) →
      (log.extract index note).events = entries.map (fun (step, path) => ⟨step.action, day, path⟩) ∧
      (log.extract index note).IsIndexed) ∧
    (∀ (log : BookLog) (note : Note) (entries : List (Step × Date)),
      log.patterns = (Templates.initial .book).patterns .book .iso → (∀ entry ∈ entries, entry.2.HasPlainYear) →
      note.linesUnder log.heading = entries.map (fun (step, day) => step.line day.isoText .book) →
      (log.extract note).events = entries.map (fun (step, day) => ⟨step.action, day, note.path⟩) ∧
      (log.extract note).IsIndexed) := by
  constructor
  · intro log layout index note day entries new dated linkable written
    have read : (note.linesUnder log.heading).filterMap (log.event? index note.path day) =
        entries.map (fun (step, path) => ⟨step.action, day, path⟩) := by
      rw [written]
      exact filterMap_map_eq fun (step, path) member => DayLog.event?_line new (linkable _ member) step note.path day
    have told : log.extract index note = History.ofEvents (entries.map fun (step, path) => ⟨step.action, day, path⟩) := by
      simp only [DayLog.extract, dated, read]
    rw [told]
    exact ⟨History.events_ofEvents _, History.isIndexed_ofEvents _⟩
  · intro log note entries new plain written
    have read : (note.linesUnder log.heading).filterMap (log.event? note.path) =
        entries.map (fun (step, day) => ⟨step.action, day, note.path⟩) := by
      rw [written]
      exact filterMap_map_eq fun (step, day) member => BookLog.event?_line new (plain _ member) step note.path
    rw [BookLog.extract, read]
    exact ⟨History.events_ofEvents _, History.isIndexed_ofEvents _⟩

/-- The path of a book whose name reads like the end of an entry, with the link of another one in it. -/
def trickyPath : NotePath := "Read [[a]]: 7/Dune: 5%.md"

/-- Two entries of one day. -/
def trickyEntries : List (Step × NotePath) := [(.percent 40, trickyPath), (.page 4294967295, trickyPath)]

def trickyNote : Note where
  path := "2024-10-12.md"
  content := "# Reading\n- Read [[Read [[a]]: 7/Dune: 5%.md]]: 40%\n- Read [[Read [[a]]: 7/Dune: 5%.md]]: 4294967295\n"

/-- A note of a book with two entries on different days. -/
def bookNote : Note := ⟨"Dune.md", "# Reading Log\n- 2024-10-13: Finished\n- 2024-10-12: 0%\n"⟩

def bookEntries : List (Step × Date) := [(.finished, ⟨2024, 10, 13, by decide⟩), (.percent 0, ⟨2024, 10, 12, by decide⟩)]

theorem extract_written_tricky :
    (Vault.newLogs.day.extract ⟨[trickyPath]⟩ trickyNote).events.map Event.book = [trickyPath, trickyPath] ∧
    (Vault.newLogs.book.extract bookNote).events.map Event.action = [.finished, .progress none (.percent 0)] := by
  have linkable : NoteIndex.IsLinkable ⟨[trickyPath]⟩ trickyPath :=
    ⟨by decide, ⟨by decide +kernel, by decide +kernel, by decide +kernel, by decide +kernel⟩, by decide +kernel,
      by decide +kernel, by decide +kernel⟩
  obtain ⟨read, -⟩ := extract_written.1 Vault.newLogs.day .iso ⟨[trickyPath]⟩ trickyNote ⟨2024, 10, 12, by decide⟩
    trickyEntries rfl (by decide +kernel) (by simp [trickyEntries, linkable]) (by decide +kernel)
  obtain ⟨read', -⟩ := extract_written.2 Vault.newLogs.book bookNote bookEntries rfl (by decide +kernel) (by decide +kernel)
  rw [read, read']
  exact ⟨rfl, rfl⟩

end ReadingLog
