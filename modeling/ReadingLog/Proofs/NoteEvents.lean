import ReadingLog.Proofs.Outlines
import ReadingLog.Proofs.SectionHistory

/-!
# The events of a note

The marks of a note are settled, so its events are well nested, and each item in them stands on text that begins with a marker.
-/

namespace ReadingLog

open Markdown

/-! ## The first line of an item -/

namespace Text

theorem head?_linesFrom {pending : Text} (begun : pending ≠ []) (s : Text) : ∃ line, (linesFrom pending s).head? = some line ∧
    (pending.reverse <+: line ∨ ∃ earlier, pending = '\r' :: earlier ∧ line = earlier.reverse) := by
  fun_induction linesFrom pending s with
  | case1 pending empty => exact absurd (List.isEmpty_iff.1 empty) begun
  | case2 pending more => exact ⟨_, rfl, .inl List.prefix_rfl⟩
  | case3 pending rest ih =>
    refine ⟨_, rfl, ?_⟩
    split
    · next earlier => exact .inr ⟨earlier, rfl, rfl⟩
    · exact .inl List.prefix_rfl
  | case4 pending c rest plain ih =>
    obtain ⟨line, first, longer | ⟨earlier, same, rfl⟩⟩ := ih (List.cons_ne_nil _ _)
    · exact ⟨line, first, .inl ((List.prefix_append pending.reverse [c]).trans (by simpa using longer))⟩
    · obtain ⟨-, rfl⟩ := List.cons.inj same
      exact ⟨_, first, .inl List.prefix_rfl⟩

theorem linesFrom_unbroken {text : Text} (unbroken : ∀ c ∈ text, c ≠ '\n') (pending s : Text) :
    linesFrom pending (text ++ s) = linesFrom (text.reverse ++ pending) s := by
  induction text generalizing pending with
  | nil => rfl
  | cons c text ih =>
    obtain ⟨plain, unbroken⟩ := List.forall_mem_cons.1 unbroken
    rw [List.cons_append, linesFrom.eq_4 _ _ _ plain, ih unbroken]
    simp

/-- A text ends its line where the text after it ends one, save that a carriage return alone is none. -/
theorem head?_lines {text after : Text} (some_text : text ≠ []) (unbroken : ∀ c ∈ text, c ≠ '\n' ∧ c ≠ '\r')
    (ends : EndsLine after) : ∃ more, (∀ c ∈ more.head?, c = '\r') ∧ (lines (text ++ after)).head? = some (text ++ more) := by
  rw [lines, linesFrom_unbroken fun c member => (unbroken c member).1, List.append_nil]
  cases after with
  | nil =>
    refine ⟨[], nofun, ?_⟩
    rw [linesFrom, if_neg (by simpa using some_text), List.reverse_reverse, List.append_nil]
    rfl
  | cons c after =>
    rcases ends c rfl with rfl | rfl
    · have solid : ∀ earlier, text.reverse = '\r' :: earlier → False := by
        intro earlier same
        have member : '\r' ∈ text := List.mem_reverse.1 (by rw [same]; exact List.mem_cons_self)
        exact (unbroken '\r' member).2 rfl
      refine ⟨[], nofun, ?_⟩
      rw [linesFrom.eq_3 _ _ solid]
      simp
    · -- The line goes on behind the carriage return, unless a line feed is next.
      rw [linesFrom.eq_4 _ _ _ (by decide)]
      obtain ⟨line, first, ⟨more, rfl⟩ | ⟨earlier, same, rfl⟩⟩ := head?_linesFrom (List.cons_ne_nil '\r' text.reverse) after
      · exact ⟨'\r' :: more, by simp, by simpa using first⟩
      · obtain ⟨-, rfl⟩ := List.cons.inj same
        exact ⟨[], nofun, by simpa using first⟩

end Text

namespace Markdown

/-- The text of an item in a note begins with a marker. -/
theorem itemLine_of_enters {note : Text} {span : Span} {stop : Nat} (enters : Enters note .item span.start stop)
    (covers : stop ≤ span.stop) : ∃ l : ItemLine, (Text.lines (span.slice note)).head? = some l.text := by
  obtain quote | ⟨-, l, after, here, unbroken, ends, le⟩ := enters
  · cases quote
  have some_text : l.text ≠ [] := by simp [ItemLine.text, l.isMarker.ne_nil]
  have cut : span.slice note = l.text ++ after.take (span.stop - span.start - l.text.length) := by
    rw [Span.slice, here, List.take_append, List.take_of_length_le (by omega)]
  have ends' : EndsLine (after.take (span.stop - span.start - l.text.length)) := by
    intro c first
    rw [List.head?_take] at first
    split at first
    · cases first
    · exact ends c first
  obtain ⟨more, returns, first⟩ := Text.head?_lines some_text unbroken ends'
  have apart : ∀ c ∈ (l.rest ++ more).head?, Cursor.IsGap c ∨ c = '\r' := by
    intro c head
    cases rest : l.rest with
    | nil => exact .inr (returns c (by simpa [rest] using head))
    | cons first later => exact l.apart c (by simpa [rest] using head)
  refine ⟨⟨l.indent, l.marker, l.rest ++ more, l.indented, l.isMarker, apart⟩, ?_⟩
  rw [cut, first]
  simp [ItemLine.text]

/-! ## Events -/

variable {note : Text} {opened : List Tag}

/-- A container is no heading. -/
def IsContainer (tag : Tag) : Prop := tag = .quote ∨ tag = .item

theorem foldlM_nest?_pieces (pieces : List Piece) : (pieces.map Piece.event).foldlM nest? opened = some opened := by
  induction pieces with
  | nil => rfl
  | cons piece pieces ih => cases piece <;> exact ih

theorem foldlM_nest?_heading (outside : ∀ tag ∈ opened, IsContainer tag) (level : Nat) (span : Span) (pieces : List Piece)
    (later : List Event) :
    (.start (.heading level) span :: pieces.map Piece.event ++ .stop (.heading level) :: later).foldlM nest? opened =
      later.foldlM nest? opened := by
  have start : nest? opened (.start (.heading level) span) = some (.heading level :: opened) := by
    refine if_neg ?_
    rw [Bool.not_eq_true, List.any_eq_false]
    intro tag member
    rcases outside tag member with rfl | rfl <;> simp
  have stop : nest? (.heading level :: opened) (.stop (.heading level)) = some opened := if_pos rfl
  simp only [List.cons_append, List.foldlM_cons, List.foldlM_append, start, stop, foldlM_nest?_pieces, Option.bind_eq_bind,
    Option.bind_some]

/-- Events with the places where containers stop that were open before them: each block that is open is left in turn, no earlier
    than at `place`, and each item begins with a marker. -/
structure Closes (note : Text) (opened : List Tag) (place : Nat) (read : List Event × List Nat) : Prop where
  nested : read.1.foldlM nest? opened = some []
  length : read.2.length = opened.length
  later : ∀ stop ∈ read.2, place ≤ stop
  items : ∀ span, .start .item span ∈ read.1 → ∃ stop ≤ span.stop, Enters note .item span.start stop

theorem closes_of_settle {place : Nat} {marks : List Mark} (isDefined : Text → Bool) (settle : Settle note opened place marks)
    (containers : ∀ tag ∈ opened, IsContainer tag) : Closes note opened place (Mark.events isDefined marks) := by
  induction settle with
  | done place =>
    refine ⟨rfl, rfl, fun stop member => ?_, fun span member => ?_⟩
    · cases member
    · cases member
  | @enter opened place here stop tag marks enters later rest ih =>
    have container : IsContainer tag := enters.imp id And.left
    have closes := ih (List.forall_mem_cons.2 ⟨container, containers⟩)
    rw [Mark.events]
    generalize Mark.events isDefined marks = read at closes
    obtain ⟨events, stops⟩ := read
    obtain ⟨nested, length, after, items⟩ := closes
    -- Of the places left over, the first is that of this container, and the others are those of the containers around it.
    obtain ⟨first, stops, rfl⟩ := List.exists_cons_of_length_eq_add_one length
    obtain ⟨covers, after⟩ := List.forall_mem_cons.1 after
    refine ⟨?_, Nat.succ.inj length, fun stop member => Nat.le_trans later (after stop member), ?_⟩
    · rcases container with rfl | rfl <;> exact nested
    · intro span member
      rcases List.mem_cons.1 member with same | member
      · obtain ⟨rfl, rfl⟩ := Event.start.inj same
        exact ⟨stop, covers, enters⟩
      · exact items span member
  | @leave opened place here tag marks later rest ih =>
    obtain ⟨-, containers⟩ := List.forall_mem_cons.1 containers
    have closes := ih containers
    rw [Mark.events]
    generalize Mark.events isDefined marks = read at closes
    obtain ⟨events, stops⟩ := read
    obtain ⟨nested, length, after, items⟩ := closes
    refine ⟨?_, congrArg Nat.succ length, ?_, ?_⟩
    · simpa [nest?] using nested
    · exact List.forall_mem_cons.2 ⟨later, fun stop member => Nat.le_trans later (after stop member)⟩
    · intro span member
      rcases List.mem_cons.1 member with same | member
      · cases same
      · exact items span member
  | @heading opened place level content span marks rest ih =>
    have closes := ih containers
    rw [Mark.events]
    generalize Mark.events isDefined marks = read at closes
    obtain ⟨events, stops⟩ := read
    obtain ⟨nested, length, after, items⟩ := closes
    refine ⟨(foldlM_nest?_heading containers ..).trans nested, length, after, fun span' member => ?_⟩
    simp only [List.cons_append, List.mem_cons, Event.start.injEq, reduceCtorEq, false_and, false_or, List.mem_append,
      List.mem_map] at member
    rcases member with ⟨piece, -, same⟩ | member
    · cases piece <;> cases same
    · exact items span' member
  | @paragraph opened place span marks rest ih =>
    have closes := ih containers
    rw [Mark.events]
    generalize Mark.events isDefined marks = read at closes
    obtain ⟨events, stops⟩ := read
    obtain ⟨nested, length, after, items⟩ := closes
    refine ⟨nested, length, after, fun span member => items span ?_⟩
    simpa using member

/-- The events of a note are well nested, and its items begin with a marker. -/
theorem eventsOf_spec (note : Text) : WellNested (eventsOf note) ∧
    ∀ span, .start .item span ∈ eventsOf note → ∃ l : ItemLine, (Text.lines (span.slice note)).head? = some l.text := by
  have closes := closes_of_settle (Outline.ofText note).labels.contains (Outline.settle_ofText note) nofun
  constructor
  · exact Option.isSome_of_eq_some closes.nested
  · intro span member
    obtain ⟨stop, covers, enters⟩ := closes.items span member
    exact itemLine_of_enters enters covers

end Markdown
end ReadingLog
