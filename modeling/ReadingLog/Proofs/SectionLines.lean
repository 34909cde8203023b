import ReadingLog.Proofs.SectionHistory
import ReadingLog.Proofs.Trimming

/-!
# The lines of a section

Every event owes lines by what lies before it: an item its first line, a paragraph outside of lists all of its lines. The
lines that are given out one by one are the ones that are owed, in the order of the events, and each is a trimmed piece of
the note from within its item or paragraph.
-/

namespace ReadingLog

open Markdown

/-! ## Lines as pieces of a note -/

theorem afterMarker_suffix (line : Text) : afterMarker line <:+ line := by
  unfold afterMarker
  split
  · exact ⟨['-', ' '], rfl⟩
  · exact ⟨['*', ' '], rfl⟩
  · exact ⟨['+', ' '], rfl⟩
  · dsimp only
    have numeral := List.drop_suffix (line.takeWhile Char.isDigit).length line
    split
    · next rest _ split =>
      rw [split] at numeral
      exact (List.suffix_append ['.', ' '] rest).trans numeral
    · next rest _ split =>
      rw [split] at numeral
      exact (List.suffix_append [')', ' '] rest).trans numeral
    · exact List.suffix_rfl

theorem afterTaskBox_suffix (line : Text) : afterTaskBox line <:+ line := by
  unfold afterTaskBox
  split
  · exact List.suffix_append ['[', ' ', ']', ' '] _
  · exact List.suffix_append ['[', 'x', ']', ' '] _
  · exact List.suffix_append ['[', 'X', ']', ' '] _
  · exact List.suffix_rfl

theorem itemText_isInfix (line : Text) : itemText line <:+: line := by
  have marked := (afterMarker_suffix line.trimStart).trans (Text.trimStart_suffix line)
  have boxed := (afterTaskBox_suffix (afterMarker line.trimStart).trimStart).trans (Text.trimStart_suffix _)
  exact (Text.trim_isInfix _).trans (boxed.trans marked).isInfix

/-- A line with words, trimmed, that stands in one line of a source. -/
structure TrimmedPiece (source line : Text) : Prop where
  nonempty : line ≠ []
  trimmed : line.trim = line
  unbroken : '\n' ∉ line
  within : line <:+: source

theorem trimmedPiece_of_infix {source whole line : Text} (member : whole ∈ Text.lines source) (nonempty : line ≠ [])
    (trimmed : line.trim = line) (within : line <:+: whole) : TrimmedPiece source line where
  nonempty := nonempty
  trimmed := trimmed
  unbroken := fun broken => Text.unbroken_of_mem_lines member (within.subset broken)
  within := within.trans (Text.infix_of_mem_lines member)

theorem trimmedPiece_of_mem_itemLines {source line : Text} (member : line ∈ itemLines source) :
    TrimmedPiece source line := by
  unfold itemLines at member
  cases first : Text.lines source with
  | nil =>
    rw [first] at member
    cases member
  | cons whole later =>
    have here : whole ∈ Text.lines source := by simp [first]
    simp only [first, List.headD_cons] at member
    split at member
    · cases member
    · next nonempty =>
      obtain rfl := List.mem_singleton.1 member
      exact trimmedPiece_of_infix here (by simpa using nonempty) (Text.trim_trim _) (itemText_isInfix whole)

theorem trimmedPiece_of_mem_paragraphWords {source line : Text} (member : line ∈ paragraphWords source) :
    TrimmedPiece source line := by
  simp only [paragraphWords, List.mem_filter, List.mem_map] at member
  obtain ⟨⟨whole, here, rfl⟩, nonempty⟩ := member
  exact trimmedPiece_of_infix here (by simpa using nonempty) (Text.trim_trim _) (Text.trim_isInfix _)

/-- A line stands within a span of a note. -/
def StandsWithin (content : Text) (span : Span) (line : Text) : Prop :=
  ∃ front back, content = front ++ line ++ back ∧ span.start ≤ front.length ∧ front.length + line.length ≤ span.stop

theorem standsWithin_of_infix {content line : Text} {span : Span} (nonempty : line ≠ [])
    (within : line <:+: span.slice content) : StandsWithin content span line := by
  obtain ⟨front, back, split⟩ := within
  have long : 0 < line.length := List.length_pos_iff.2 nonempty
  have lengths := congrArg List.length split
  simp only [Span.slice, List.length_append, List.length_take, List.length_drop] at lengths
  refine ⟨content.take span.start ++ front, back ++ (content.drop span.start).drop (span.stop - span.start), ?_, ?_, ?_⟩
  · calc content = content.take span.start ++ content.drop span.start := (List.take_append_drop ..).symm
      _ = content.take span.start ++ (span.slice content ++ (content.drop span.start).drop (span.stop - span.start)) := by
          rw [Span.slice, List.take_append_drop (span.stop - span.start)]
      _ = _ := by rw [← split]; simp only [List.append_assoc]
  · simp only [List.length_append, List.length_take]
    omega
  · simp only [List.length_append, List.length_take]
    omega

/-! ## Lines owed -/

open Classical in
/-- The lines that an event owes, given the events before it. -/
noncomputable def owed (content wanted : Text) (before : List Markdown.Event) : Markdown.Event → List Text
  | .start .item span => if InSection wanted before then itemLines (span.slice content) else []
  | .start .paragraph span =>
    if InSection wanted before ∧ ¬ InItem before then paragraphWords (span.slice content) else []
  | _ => []

theorem trimmedPiece_of_mem_owed {content wanted line : Text} {before : List Markdown.Event} {event : Markdown.Event}
    (member : line ∈ owed content wanted before event) :
    ∃ span, (event = .start .item span ∨ event = .start .paragraph span) ∧ TrimmedPiece (span.slice content) line := by
  unfold owed at member
  split at member
  · next span =>
    split at member
    · exact ⟨span, .inl rfl, trimmedPiece_of_mem_itemLines member⟩
    · cases member
  · next span =>
    split at member
    · exact ⟨span, .inr rfl, trimmedPiece_of_mem_paragraphWords member⟩
    · cases member
  · cases member

namespace SectionReader

open Classical in
/-- What a reader gives at an event is what is owed there. -/
theorem gives_eq_owed (content : Text) {wanted : Text} {before : List Markdown.Event} (nested : WellNested before)
    (event : Markdown.Event) :
    (afterAll wanted before).gives content event = owed content wanted before event := by
  cases event with
  | start tag span =>
    cases tag with
    | item => exact if_congr (level_isSome_iff wanted nested) rfl rfl
    | paragraph => exact if_congr (and_congr (level_isSome_iff wanted nested) (depth_eq_zero_iff wanted nested)) rfl rfl
    | heading | quote | other => rfl
  | stop | text | code | other => rfl

theorem lines_eq_owed (content wanted : Text) (before events : List Markdown.Event)
    (nested : WellNested (before ++ events)) :
    lines content wanted (afterAll wanted before) events =
      (events.zipIdx before.length).flatMap fun (event, i) => owed content wanted ((before ++ events).take i) event := by
  induction events generalizing before with
  | nil => rfl
  | cons event events ih =>
    have later := ih (before ++ [event]) (by simpa using nested)
    have here : (before ++ event :: events).take before.length = before := by simp
    rw [afterAll_concat, List.append_assoc, List.length_append] at later
    rw [List.zipIdx_cons, List.flatMap_cons, lines, gives_eq_owed content nested.of_append]
    show _ = owed content wanted ((before ++ event :: events).take before.length) event ++ _
    rw [here]
    exact congrArg _ later

end SectionReader

namespace SectionLines

/-- The lines given are the lines owed, in the order of the events, and each is a trimmed piece of the note from within its
    item or paragraph. -/
theorem toList_eq {content wanted : Text} {events : List Markdown.Event} (nested : WellNested events) :
    toList { content, wanted, events } =
      events.zipIdx.flatMap (fun (event, i) => owed content wanted (events.take i) event) ∧
    ∀ line ∈ toList { content, wanted, events }, ∃ i event span, events[i]? = some event ∧
      line ∈ owed content wanted (events.take i) event ∧ (event = .start .item span ∨ event = .start .paragraph span) ∧
      line ≠ [] ∧ line.trim = line ∧ '\n' ∉ line ∧ StandsWithin content span line := by
  have given : toList { content, wanted, events } =
      events.zipIdx.flatMap (fun (event, i) => owed content wanted (events.take i) event) := by
    rw [toList_eq_rest]
    exact SectionReader.lines_eq_owed content wanted [] events nested
  refine ⟨given, fun line member => ?_⟩
  rw [given, List.mem_flatMap] at member
  obtain ⟨⟨event, i⟩, here, member⟩ := member
  obtain ⟨span, source, piece⟩ := trimmedPiece_of_mem_owed member
  exact ⟨i, event, span, List.mem_zipIdx_iff_getElem?.1 here, member, source, piece.nonempty, piece.trimmed, piece.unbroken,
    standsWithin_of_infix piece.nonempty piece.within⟩

/-- A note with the wanted heading three times: of the first level, of the second level below that one, and again after a
    heading that ends both. -/
def logNote : Text := "# Log\n- a\n## Log\n\n b \n# Else\n- c\n# Log\n1. [x] d\n".toList

/-- The events of that note. -/
def logEvents : List Markdown.Event :=
  [.start (.heading 1) ⟨0, 6⟩, .text "Log".toList, .stop (.heading 1),
    .start .other ⟨6, 10⟩, .start .item ⟨6, 10⟩, .text "a".toList, .stop .item, .stop .other,
    .start (.heading 2) ⟨10, 17⟩, .code "Log".toList, .stop (.heading 2),
    .start .paragraph ⟨18, 22⟩, .text "b".toList, .stop .paragraph,
    .start (.heading 1) ⟨22, 29⟩, .text "Else".toList, .stop (.heading 1),
    .start .other ⟨29, 33⟩, .start .item ⟨29, 33⟩, .text "c".toList, .stop .item, .stop .other,
    .start (.heading 1) ⟨33, 39⟩, .text "Log".toList, .stop (.heading 1),
    .start .other ⟨39, 48⟩, .start .item ⟨39, 48⟩, .text "[x] d".toList, .stop .item, .stop .other]

theorem toList_eq_log : WellNested logEvents ∧
    toList { content := logNote, wanted := "Log".toList, events := logEvents } = [['a'], ['b'], ['d']] ∧
    logEvents.zipIdx.flatMap (fun (event, i) => owed logNote "Log".toList (logEvents.take i) event) =
      [['a'], ['b'], ['d']] := by
  have nested : WellNested logEvents := by decide
  have given : toList { content := logNote, wanted := "Log".toList, events := logEvents } = [['a'], ['b'], ['d']] := by
    rw [toList_eq_rest]
    decide
  exact ⟨nested, given, (toList_eq nested).1.symm.trans given⟩

end SectionLines
end ReadingLog
