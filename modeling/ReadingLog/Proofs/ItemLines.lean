import ReadingLog.Proofs.NoteEvents
import ReadingLog.Proofs.Numerals
import ReadingLog.Proofs.SectionLines

/-!
# The lines that list items give

An item gives what comes after its marker: after a space, the words to come without a box, and otherwise the marker stays with
them.
-/

namespace ReadingLog

open Markdown

/-! ## The words of an item -/

theorem isBlank_of_isGap {c : Char} (gap : Cursor.IsGap c) : Text.isBlank c := by
  rcases gap with rfl | rfl <;> rfl

theorem unlike_digit {c d : Char} (digit : d.isDigit) (other : ¬ c.isDigit) : d ≠ c := by
  rintro rfl
  exact other digit

/-- The first character of a marker is neither white space nor that of a box. -/
theorem first_of_isMarker {marker : Text} (is_marker : IsMarker marker) :
    ∃ c rest, marker = c :: rest ∧ ¬ Text.isBlank c ∧ c ≠ '[' := by
  rcases is_marker with bullet | ⟨digits, mark, some_digit, -, numerals, -, rfl⟩
  · simp only [List.mem_cons, List.not_mem_nil, or_false] at bullet
    rcases bullet with rfl | rfl | rfl <;> exact ⟨_, [], rfl, by decide, by decide⟩
  · obtain ⟨d, digits, rfl⟩ := List.exists_cons_of_ne_nil some_digit
    have digit : d.isDigit := numerals d List.mem_cons_self
    exact ⟨d, digits ++ [mark], rfl, Text.not_isBlank_of_isScriptDigit (Text.isScriptDigit_of_isDigit digit),
      unlike_digit digit (by decide)⟩

theorem afterMarker_bullet {bullet : Char} (is_bullet : bullet = '-' ∨ bullet = '+' ∨ bullet = '*') (rest : Text) :
    afterMarker (bullet :: rest) = if rest.head? = some ' ' then rest.tail else bullet :: rest := by
  cases rest with
  | nil => rcases is_bullet with rfl | rfl | rfl <;> rfl
  | cons c rest =>
    by_cases space : c = ' '
    · subst space
      rcases is_bullet with rfl | rfl | rfl <;> rfl
    · have apart : (c :: rest).head? ≠ some ' ' := fun first => space (Option.some.inj first)
      rw [if_neg apart]
      unfold afterMarker
      split
      · next same => exact absurd (List.cons.inj (List.cons.inj same).2).1 space
      · next same => exact absurd (List.cons.inj (List.cons.inj same).2).1 space
      · next same => exact absurd (List.cons.inj (List.cons.inj same).2).1 space
      · rcases is_bullet with rfl | rfl | rfl <;> rfl

theorem afterMarker_numeral {digits : Text} {mark : Char} (some_digit : digits ≠ []) (numerals : ∀ d ∈ digits, d.isDigit)
    (is_mark : mark = '.' ∨ mark = ')') (rest : Text) :
    afterMarker (digits ++ mark :: rest) = if rest.head? = some ' ' then rest.tail else digits ++ mark :: rest := by
  obtain ⟨d, digits, rfl⟩ := List.exists_cons_of_ne_nil some_digit
  have digit : d.isDigit := numerals d List.mem_cons_self
  have other : ¬ mark.isDigit := by rcases is_mark with rfl | rfl <;> decide
  have run : (d :: digits ++ mark :: rest).takeWhile Char.isDigit = d :: digits :=
    Text.takeWhile_append_of_ends numerals fun c first => Option.some.inj first ▸ other
  unfold afterMarker
  split
  · next same => exact absurd (List.cons.inj same).1 (unlike_digit digit (by decide))
  · next same => exact absurd (List.cons.inj same).1 (unlike_digit digit (by decide))
  · next same => exact absurd (List.cons.inj same).1 (unlike_digit digit (by decide))
  · dsimp only
    rw [run, List.drop_left]
    cases rest with
    | nil => rcases is_mark with rfl | rfl <;> rfl
    | cons c rest =>
      by_cases space : c = ' '
      · subst space
        rcases is_mark with rfl | rfl <;> rfl
      · have apart : (c :: rest).head? ≠ some ' ' := fun first => space (Option.some.inj first)
        rw [if_neg apart]
        split
        · next same => exact absurd (List.cons.inj (List.cons.inj same).2).1 space
        · next same => exact absurd (List.cons.inj (List.cons.inj same).2).1 space
        · rfl

/-- A marker is taken off where a space comes after it. -/
theorem afterMarker_eq {marker : Text} (is_marker : IsMarker marker) (rest : Text) :
    afterMarker (marker ++ rest) = if rest.head? = some ' ' then rest.tail else marker ++ rest := by
  rcases is_marker with bullet | ⟨digits, mark, some_digit, -, numerals, is_mark, rfl⟩
  · simp only [List.mem_cons, List.not_mem_nil, or_false] at bullet
    rcases bullet with rfl | rfl | rfl <;> exact afterMarker_bullet (by simp) rest
  · rw [List.append_assoc, List.singleton_append]
    exact afterMarker_numeral some_digit numerals is_mark rest

theorem afterTaskBox_of_other {c : Char} (other : c ≠ '[') (rest : Text) : afterTaskBox (c :: rest) = c :: rest := by
  unfold afterTaskBox
  split
  · next same => exact absurd (List.cons.inj same).1 other
  · next same => exact absurd (List.cons.inj same).1 other
  · next same => exact absurd (List.cons.inj same).1 other
  · rfl

/-- The boxes of tasks, each with the space after it. -/
def taskBoxes : List Text := ["[ ] ".toList, "[x] ".toList, "[X] ".toList]

theorem afterTaskBox_eq (line : Text) : afterTaskBox line = (taskBoxes.findSome? (·.isPrefixOf? line)).getD line := by
  unfold afterTaskBox
  split
  · rfl
  · rfl
  · rfl
  · next open' small large =>
    have none : taskBoxes.findSome? (·.isPrefixOf? line) = none := by
      rw [List.findSome?_eq_none_iff]
      intro box member
      rw [Option.eq_none_iff_forall_ne_some]
      intro rest found
      have spelled : box ++ rest = line := List.isPrefixOf?_eq_some_iff_append_eq.1 found
      simp only [taskBoxes, List.mem_cons, List.not_mem_nil, or_false] at member
      rcases member with rfl | rfl | rfl
      · exact open' rest spelled.symm
      · exact small rest spelled.symm
      · exact large rest spelled.symm
    rw [none, Option.getD_none]

namespace Markdown.ItemLine

/-- The words after the marker, without a box. -/
def words (l : ItemLine) : Text := ((taskBoxes.findSome? (·.isPrefixOf? l.rest.trimStart)).getD l.rest.trimStart).trim

/-- The lines that the item gives. The marker comes off with a space after it, and otherwise stays. -/
def given (l : ItemLine) : List Text :=
  if l.rest.head? = some ' ' then (if l.words = [] then [] else [l.words]) else [(l.marker ++ l.rest).trim]

theorem trimStart_text (l : ItemLine) : l.text.trimStart = l.marker ++ l.rest := by
  obtain ⟨c, rest, spelled, inked, -⟩ := first_of_isMarker l.isMarker
  refine Text.dropWhile_append_of_ends (fun c member => isBlank_of_isGap (l.indented c member)) fun first head => ?_
  rw [spelled] at head
  obtain rfl := Option.some.inj head
  exact inked

theorem itemText_text (l : ItemLine) :
    itemText l.text = if l.rest.head? = some ' ' then l.words else (l.marker ++ l.rest).trim := by
  rw [itemText, trimStart_text, afterMarker_eq l.isMarker]
  split
  · next space =>
    obtain ⟨rest, split⟩ := List.head?_eq_some_iff.1 space
    have same : Text.trimStart l.rest.tail = l.rest.trimStart := by
      rw [split]
      rfl
    rw [same, afterTaskBox_eq, words]
  · obtain ⟨c, rest, spelled, inked, other⟩ := first_of_isMarker l.isMarker
    have start : (l.marker ++ l.rest).trimStart = l.marker ++ l.rest := by
      rw [spelled, List.cons_append]
      exact List.dropWhile_cons_of_neg inked
    rw [start]
    conv => lhs; rw [spelled, List.cons_append, afterTaskBox_of_other other, ← List.cons_append, ← spelled]

theorem trim_ne_nil (l : ItemLine) : (l.marker ++ l.rest).trim ≠ [] := by
  obtain ⟨c, rest, spelled, inked, -⟩ := first_of_isMarker l.isMarker
  rw [ne_eq, Text.trim_eq_nil_iff]
  intro blank
  exact inked (blank c (by rw [spelled]; exact List.mem_cons_self))

theorem itemLines_eq {source : Text} {l : ItemLine} (first : (Text.lines source).head? = some l.text) :
    itemLines source = l.given := by
  rw [itemLines, List.headD_eq_head?_getD, first, Option.getD_some, itemText_text, given]
  split
  · simp only [List.isEmpty_iff]
  · rw [if_neg (by simpa using l.trim_ne_nil)]

/-- An item of a wanted section begins at an event of a note, and this is its first line. -/
structure BeginsAt (content wanted : Text) (i : Nat) (span : Span) (l : ItemLine) : Prop where
  event : (eventsOf content)[i]? = some (.start .item span)
  wanted : InSection wanted ((eventsOf content).take i)
  first : (Text.lines (span.slice content)).head? = some l.text

theorem BeginsAt.owed_eq {content wanted : Text} {i : Nat} {span : Span} {l : ItemLine} (begins : l.BeginsAt content wanted i span) :
    owed content wanted ((eventsOf content).take i) (.start .item span) = l.given := by
  rw [owed, if_pos begins.wanted, itemLines_eq begins.first]

end Markdown.ItemLine

/-- Every item in a wanted section begins with a marker, and the line that it gives is told by what comes after: where that is a
    space, the words without a box, so that neither the marker nor the white space after it makes a difference; otherwise, as
    after a tab or where the line ends, the marker stays. -/
theorem sectionLines_items (content wanted : Text) :
    sectionLines content wanted =
      (eventsOf content).zipIdx.flatMap (fun (event, i) => owed content wanted ((eventsOf content).take i) event) ∧
    (∀ i span, (eventsOf content)[i]? = some (.start .item span) → InSection wanted ((eventsOf content).take i) →
      ∃ l : ItemLine, l.BeginsAt content wanted i span) ∧
    (∀ i span (l : ItemLine), l.BeginsAt content wanted i span →
      owed content wanted ((eventsOf content).take i) (.start .item span) = l.given) ∧
    ∀ content' wanted' i i' span span' (l l' : ItemLine), l.BeginsAt content wanted i span → l'.BeginsAt content' wanted' i' span' →
      l.rest.head? = some ' ' → l'.rest.head? = some ' ' → l.rest.trimStart = l'.rest.trimStart →
      owed content wanted ((eventsOf content).take i) (.start .item span) =
        owed content' wanted' ((eventsOf content').take i') (.start .item span') := by
  obtain ⟨nested, items⟩ := eventsOf_spec content
  refine ⟨(SectionLines.toList_eq nested).1, ?_, fun i span l begins => begins.owed_eq, ?_⟩
  · intro i span event inside
    obtain ⟨l, first⟩ := items span (List.mem_of_getElem? event)
    exact ⟨l, event, inside, first⟩
  · intro content' wanted' i i' span span' l l' begins begins' space space' same
    rw [begins.owed_eq, begins'.owed_eq, ItemLine.given, ItemLine.given, if_pos space, if_pos space', ItemLine.words, same]
    rfl

/-- A note with an item whose marker has a tab after it. -/
def tabbedNote : Text := "## Reading\n\n-\tStarted [[Dune]]\n".toList

/-- The first line of that item. -/
def tabbedItem : ItemLine where
  indent := []
  marker := ['-']
  rest := "\tStarted [[Dune]]".toList
  indented := nofun
  isMarker := .inl List.mem_cons_self
  apart := fun _ first => .inl (.inr (Option.some.inj first).symm)

/-- The same note with a space in the place of the tab. -/
def spacedNote : Text := "## Reading\n\n- Started [[Dune]]\n".toList

theorem tabbedItem_keeps_marker :
    tabbedItem.BeginsAt tabbedNote "Reading".toList 3 ⟨12, 31⟩ ∧ tabbedItem.words = "Started [[Dune]]".toList ∧
    sectionLines tabbedNote "Reading".toList = ["-\tStarted [[Dune]]".toList] ∧
    sectionLines spacedNote "Reading".toList = ["Started [[Dune]]".toList] := by
  have nested : WellNested ((eventsOf tabbedNote).take 3) := by decide +kernel
  have inside : InSection "Reading".toList ((eventsOf tabbedNote).take 3) :=
    (SectionReader.level_isSome_iff _ nested).1 (by decide +kernel)
  have begins : tabbedItem.BeginsAt tabbedNote "Reading".toList 3 ⟨12, 31⟩ := ⟨by decide +kernel, inside, by decide +kernel⟩
  exact ⟨begins, by decide +kernel, by decide +kernel, by decide +kernel⟩

end ReadingLog
