import Mathlib.Data.List.Basic
import ReadingLog.Markdown.Container

/-!
# Markers of list items

A cursor keeps to its line: what is ahead of it is what lies after the characters passed. So the item that a line opens stands
at a marker of its own, with nothing before it but spaces and tabs, and with a space, a tab or nothing after it.
-/

namespace ReadingLog.Markdown

/-! ## Cursors in a line -/

namespace Cursor

/-- A cursor is at its place in a line. -/
def IsIn (line : Text) (c : Cursor) : Prop := c.ahead = line.drop c.passed

variable {line : Text} {c : Cursor}

theorem isIn_start (line : Text) : IsIn line { ahead := line } := rfl

theorem IsIn.advance (inside : c.IsIn line) : c.advance.IsIn line := by
  unfold Cursor.advance
  split
  · exact inside
  · next first rest ahead =>
    rw [IsIn, ahead] at inside
    show rest = line.drop (c.passed + 1)
    rw [← List.tail_drop, ← inside]
    rfl

theorem IsIn.advanceBy (inside : c.IsIn line) (n : Nat) : (advanceBy n c).IsIn line := by
  induction n generalizing c with
  | zero => exact inside
  | succ n ih => exact ih inside.advance

theorem ahead_advanceBy (n : Nat) (c : Cursor) : (advanceBy n c).ahead = c.ahead.drop n := by
  induction n generalizing c with
  | zero => rfl
  | succ n ih =>
    rw [advanceBy, ih, advance]
    cases ahead : c.ahead with
    | nil => simp [ahead]
    | cons first rest => rfl

theorem owed_advanceBy (n : Nat) (c : Cursor) : (advanceBy n c).owed = c.owed := by
  induction n generalizing c with
  | zero => rfl
  | succ n ih =>
    rw [advanceBy, ih, advance]
    split <;> rfl

/-- A space or a tab. -/
def IsGap (x : Char) : Prop := x = ' ' ∨ x = '\t'

/-- Columns are taken of spaces and tabs. -/
theorem takeColumns_spec (n : Nat) (c : Cursor) : ∃ gaps, (∀ x ∈ gaps, IsGap x) ∧
    c.ahead = gaps ++ (takeColumns n c).2.ahead ∧ (takeColumns n c).2.passed = c.passed + gaps.length := by
  induction n generalizing c with
  | zero => exact ⟨[], by simp, rfl, rfl⟩
  | succ n ih =>
    rw [takeColumns]
    split
    · exact ih { c with owed := c.owed - 1 }
    · split
      · next rest ahead =>
        obtain ⟨gaps, blank, later, passed⟩ := ih c.advance
        refine ⟨' ' :: gaps, ?_, ?_, ?_⟩
        · exact List.forall_mem_cons.2 ⟨.inl rfl, blank⟩
        · simp only [advance, ahead] at later ⊢
          rw [List.cons_append, ← later]
        · simp only [advance, ahead] at passed ⊢
          rw [passed, List.length_cons]
          omega
      · next rest ahead =>
        obtain ⟨gaps, blank, later, passed⟩ := ih ⟨rest, c.passed + 1, 0, 3 - c.column % 4⟩
        refine ⟨'\t' :: gaps, ?_, ?_, ?_⟩
        · exact List.forall_mem_cons.2 ⟨.inr rfl, blank⟩
        · simp only at later ⊢
          rw [List.cons_append, ← later, ahead]
        · simp only at passed ⊢
          rw [passed, List.length_cons]
          omega
      · exact ⟨[], by simp, rfl, rfl⟩

theorem IsIn.takeColumns (inside : c.IsIn line) (n : Nat) : (takeColumns n c).2.IsIn line := by
  obtain ⟨gaps, -, ahead, passed⟩ := takeColumns_spec n c
  rw [IsIn, passed, ← List.drop_drop, ← inside, ahead, List.drop_left]

/-- When fewer columns were there than could be taken, the cursor is within no tab. -/
theorem owed_of_takeColumns_lt {n : Nat} (fewer : (takeColumns n c).1 < n) : (takeColumns n c).2.owed = 0 := by
  induction n generalizing c with
  | zero => cases fewer
  | succ n ih =>
    rw [takeColumns] at fewer ⊢
    split at fewer
    · next owes =>
      rw [if_pos owes]
      exact ih (Nat.lt_of_succ_lt_succ fewer)
    · next settled =>
      rw [if_neg settled]
      split at fewer
      · exact ih (Nat.lt_of_succ_lt_succ fewer)
      · exact ih (Nat.lt_of_succ_lt_succ fewer)
      · exact Nat.eq_zero_of_not_pos settled

/-- A column that is taken outside of tabs is that of a space or a tab. -/
theorem isGap_of_takeColumns_one (settled : c.owed = 0) (taken : (takeColumns 1 c).1 ≠ 0) : ∀ x ∈ c.ahead.head?, IsGap x := by
  intro x first
  rw [takeColumns, if_neg (by omega)] at taken
  split at taken
  · next rest ahead =>
    rw [ahead] at first
    exact .inl (Option.some.inj first).symm
  · next rest ahead =>
    rw [ahead] at first
    exact .inr (Option.some.inj first).symm
  · exact absurd rfl taken

theorem IsIn.quoteMark? {after : Cursor} (inside : c.IsIn line) (marked : c.quoteMark? = some after) : after.IsIn line := by
  unfold Cursor.quoteMark? at marked
  split at marked
  · obtain rfl := Option.some.inj marked
    exact inside.advance.takeColumns 1
  · cases marked

end Cursor

open Cursor

theorem Container.isIn_continue? {line : Text} {c after : Cursor} {container : Container} (inside : c.IsIn line)
    (goes : container.continue? c = some after) : after.IsIn line := by
  cases container with
  | quote => exact (inside.takeColumns 3).quoteMark? goes
  | item indent bare =>
    simp only [continue?, Option.ite_none_right_eq_some, Option.some.injEq] at goes
    obtain ⟨-, rfl⟩ := goes
    exact inside.takeColumns indent

theorem Container.isIn_continueAll {line : Text} {c : Cursor} (inside : c.IsIn line) (containers : List Container) :
    (continueAll c containers).2.IsIn line := by
  induction containers generalizing c with
  | nil => exact inside
  | cons container inner ih =>
    rw [continueAll]
    split
    · exact inside
    · next after goes => exact ih (isIn_continue? inside goes)

/-! ## Items at their markers -/

/-- The markers of list items: a bullet, or a number of up to nine digits with a point or a bracket. -/
def IsMarker (s : Text) : Prop :=
  s ∈ [['-'], ['+'], ['*']] ∨
  ∃ digits mark, digits ≠ [] ∧ digits.length ≤ 9 ∧ (∀ d ∈ digits, d.isDigit) ∧ (mark = '.' ∨ mark = ')') ∧ s = digits ++ [mark]

/-- A text that a list item begins with: its marker, with spaces and tabs before it, and what comes after the marker. -/
structure ItemLine where
  indent : Text
  marker : Text
  rest : Text
  indented : ∀ c ∈ indent, IsGap c
  isMarker : IsMarker marker
  apart : ∀ c ∈ rest.head?, IsGap c ∨ c = '\r'

/-- The whole text. -/
def ItemLine.text (l : ItemLine) : Text := l.indent ++ (l.marker ++ l.rest)

theorem IsMarker.ne_nil {s : Text} (marker : IsMarker s) : s ≠ [] := by
  rintro rfl
  rcases marker with bullet | ⟨digits, mark, -, -, -, -, numeral⟩
  · simp at bullet
  · simp at numeral

theorem isMarker_of_markerLength? {s : Text} {length : Nat} {number : Option Nat}
    (found : markerLength? s = some (length, number)) : IsMarker (s.take length) := by
  cases s with
  | nil => cases found
  | cons mark s =>
    simp only [markerLength?] at found
    split at found
    · next bullet =>
      obtain ⟨rfl, -⟩ := Prod.mk.inj (Option.some.inj found)
      left
      rcases bullet with rfl | rfl | rfl <;> simp
    · split at found
      · cases found
      · next numeral =>
        obtain ⟨rfl, -⟩ := Prod.mk.inj (Option.some.inj found)
        right
        have numerals : ∀ d ∈ (mark :: s).takeWhile Char.isDigit, d.isDigit := List.all_eq_true.1 (List.all_takeWhile)
        have split := List.prefix_iff_eq_append.1 (List.takeWhile_prefix Char.isDigit (l := mark :: s))
        generalize (mark :: s).takeWhile Char.isDigit = digits at *
        simp only [not_or, Bool.not_eq_true, Nat.not_lt, List.isEmpty_eq_false_iff, Bool.not_eq_false'] at numeral
        obtain ⟨some_digit, short, ends⟩ := numeral
        -- A numeral is the run of digits with the character that comes next.
        obtain ⟨last, next, is_end⟩ := Option.any_eq_true .. |>.1 ends
        obtain ⟨later, after⟩ := List.head?_eq_some_iff.1 next
        have cut : (mark :: s).take (digits.length + 1) = digits ++ [last] := by
          rw [← split, after]
          rw [List.take_append, List.take_of_length_le (Nat.le_succ _), Nat.add_sub_cancel_left]
          rfl
        exact ⟨digits, last, some_digit, short, numerals, by simpa using is_end, cut⟩

/-- After a marker comes a space, a tab or nothing. -/
theorem itemMarker?_spec {line : Text} {indent content : Nat} {c after : Cursor} (inside : c.IsIn line) (settled : c.owed = 0)
    (found : itemMarker? indent c = some (content, after)) :
    after.IsIn line ∧ ∃ marker rest, c.ahead = marker ++ rest ∧ IsMarker marker ∧ ∀ x ∈ rest.head?, IsGap x := by
  simp only [itemMarker?, Option.bind_eq_bind] at found
  split at found
  · cases found
  obtain ⟨⟨length, number⟩, marked, found⟩ := Option.bind_eq_some_iff.1 found
  dsimp only at found
  have there : (advanceBy length c).IsIn line := inside.advanceBy length
  split at found
  · cases found
  next follows =>
  constructor
  · split at found
    · obtain ⟨-, rfl⟩ := Prod.mk.inj (Option.some.inj found)
      exact there.takeColumns 1
    · split at found
      · obtain ⟨-, rfl⟩ := Prod.mk.inj (Option.some.inj found)
        exact (there.takeColumns 1).takeColumns 4
      · obtain ⟨-, rfl⟩ := Prod.mk.inj (Option.some.inj found)
        exact there.takeColumns 1
  · refine ⟨c.ahead.take length, c.ahead.drop length, (List.take_append_drop ..).symm, isMarker_of_markerLength? marked, ?_⟩
    rw [← ahead_advanceBy]
    intro x first
    have more : (advanceBy length c).atEnd = false := by
      obtain ⟨later, ahead⟩ := List.head?_eq_some_iff.1 first
      rw [atEnd, ahead]
      rfl
    refine isGap_of_takeColumns_one ((owed_advanceBy length c).trans settled) (fun none => follows ⟨none, ?_⟩) x first
    rw [more]
    rfl

/-- What a line opens is a quote, or an item that stands at its marker. -/
def Opening.StandsIn (line : Text) (o : Opening) : Prop :=
  o.container = .quote ∨ (∃ indent bare, o.container = .item indent bare) ∧ ∃ l : ItemLine, l.text = line.drop o.place

theorem opening?_spec {line : Text} {c : Cursor} {o : Opening} (inside : c.IsIn line) (opens : opening? c = some o) :
    o.cursor.IsIn line ∧ o.StandsIn line := by
  obtain ⟨gaps, blank, ahead, -⟩ := takeColumns_spec 4 c
  have there := inside.takeColumns 4
  simp only [opening?] at opens
  split at opens
  · cases opens
  next few =>
  split at opens
  · next content after found =>
    obtain rfl := Option.some.inj opens
    obtain ⟨inside', marker, rest, spelled, is_marker, apart⟩ := itemMarker?_spec there (owed_of_takeColumns_lt (by omega)) found
    refine ⟨inside', .inr ⟨⟨_, _, rfl⟩, ⟨gaps, marker, rest, blank, is_marker, fun x first => .inl (apart x first)⟩, ?_⟩⟩
    show gaps ++ (marker ++ rest) = line.drop c.passed
    rw [← inside, ← spelled, ahead]
  · obtain ⟨after, marked, rfl⟩ := Option.map_eq_some_iff.1 opens
    exact ⟨there.quoteMark? marked, .inl rfl⟩

theorem standsIn_of_mem_openings {line : Text} {fuel : Nat} {c : Cursor} {o : Opening} (inside : c.IsIn line)
    (member : o ∈ (openings fuel c).1) : o.StandsIn line := by
  induction fuel generalizing c with
  | zero => cases member
  | succ fuel ih =>
    rw [openings] at member
    split at member
    · cases member
    · next first opens =>
      obtain ⟨inside', stands⟩ := opening?_spec inside opens
      split at member
      · obtain rfl := List.mem_singleton.1 member
        exact stands
      · rcases List.mem_cons.1 member with rfl | later
        · exact stands
        · exact ih inside' later

end ReadingLog.Markdown
