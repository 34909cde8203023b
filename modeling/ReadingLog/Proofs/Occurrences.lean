import Mathlib.Data.List.Infix
import ReadingLog.Text.Basic

/-!
# Where pieces stand in a text

A piece may stand in a text at several positions, and at one of them first.
-/

namespace ReadingLog.Text

variable {piece s : Text} {i : Nat}

/-- A piece stands in a text at a position. -/
def OccursAt (piece s : Text) (i : Nat) : Prop := piece <+: s.drop i

instance : Decidable (OccursAt piece s i) := inferInstanceAs (Decidable (_ <+: _))

theorem OccursAt.isInfix (occurs : OccursAt piece s i) : piece <:+: s :=
  List.IsInfix.trans (List.IsPrefix.isInfix occurs) (List.drop_suffix i s).isInfix

/-! ## A piece behind the text -/

/-- A piece that comes behind a text stands nowhere earlier in it. -/
def StandsFirstBehind (piece s : Text) : Prop := ∀ i < s.length, ¬ OccursAt piece (s ++ piece) i

instance : Decidable (StandsFirstBehind piece s) := inferInstanceAs (Decidable (∀ _ < _, _))

/-- A piece that stands nowhere earlier does not begin any end of the text. -/
theorem StandsFirstBehind.eq_nil_of_suffix {moved after : Text} (first : StandsFirstBehind piece s) (behind : moved <:+ s)
    (starts : piece <+: moved ++ (piece ++ after)) : moved = [] := by
  obtain ⟨front, rfl⟩ := behind
  by_contra left
  have some_left := List.length_pos_iff.2 left
  refine first front.length (by rw [List.length_append]; omega) ?_
  rw [← List.append_assoc] at starts
  rw [OccursAt, List.append_assoc, List.drop_left]
  exact List.prefix_of_prefix_length_le starts (List.prefix_append _ after) (by simp)

/-- What precedes a piece that comes behind a text, at the first place where the piece stands. The start of the text does not
    count. -/
def upTo (piece : Text) : Text → Text
  | [] => []
  | c :: s => c :: if piece.isPrefixOf (s ++ piece) then [] else upTo piece s

/-- What the first place of the piece cuts off goes on with the piece when that comes behind. -/
theorem exists_hidden (piece s : Text) : ∃ hidden, s = upTo piece s ++ hidden ∧ piece <+: hidden ++ piece := by
  induction s with
  | nil => exact ⟨[], rfl, List.prefix_rfl⟩
  | cons c s ih =>
    rw [upTo]
    split
    · next here => exact ⟨s, rfl, List.isPrefixOf_iff_prefix.1 here⟩
    · obtain ⟨hidden, parts, starts⟩ := ih
      exact ⟨hidden, congrArg (c :: ·) parts, starts⟩

theorem length_upTo_le (positive : 0 < i) (inside : i ≤ s.length) (occurs : OccursAt piece (s ++ piece) i) :
    (upTo piece s).length ≤ i := by
  induction s generalizing i with
  | nil => exact Nat.zero_le i
  | cons c s ih =>
    cases i with
    | zero => exact absurd positive (Nat.lt_irrefl 0)
    | succ i =>
      rw [upTo]
      split
      · exact Nat.succ_le_succ (Nat.zero_le i)
      · next elsewhere =>
        cases i with
        | zero => exact absurd (List.isPrefixOf_iff_prefix.2 occurs) elsewhere
        | succ i => exact Nat.succ_le_succ (ih (Nat.succ_pos i) (Nat.le_of_succ_le_succ inside) occurs)

/-- What is cut off at some place of the piece, and not behind the first one, is cut off at the first. -/
theorem eq_upTo_of_prefix {front after after' : Text} (nonempty : front ≠ []) (short : front <+: upTo piece s)
    (cut : s ++ (piece ++ after) = front ++ (piece ++ after')) : front = upTo piece s := by
  obtain ⟨hidden, parts, -⟩ := exists_hidden piece s
  obtain ⟨gap, rfl⟩ : front <+: s := short.trans ⟨hidden, parts.symm⟩
  refine short.eq_of_length_le (length_upTo_le (List.length_pos_iff.2 nonempty) (by simp) ?_)
  rw [List.append_assoc] at cut
  rw [OccursAt, List.append_assoc, List.drop_left]
  exact List.prefix_of_prefix_length_le ⟨after', (List.append_cancel_left cut).symm⟩ ⟨after, List.append_assoc ..⟩ (by simp)

theorem upTo_ne_nil (nonempty : s ≠ []) : upTo piece s ≠ [] := by
  cases s with
  | nil => exact absurd rfl nonempty
  | cons c s => exact List.cons_ne_nil _ _

/-! ## Counting and searching -/

/-- At how many positions a piece stands in a text. -/
def occurrences (piece s : Text) : Nat := s.tails.countP (piece.isPrefixOf ·)

/-- What is read at every position of a text is searched from left to right. -/
theorem find?_filterMap_tails {α : Type} {read? : Text → Option α} {p : α → Bool} {a : α} :
    (s.tails.filterMap read?).find? p = some a ↔
      ∃ i, read? (s.drop i) = some a ∧ p a ∧ ∀ j < i, ∀ b, read? (s.drop j) = some b → ¬ p b := by
  simp only [List.find?_filterMap, Option.bind_eq_some_iff, List.find?_eq_some_iff_getElem, List.getElem_tails]
  constructor
  · rintro ⟨_, ⟨good, i, _, rfl, first⟩, read⟩
    refine ⟨i, read, by simpa [read] using good, fun j before b other => ?_⟩
    simpa [other] using first j before
  · rintro ⟨i, read, good, first⟩
    -- A position behind the end of the text reads what its end does, which would come first.
    have inside : i ≤ s.length := by
      by_contra beyond
      have same : s.drop s.length = s.drop i := by
        rw [List.drop_length, List.drop_eq_nil_of_le (by omega)]
      exact first s.length (by omega) a (same ▸ read) good
    refine ⟨s.drop i, ⟨by simpa [read] using good, i, by rw [List.length_tails]; omega, rfl, fun j before => ?_⟩, read⟩
    cases other : read? (s.drop j) with
    | none => rfl
    | some b => simpa using first j before b other

end ReadingLog.Text
