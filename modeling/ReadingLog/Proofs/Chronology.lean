import Mathlib.Data.List.Basic
import ReadingLog.Event
import ReadingLog.Proofs.Calendar

/-!
# Events in the order of their dates

`Chronological found sorted` says that `sorted` has the events of `found` in the order of their dates, with the events of one
day as they were found. There is only one such list, and every selection of it is the one for the selected events.
-/

namespace ReadingLog

/-- The same events in the order of their dates; those of one day keep their order. -/
structure Chronological (found sorted : List Event) : Prop where
  perm : sorted.Perm found
  ordered : sorted.Pairwise fun a b => a.date ≤ b.date
  stable : ∀ date, sorted.filter (·.date = date) = found.filter (·.date = date)

namespace Chronological

/-- Events of one day are in order of date however they stand, so a stable sort leaves them as they stand. -/
theorem mergeSort (found : List Event) :
    Chronological found (found.mergeSort fun a b => decide (a.date ≤ b.date)) := by
  have trans (a b c : Event) (first : decide (a.date ≤ b.date) = true) (second : decide (b.date ≤ c.date) = true) :
      decide (a.date ≤ c.date) = true := by
    rw [decide_eq_true_eq] at *
    exact Date.le_trans first second
  have total (a b : Event) : (decide (a.date ≤ b.date) || decide (b.date ≤ a.date)) = true := by
    simpa using Date.le_total a.date b.date
  have perm := found.mergeSort_perm fun a b => decide (a.date ≤ b.date)
  refine ⟨perm, by simpa using List.pairwise_mergeSort trans total found, ?_⟩
  intro date
  have level : (found.filter (·.date = date)).Pairwise fun a b => decide (a.date ≤ b.date) = true := by
    apply List.pairwise_of_forall_mem_list
    intro a here b there
    rw [List.mem_filter] at here there
    simp only [decide_eq_true_eq] at here there ⊢
    rw [here.2, there.2]
    exact Date.le_refl date
  have inside := (List.sublist_mergeSort trans total level List.filter_sublist).filter (·.date = date)
  rw [List.filter_filter] at inside
  simp only [Bool.and_self] at inside
  exact (inside.eq_of_length (perm.filter _).length_eq.symm).symm

/-- The order of dates and the order within each day leave no choice. -/
theorem eq_of_days {events other : List Event} (ordered : events.Pairwise fun a b => a.date ≤ b.date)
    (ordered' : other.Pairwise fun a b => a.date ≤ b.date)
    (days : ∀ date, events.filter (·.date = date) = other.filter (·.date = date)) : events = other := by
  induction events generalizing other with
  | nil =>
    cases other with
    | nil => rfl
    | cons event rest => simpa using days event.date
  | cons event rest ih =>
    cases other with
    | nil => simpa using days event.date
    | cons event' rest' =>
      obtain ⟨least, later⟩ := List.pairwise_cons.1 ordered
      obtain ⟨least', later'⟩ := List.pairwise_cons.1 ordered'
      -- Each head is in the other list as well, so neither head is earlier.
      have back : event'.date ≤ event.date := by
        have member : event ∈ (event' :: rest').filter (·.date = event.date) := by
          rw [← days event.date]
          simp
        rcases List.mem_cons.1 (List.mem_filter.1 member).1 with rfl | inside
        · exact Date.le_refl _
        · exact least' event inside
      have forth : event.date ≤ event'.date := by
        have member : event' ∈ (event :: rest).filter (·.date = event'.date) := by
          rw [days event'.date]
          simp
        rcases List.mem_cons.1 (List.mem_filter.1 member).1 with rfl | inside
        · exact Date.le_refl _
        · exact least event' inside
      have sameDay := Date.le_antisymm forth back
      have heads := days event.date
      simp only [List.filter_cons, ← sameDay, decide_true, if_true, List.cons.injEq] at heads
      obtain ⟨rfl, -⟩ := heads
      refine congrArg (event :: ·) (ih later later' ?_)
      intro date
      have tails := days date
      simp only [List.filter_cons] at tails
      split at tails
      · exact (List.cons.inj tails).2
      · exact tails

theorem unique {found sorted other : List Event} (first : Chronological found sorted) (second : Chronological found other) :
    sorted = other :=
  eq_of_days first.ordered second.ordered fun date => (first.stable date).trans (second.stable date).symm

/-- A selection of the sorted events is the selected events sorted. -/
theorem filter {found sorted : List Event} (h : Chronological found sorted) (p : Event → Bool) :
    Chronological (found.filter p) (sorted.filter p) := by
  refine ⟨h.perm.filter p, h.ordered.filter p, ?_⟩
  intro date
  rw [List.filter_comm, h.stable, List.filter_comm]

/-- Up to a day and after it: the two parts stand one after the other. -/
theorem filter_split {events : List Event} (ordered : events.Pairwise fun a b => a.date ≤ b.date) (day : Date) :
    events = events.filter (·.date ≤ day) ++ events.filter (day < ·.date) := by
  induction events with
  | nil => rfl
  | cons event rest ih =>
    obtain ⟨least, ordered⟩ := List.pairwise_cons.1 ordered
    by_cases early : event.date ≤ day
    · have late : ¬ day < event.date := fun h => h early
      simp only [List.filter_cons, early, late, decide_true, decide_false, if_true, List.cons_append, Bool.false_eq_true,
        if_false, ← ih ordered]
    · have none : rest.filter (·.date ≤ day) = [] := by
        rw [List.filter_eq_nil_iff]
        intro other member
        simp only [decide_eq_true_eq]
        exact fun back => early (Date.le_trans (least other member) back)
      have rest' := ih ordered
      rw [none, List.nil_append] at rest'
      have late : day < event.date := early
      simp only [List.filter_cons, early, late, decide_true, decide_false, if_true, Bool.false_eq_true, if_false, none,
        List.nil_append, ← rest']

end Chronological
end ReadingLog
