import Mathlib.Data.List.Induction
import Mathlib.Data.List.Sort
import Mathlib.Logic.Function.Basic
import ReadingLog.Proofs.Books
import ReadingLog.Proofs.Report

/-!
# Histories that grow together

Several histories, all empty at first, grow by events and by copies of each other. Whatever the steps, the books of each are those
of its events, and its events are those pushed onto it and those copied to it, in the order of the steps. Appending is associative,
and the empty history changes nothing.
-/

namespace ReadingLog.History

/-! ## Books of appended histories -/

theorem mem_foldl_insertPath_iff {path : NotePath} {others books : List NotePath} :
    path ∈ others.foldl (fun books path => insertPath path books) books ↔ path ∈ others ∨ path ∈ books := by
  induction others generalizing books with
  | nil => simp
  | cons other others ih => rw [List.foldl_cons, ih, mem_insertPath_iff, List.mem_cons, or_left_comm, or_assoc]

theorem foldl_insertPath_ordered {books : List NotePath} (ordered : books.Pairwise (· < ·)) (others : List NotePath) :
    (others.foldl (fun books path => insertPath path books) books).Pairwise (· < ·) := by
  induction others generalizing books with
  | nil => exact ordered
  | cons other others ih => exact ih (insertPath_ordered ordered)

theorem mem_books_append_iff {path : NotePath} {h other : History} :
    path ∈ (h ++ other).books ↔ path ∈ other.books ∨ path ∈ h.books :=
  mem_foldl_insertPath_iff

theorem books_append_ordered {h : History} (ordered : h.books.Pairwise (· < ·)) (other : History) :
    (h ++ other).books.Pairwise (· < ·) :=
  foldl_insertPath_ordered ordered other.books

theorem IsIndexed.append {h other : History} (indexed : h.IsIndexed) (also : other.IsIndexed) : (h ++ other).IsIndexed where
  ordered := books_append_ordered indexed.ordered other
  mem_iff path := by
    rw [mem_books_append_iff, indexed.mem_iff, also.mem_iff, events_append, or_comm]
    simp only [List.mem_append, or_and_right, exists_or]

/-- Histories are the same if their events are and if they have the same books, kept in order. -/
theorem ext_of_ordered {h other : History} (events : h.events = other.events) (ordered : h.books.Pairwise (· < ·))
    (also : other.books.Pairwise (· < ·)) (books : ∀ path, path ∈ h.books ↔ path ∈ other.books) : h = other := by
  have same : h.books = other.books := List.Pairwise.eq_of_mem_iff ordered also books
  cases h
  cases other
  exact congr (congrArg mk events) same

theorem append_assoc {h : History} (ordered : h.books.Pairwise (· < ·)) (later last : History) :
    h ++ later ++ last = h ++ (later ++ last) := by
  refine ext_of_ordered (List.append_assoc ..) (books_append_ordered (books_append_ordered ordered later) last)
    (books_append_ordered ordered (later ++ last)) fun path => ?_
  simp only [mem_books_append_iff, or_assoc]

theorem empty_append {h : History} (ordered : h.books.Pairwise (· < ·)) : ∅ ++ h = h := by
  refine ext_of_ordered (List.nil_append _) (books_append_ordered List.Pairwise.nil h) ordered fun path => ?_
  rw [mem_books_append_iff]
  exact or_iff_left List.not_mem_nil

theorem append_empty (h : History) : h ++ ∅ = h := by
  cases h
  exact congrArg (mk · _) (List.append_nil _)

/-! ## Steps -/

variable {ι : Type} [DecidableEq ι]

/-- A step by which one of several histories grows: by an event, or by a copy of one of them, which may be itself. A history that
is given away is one that no later step names. -/
inductive Growth (ι : Type) where
  | push (target : ι) (event : Event)
  | append (target source : ι)

namespace Growth

/-- The histories after a step. -/
def apply (histories : ι → History) : Growth ι → ι → History
  | push target event => Function.update histories target ((histories target).push event)
  | append target source => Function.update histories target (histories target ++ histories source)

/-- The events that a step gives to a history: the event pushed onto it, or all events of the history copied to it. -/
def gives (histories : ι → History) (i : ι) : Growth ι → List Event
  | push target event => if i = target then [event] else []
  | append target source => if i = target then (histories source).events else []

/-- A step leaves a history as it is, or pushes an event onto it, or appends a history to it. -/
theorem apply_cases (histories : ι → History) (step : Growth ι) (i : ι) :
    (step.apply histories i = histories i ∧ step.gives histories i = []) ∨
    (∃ event, step.apply histories i = (histories i).push event ∧ step.gives histories i = [event]) ∨
    ∃ source, step.apply histories i = histories i ++ histories source ∧
      step.gives histories i = (histories source).events := by
  cases step with
  | push target event =>
    by_cases here : i = target
    · subst here
      exact .inr (.inl ⟨event, Function.update_self .., if_pos rfl⟩)
    · exact .inl ⟨Function.update_of_ne here .., if_neg here⟩
  | append target source =>
    by_cases here : i = target
    · subst here
      exact .inr (.inr ⟨source, Function.update_self .., if_pos rfl⟩)
    · exact .inl ⟨Function.update_of_ne here .., if_neg here⟩

theorem events_apply (histories : ι → History) (step : Growth ι) (i : ι) :
    (step.apply histories i).events = (histories i).events ++ step.gives histories i := by
  obtain ⟨after, gives⟩ | ⟨event, after, gives⟩ | ⟨source, after, gives⟩ := step.apply_cases histories i
  · rw [after, gives, List.append_nil]
  · rw [after, gives, events_push]
  · rw [after, gives, events_append]

theorem isIndexed_apply {histories : ι → History} (indexed : ∀ i, (histories i).IsIndexed) (step : Growth ι) (i : ι) :
    (step.apply histories i).IsIndexed := by
  obtain ⟨after, -⟩ | ⟨event, after, -⟩ | ⟨source, after, -⟩ := step.apply_cases histories i
  · exact after ▸ indexed i
  · exact after ▸ (indexed i).push event
  · exact after ▸ (indexed i).append (indexed source)

end Growth

/-- Histories that are all empty at first, after some steps. -/
def grown (steps : List (Growth ι)) : ι → History := steps.foldl Growth.apply fun _ => ∅

theorem grown_concat (steps : List (Growth ι)) (step : Growth ι) :
    grown (steps ++ [step]) = step.apply (grown steps) := by
  rw [grown, List.foldl_append]
  rfl

theorem isIndexed_grown (steps : List (Growth ι)) (i : ι) : (grown steps i).IsIndexed := by
  induction steps using List.reverseRecOn generalizing i with
  | nil => exact isIndexed_empty
  | append_singleton steps step ih =>
    rw [grown_concat]
    exact Growth.isIndexed_apply ih step i

/-- Each step gives what it has to give at its time, when the steps before it have been taken. -/
theorem events_grown (steps : List (Growth ι)) (i : ι) :
    (grown steps i).events = steps.zipIdx.flatMap fun (step, n) => step.gives (grown (steps.take n)) i := by
  induction steps using List.reverseRecOn with
  | nil => rfl
  | append_singleton steps step ih =>
    have earlier : (steps.zipIdx.flatMap fun (step, n) => step.gives (grown (steps.take n)) i) =
        steps.zipIdx.flatMap fun (other, n) => other.gives (grown ((steps ++ [step]).take n)) i := by
      refine List.flatMap_congr fun (other, n) member => ?_
      have inside : n ≤ steps.length := by
        obtain ⟨-, below, -⟩ := List.mem_zipIdx member
        omega
      show other.gives (grown (steps.take n)) i = other.gives (grown ((steps ++ [step]).take n)) i
      rw [List.take_append_of_le_length inside]
    rw [grown_concat, Growth.events_apply, ih, earlier, List.zipIdx_append, List.flatMap_append]
    simp

/-- However histories grow out of each other, the books of each are those of its events, which are the events given to it by the
steps, in their order; and appending is associative, with the empty history on either side changing nothing. -/
theorem grown_faithful :
    (∀ (steps : List (Growth ι)) (i : ι), (grown steps i).IsIndexed ∧
      (grown steps i).events = steps.zipIdx.flatMap fun (step, n) => step.gives (grown (steps.take n)) i) ∧
    ∀ h : History, h.books.Pairwise (· < ·) →
      (∀ later last : History, h ++ later ++ last = h ++ (later ++ last)) ∧ ∅ ++ h = h ∧ h ++ ∅ = h :=
  ⟨fun steps i => ⟨isIndexed_grown steps i, events_grown steps i⟩,
    fun h ordered => ⟨append_assoc ordered, empty_append ordered, append_empty h⟩⟩

/-- The first and the last day of a book, with another book begun between them. -/
def entwined : List Event :=
  [⟨.started, ⟨2023, 11, 30, by decide⟩, "Books/Dune.md"⟩, ⟨.started, ⟨2023, 12, 31, by decide⟩, "Atlas.md"⟩,
   ⟨.finished, ⟨2024, 2, 1, by decide⟩, "Books/Dune.md"⟩]

/-- A history that is copied to itself and to another one, and that gets the copy back. -/
def copied : List (Growth Bool) :=
  entwined.map (.push true) ++ [.append true true, .append false true, .append true false]

theorem grown_faithful_copied : (ofEvents entwined).books.Pairwise (· < ·) ∧
    (grown copied true).IsIndexed ∧
    (grown copied true).events = entwined ++ entwined ++ (entwined ++ entwined) ∧
    ofEvents entwined ++ grown copied false ++ grown copied true =
      ofEvents entwined ++ (grown copied false ++ grown copied true) ∧
    ∅ ++ ofEvents entwined = ofEvents entwined := by
  have ordered : (ofEvents entwined).books.Pairwise (· < ·) := by decide +kernel
  obtain ⟨indexed, events⟩ := grown_faithful.1 copied true
  obtain ⟨associative, empty_first, -⟩ := grown_faithful (ι := Bool).2 (ofEvents entwined) ordered
  exact ⟨ordered, indexed, events.trans (by decide +kernel), associative _ _, empty_first⟩

end ReadingLog.History
