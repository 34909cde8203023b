import ReadingLog.Event

/-!
# The books of a history

A history keeps the paths of the notes that its events are about, each once and in order, however it has grown.
-/

namespace ReadingLog.History

/-- The books are in strictly increasing order, and they are those that the events are about. -/
structure IsIndexed (h : History) : Prop where
  ordered : h.books.Pairwise (· < ·)
  mem_iff : ∀ path, path ∈ h.books ↔ ∃ event ∈ h.events, event.book = path

theorem mem_insertPath_iff {path other : NotePath} {books : List NotePath} :
    other ∈ insertPath path books ↔ other = path ∨ other ∈ books := by
  induction books with
  | nil => simp [insertPath]
  | cons first rest ih =>
    simp only [insertPath]
    split
    · rw [List.mem_cons]
    · split
      · next same =>
        rw [List.mem_cons, same, ← or_assoc, or_self]
      · rw [List.mem_cons, List.mem_cons, ih, or_left_comm]

theorem insertPath_ordered {path : NotePath} {books : List NotePath} (ordered : books.Pairwise (· < ·)) :
    (insertPath path books).Pairwise (· < ·) := by
  induction books with
  | nil => exact List.pairwise_singleton _ _
  | cons first rest ih =>
    obtain ⟨below, later⟩ := List.pairwise_cons.1 ordered
    simp only [insertPath]
    split
    · next before =>
      refine List.pairwise_cons.2 ⟨fun other member => ?_, ordered⟩
      rcases List.mem_cons.1 member with rfl | inner
      · exact before
      · exact String.lt_trans before (below other inner)
    · next not_before =>
      split
      · exact ordered
      · next differs =>
        have after : first < path :=
          String.not_le.1 fun least => differs (String.le_antisymm least (String.not_lt.1 not_before))
        refine List.pairwise_cons.2 ⟨fun other member => ?_, ih later⟩
        rcases mem_insertPath_iff.1 member with rfl | inner
        · exact after
        · exact below other inner

theorem isIndexed_empty : (∅ : History).IsIndexed := ⟨List.Pairwise.nil, by simp [EmptyCollection.emptyCollection, empty]⟩

theorem IsIndexed.push {h : History} (indexed : h.IsIndexed) (event : Event) : (h.push event).IsIndexed where
  ordered := insertPath_ordered indexed.ordered
  mem_iff path := by
    simp only [History.push, mem_insertPath_iff, indexed.mem_iff, List.mem_append, List.mem_singleton]
    constructor
    · rintro (rfl | ⟨earlier, member, about⟩)
      · exact ⟨event, .inr rfl, rfl⟩
      · exact ⟨earlier, .inl member, about⟩
    · rintro ⟨any, member | rfl, about⟩
      · exact .inr ⟨any, member, about⟩
      · exact .inl about.symm

theorem isIndexed_ofEvents (events : List Event) : (ofEvents events).IsIndexed := by
  have grown (h : History) (indexed : h.IsIndexed) : (events.foldl History.push h).IsIndexed := by
    induction events generalizing h with
    | nil => exact indexed
    | cons event events ih => exact ih _ (indexed.push event)
  exact grown ∅ isIndexed_empty

end ReadingLog.History
