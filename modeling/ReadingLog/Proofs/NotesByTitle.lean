import Mathlib.Data.List.Basic
import ReadingLog.NoteIndex

/-!
# Notes found by title

A target without a folder means a note with that title. Of several such notes the one is meant that comes first from where the
reference stands: `ComesBefore` prefers the folder of the source, then the shorter path, then the smaller one. The index has to
look at distances only, because its notes are in order.
-/

namespace ReadingLog.NoteIndex

/-! ## The order of notes around a source -/

/-- Seen from a source, the first note is preferred to the second. -/
inductive ComesBefore (source note other : NotePath) : Prop
  | folder : note.folder = source.folder → other.folder ≠ source.folder → ComesBefore source note other
  | length : (note.folder = source.folder ↔ other.folder = source.folder) → note.utf8ByteSize < other.utf8ByteSize →
    ComesBefore source note other
  | path : (note.folder = source.folder ↔ other.folder = source.folder) → note.utf8ByteSize = other.utf8ByteSize →
    note < other → ComesBefore source note other

variable {source note other third : NotePath} {notes : List NotePath}

theorem ComesBefore.trans (first : ComesBefore source note other) (second : ComesBefore source other third) :
    ComesBefore source note third := by
  cases first with
  | folder inside outside =>
    cases second with
    | folder inside' _ => exact absurd inside' outside
    | length same _ => exact .folder inside (mt same.2 outside)
    | path same _ _ => exact .folder inside (mt same.2 outside)
  | length same shorter =>
    cases second with
    | folder inside outside => exact .folder (same.2 inside) outside
    | length same' shorter' => exact .length (same.trans same') (Nat.lt_trans shorter shorter')
    | path same' equal _ => exact .length (same.trans same') (equal ▸ shorter)
  | path same equal smaller =>
    cases second with
    | folder inside outside => exact .folder (same.2 inside) outside
    | length same' shorter => exact .length (same.trans same') (equal ▸ shorter)
    | path same' equal' smaller' => exact .path (same.trans same') (equal.trans equal') (String.lt_trans smaller smaller')

theorem ComesBefore.irrefl : ¬ ComesBefore source note note := by
  intro before
  cases before with
  | folder inside outside => exact outside inside
  | length _ shorter => exact Nat.lt_irrefl _ shorter
  | path _ _ smaller => exact String.lt_irrefl _ smaller

theorem isNearer_iff : isNearer (distance source note) (distance source other) ↔
    note.folder = source.folder ∧ other.folder ≠ source.folder ∨
      (note.folder = source.folder ↔ other.folder = source.folder) ∧ note.utf8ByteSize < other.utf8ByteSize := by
  by_cases inside : note.folder = source.folder <;> by_cases inside' : other.folder = source.folder <;>
    simp [isNearer, distance, bne, beq_eq_decide, inside, inside']

theorem ComesBefore.of_isNearer (nearer : isNearer (distance source note) (distance source other)) :
    ComesBefore source note other := by
  rcases isNearer_iff.1 nearer with ⟨inside, outside⟩ | ⟨same, shorter⟩
  · exact .folder inside outside
  · exact .length same shorter

/-- A note that is smaller comes before every other one that is not nearer. -/
theorem ComesBefore.of_not_isNearer (smaller : note < other)
    (farther : ¬ isNearer (distance source other) (distance source note)) : ComesBefore source note other := by
  rw [isNearer_iff, not_or, not_and, not_and] at farther
  obtain ⟨folders, lengths⟩ := farther
  by_cases same : note.folder = source.folder ↔ other.folder = source.folder
  · rcases Nat.lt_or_eq_of_le (Nat.le_of_not_lt (lengths same.symm)) with shorter | equal
    · exact .length same shorter
    · exact .path same equal smaller
  · by_cases inside : note.folder = source.folder
    · exact .folder inside fun inside' => same (iff_of_true inside inside')
    · have outside' : other.folder ≠ source.folder := fun inside' => folders inside' inside
      exact absurd (iff_of_false inside outside') same

/-! ## The nearest note -/

theorem nearest?_eq_none_iff : nearest? source notes = none ↔ notes = [] := by
  cases notes with
  | nil => simp [nearest?]
  | cons first rest =>
    simp only [nearest?, reduceCtorEq, iff_false]
    split
    · simp
    · split <;> simp

/-- In a list in order, the nearest note comes before all others. -/
theorem first_of_nearest? (ordered : notes.Pairwise (· < ·)) (found : nearest? source notes = some note) :
    note ∈ notes ∧ ∀ other ∈ notes, other ≠ note → ComesBefore source note other := by
  induction notes generalizing note with
  | nil => cases found
  | cons first rest ih =>
    obtain ⟨least, ordered⟩ := List.pairwise_cons.1 ordered
    rw [nearest?] at found
    split at found
    · next empty =>
      obtain rfl := Option.some.inj found
      obtain rfl := nearest?_eq_none_iff.1 empty
      exact ⟨List.mem_cons_self, by simp⟩
    · next other later =>
      obtain ⟨member, before⟩ := ih ordered later
      split at found
      · next nearer =>
        obtain rfl := Option.some.inj found
        refine ⟨List.mem_cons_of_mem _ member, fun third listed differs => ?_⟩
        rcases List.mem_cons.1 listed with rfl | listed
        · exact .of_isNearer nearer
        · exact before third listed differs
      · next farther =>
        -- The notes after the first one come after `other`, and `other` comes after the first.
        obtain rfl := Option.some.inj found
        have ahead : ComesBefore source first other := .of_not_isNearer (least other member) farther
        refine ⟨List.mem_cons_self, fun third listed differs => ?_⟩
        rcases List.mem_cons.1 listed with rfl | listed
        · exact absurd rfl differs
        · by_cases same : third = other
          · rwa [same]
          · exact ahead.trans (before third listed same)

theorem nearest?_eq_some_iff (ordered : notes.Pairwise (· < ·)) :
    nearest? source notes = some note ↔ note ∈ notes ∧ ∀ other ∈ notes, other ≠ note → ComesBefore source note other := by
  refine ⟨first_of_nearest? ordered, fun ⟨member, before⟩ => ?_⟩
  cases found : nearest? source notes with
  | none =>
    rw [nearest?_eq_none_iff.1 found] at member
    cases member
  | some other =>
    obtain ⟨member', before'⟩ := first_of_nearest? ordered found
    by_contra differs
    have first := before other member' fun same => differs (congrArg some same)
    have second := before' note member fun same => differs (congrArg some same.symm)
    exact ComesBefore.irrefl (first.trans second)

/-! ## Titles -/

/-- A target that is no path: something is left of it, and no slash, when white space around it and every `./` in front of the
    rest are taken off. -/
structure IsTitle (target : Text) : Prop where
  nonempty : dropHere target.trim ≠ []
  flat : '/' ∉ dropHere target.trim

/-- The title that a target asks for: what is left of it, without the extension of notes. -/
def titleOf (target : Text) : Text := (dropHere target.trim).dropSuffix ['.', 'm', 'd']

/-- A note has the title that a target asks for, up to the case of ASCII letters. -/
def IsCalled (note : NotePath) (target : Text) : Prop := Text.sameIgnoringCase note.title (titleOf target)

instance (note : NotePath) (target : Text) : Decidable (IsCalled note target) := inferInstanceAs (Decidable (_ = true))

variable {index : NoteIndex} {target target' : Text}

theorem resolve?_eq_nearest? (title : IsTitle target) (source : NotePath) :
    index.resolve? target source = nearest? source (index.notes.filter (IsCalled · target)) := by
  have some_left : ¬ (dropHere target.trim).isEmpty := by simpa using title.nonempty
  have called : (fun note : NotePath => decide (IsCalled note target)) = fun note => note.title.sameIgnoringCase (titleOf target) := by
    funext note
    rw [Bool.eq_iff_iff, decide_eq_true_iff]
    rfl
  simp only [resolve?, some_left, Bool.false_eq_true, if_false, title.flat, called, titleOf]

theorem isCalled_congr (same : Text.sameIgnoringCase (titleOf target') (titleOf target)) (note : NotePath) :
    IsCalled note target' ↔ IsCalled note target := by
  simp only [IsCalled, Text.sameIgnoringCase, beq_iff_eq] at same ⊢
  rw [same]

/-- Sorting gives back a list in order from its notes in any order. -/
theorem mergeSort_eq_of_perm {collected : List NotePath} (ordered : notes.Pairwise (· < ·)) (perm : collected.Perm notes) :
    collected.mergeSort (fun a b => decide (a ≤ b)) = notes := by
  have trans (a b c : NotePath) (first : decide (a ≤ b) = true) (second : decide (b ≤ c) = true) : decide (a ≤ c) = true := by
    rw [decide_eq_true_eq] at *
    exact String.le_trans first second
  have total (a b : NotePath) : (decide (a ≤ b) || decide (b ≤ a)) = true := by
    simpa using String.le_total a b
  have sorted : (collected.mergeSort fun a b => decide (a ≤ b)).Pairwise (· ≤ ·) := by
    simpa using List.pairwise_mergeSort trans total collected
  have ordered' : notes.Pairwise (· ≤ ·) := ordered.imp fun smaller => String.not_lt.1 (String.lt_asymm smaller)
  exact List.Perm.eq_of_pairwise (fun _ _ _ _ => String.le_antisymm) sorted ordered'
    ((List.mergeSort_perm _ _).trans perm)

/-- A title is found where some note has it, and means the first such note as seen from the source. So it matters neither in
    which order the notes were collected nor how the letters of the title are cased, and a note in the folder of the source is
    never passed over for one elsewhere. -/
theorem resolve?_title (ordered : index.notes.Pairwise (· < ·)) (title : IsTitle target) (source : NotePath) :
    (index.resolve? target source = none ↔ ∀ note ∈ index.notes, ¬ IsCalled note target) ∧
    (∀ note, index.resolve? target source = some note ↔ note ∈ index.notes ∧ IsCalled note target ∧
      ∀ other ∈ index.notes, IsCalled other target → other ≠ note → ComesBefore source note other) ∧
    (∀ collected : List NotePath, collected.Perm index.notes →
      resolve? ⟨collected.mergeSort fun a b => decide (a ≤ b)⟩ target source = index.resolve? target source) ∧
    (∀ note, index.resolve? target source = some note →
      ∀ other ∈ index.notes, IsCalled other target → other.folder = source.folder → note.folder = source.folder) ∧
    ∀ target', IsTitle target' → Text.sameIgnoringCase (titleOf target') (titleOf target) →
      index.resolve? target' source = index.resolve? target source := by
  have least (note : NotePath) : index.resolve? target source = some note ↔ note ∈ index.notes ∧ IsCalled note target ∧
      ∀ other ∈ index.notes, IsCalled other target → other ≠ note → ComesBefore source note other := by
    rw [resolve?_eq_nearest? title, nearest?_eq_some_iff (ordered.filter _)]
    simp only [List.mem_filter, decide_eq_true_eq, and_imp, and_assoc]
  refine ⟨?_, least, ?_, ?_, ?_⟩
  · rw [resolve?_eq_nearest? title, nearest?_eq_none_iff, List.filter_eq_nil_iff]
    simp only [decide_eq_true_eq]
  · intro collected perm
    rw [mergeSort_eq_of_perm ordered perm]
  · intro note found other listed called inside
    obtain ⟨-, -, before⟩ := (least note).1 found
    by_cases same : other = note
    · rwa [← same]
    · cases before other listed called same with
      | folder inside' _ => exact inside'
      | length folders _ => exact folders.2 inside
      | path folders _ _ => exact folders.2 inside
  · intro target' title' same
    simp only [resolve?_eq_nearest? title', resolve?_eq_nearest? title, isCalled_congr same]

/-- Notes of one title in several folders, two of them with paths of one length. -/
def dunes : NoteIndex := ⟨["Books/Sci-Fi/Dune.md", "Dune/dune.md", "Dust/DUNE.md", "Journal/Dune.md", "Journal/Dune.md.md"]⟩

theorem resolve?_title_dunes :
    dunes.notes.Pairwise (· < ·) ∧ IsTitle " ././dUNE.md\t".toList ∧
    dunes.resolve? " ././dUNE.md\t".toList "Notes/2024-10-12.md" = some "Dune/dune.md" ∧
    ComesBefore "Notes/2024-10-12.md" "Dune/dune.md" "Dust/DUNE.md" ∧
    dunes.resolve? "Dune".toList "Journal/2024-10-12.md" = some "Journal/Dune.md" := by
  have ordered : dunes.notes.Pairwise (· < ·) := by decide +kernel
  have title : IsTitle " ././dUNE.md\t".toList := ⟨by decide +kernel, by decide +kernel⟩
  have title' : IsTitle "Dune".toList := ⟨by decide +kernel, by decide +kernel⟩
  have found : dunes.resolve? " ././dUNE.md\t".toList "Notes/2024-10-12.md" = some "Dune/dune.md" := by decide +kernel
  have found' : dunes.resolve? " ././dUNE.md\t".toList "Journal/2024-10-12.md" = some "Journal/Dune.md" := by decide +kernel
  obtain ⟨-, -, before⟩ := ((resolve?_title ordered title "Notes/2024-10-12.md").2.1 _).1 found
  have recased := (resolve?_title ordered title "Journal/2024-10-12.md").2.2.2.2 "Dune".toList title' (by decide +kernel)
  exact ⟨ordered, title, found, before "Dust/DUNE.md" (by decide) (by decide +kernel) (by decide), recased.trans found'⟩

end ReadingLog.NoteIndex
