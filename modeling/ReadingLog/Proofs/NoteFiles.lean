import Mathlib.Data.List.Basic
import ReadingLog.Proofs.FileTrees
import ReadingLog.Vault.Notes

/-!
# The order of note files

A relative path gives back the names it joins, so different files of a vault have different paths, and sorting puts them in
strictly increasing order.
-/

namespace ReadingLog

namespace Location

theorem toList_relativePath (l : Location) : (relativePath l).toList = ['/'].intercalate (l.map (·.text.toList)) := by
  simp [relativePath, String.toList_intercalate, Function.comp_def]

/-- The names of a path that has any are the parts between its slashes. -/
theorem splitOn_relativePath {l : Location} (named : l ≠ []) :
    (relativePath l).toList.splitOn '/' = l.map (·.text.toList) := by
  rw [toList_relativePath, List.splitOn_intercalate]
  · intro part member
    obtain ⟨name, _, rfl⟩ := List.mem_map.1 member
    exact name.isName.2.2.2
  · simpa using named

theorem relativePath_ne_empty {l : Location} (named : l ≠ []) : relativePath l ≠ "" := by
  intro empty
  have parts := splitOn_relativePath named
  rw [empty] at parts
  cases l with
  | nil => exact named rfl
  | cons name rest =>
    have first : name.text.toList = [] := by simpa using (List.cons.inj parts).1.symm
    exact name.isName.1 (String.toList_eq_nil_iff.1 first)

theorem relativePath_injective {l k : Location} (same : relativePath l = relativePath k) : l = k := by
  by_cases top : l = []
  · by_cases other : k = []
    · rw [top, other]
    · exact absurd (by rw [← same, top]; rfl) (relativePath_ne_empty other)
  by_cases other : k = []
  · exact absurd (by rw [same, other]; rfl) (relativePath_ne_empty top)
  have parts : l.map (·.text.toList) = k.map (·.text.toList) := by
    rw [← splitOn_relativePath top, ← splitOn_relativePath other, same]
  refine List.map_inj_right ?_ |>.1 parts
  intro a b equal
  cases a
  cases b
  congr
  exact String.toList_inj.1 equal

theorem follow_name (l : Location) (name : Name) : l.follow name.text.toList = l ++ [name] := by
  have up : name.text.toList ≠ ['.', '.'] := fun same => name.isName.2.2.1 (String.toList_inj.1 same)
  have named : IsName (String.ofList name.text.toList) := by
    rw [String.ofList_toList]
    exact name.isName
  rw [follow, if_neg up, dif_pos named]
  congr
  exact String.ofList_toList

/-- A relative path leads from a base to the location it was made of. -/
theorem resolve_relativePath (base : Location) {l : Location} (named : l ≠ []) : base.resolve (relativePath l) = base ++ l := by
  have inner : (relativePath l).toList.head? ≠ some '/' := by
    obtain ⟨name, rest, rfl⟩ := List.exists_cons_of_ne_nil named
    intro slash
    obtain ⟨after, path⟩ := List.head?_eq_some_iff.1 slash
    have empty : ((relativePath (name :: rest)).toList.splitOn '/').head? = some [] := by rw [path]; rfl
    rw [splitOn_relativePath named] at empty
    exact name.isName.1 (String.toList_eq_nil_iff.1 (Option.some.inj empty))
  have followed (base : Location) : (l.map (·.text.toList)).foldl follow base = base ++ l := by
    clear named inner
    induction l generalizing base with
    | nil => simp
    | cons name rest ih => simp [follow_name, ih]
  rw [resolve, if_neg inner, splitOn_relativePath named, followed]

end Location

namespace Vault

theorem noteFile?_eq_some_iff {v : Vault} {entry : Location × Entry} {file : NotePath × Content} :
    v.noteFile? entry = some file ↔ ∃ inner content, entry = (v.location ++ inner, .file content) ∧
      isNotePath (Location.relativePath inner) ∧ ¬ inner.dropLast.any Name.isHidden ∧
      file = (Location.relativePath inner, content) := by
  obtain ⟨l, e⟩ := entry
  unfold noteFile?
  constructor
  · intro found
    split at found
    · next inner content inside stands =>
      obtain rfl : e = .file content := stands
      obtain rfl : v.location ++ inner = l := List.isPrefixOf?_eq_some_iff_append_eq.1 inside
      split at found
      · next shown =>
        obtain ⟨named, visible⟩ := Bool.and_eq_true_iff.1 shown
        exact ⟨inner, content, rfl, named, by simpa using visible, (Option.some.inj found).symm⟩
      · cases found
    · cases found
  · rintro ⟨inner, content, here, named, visible, rfl⟩
    obtain ⟨rfl, rfl⟩ := Prod.mk.inj here
    have inside : v.location.isPrefixOf? (v.location ++ inner) = some inner := List.isPrefixOf?_eq_some_iff_append_eq.2 rfl
    simp [inside, named, visible]

/-- Different files have different paths. -/
theorem filterMap_noteFile?_nodup (t : FileTree) (v : Vault) :
    ((t.entries.filterMap v.noteFile?).map Prod.fst).Nodup := by
  have distinct := t.nodup
  revert distinct
  generalize t.entries = entries
  intro distinct
  rw [List.Nodup, List.pairwise_map] at *
  refine List.Pairwise.filterMap _ ?_ distinct
  intro a b differ file found file' found' same
  obtain ⟨inner, content, rfl, -, -, rfl⟩ := noteFile?_eq_some_iff.1 found
  obtain ⟨inner', content', rfl, -, -, rfl⟩ := noteFile?_eq_some_iff.1 found'
  apply differ
  rw [Location.relativePath_injective same]

/-- Sorting by texts that are all different puts these in strictly increasing order. -/
theorem mergeSort_ordered {α : Type} (key : α → String) {l : List α} (distinct : (l.map key).Nodup) :
    ((l.mergeSort fun a b => decide (key a ≤ key b)).map key).Pairwise (· < ·) := by
  have trans (a b c : α) (first : decide (key a ≤ key b) = true) (second : decide (key b ≤ key c) = true) :
      decide (key a ≤ key c) = true := by
    rw [decide_eq_true_eq] at *
    exact String.le_trans first second
  have total (a b : α) : (decide (key a ≤ key b) || decide (key b ≤ key a)) = true := by
    simpa using String.le_total (key a) (key b)
  rw [← ((l.mergeSort_perm _).map key).nodup_iff] at distinct
  rw [List.Nodup, List.pairwise_map] at distinct
  rw [List.pairwise_map]
  refine ((List.pairwise_mergeSort trans total l).and distinct).imp ?_
  intro a b ⟨ordered, differ⟩
  exact String.not_le.1 fun back => differ (String.le_antisymm (of_decide_eq_true ordered) back)

/-- The files of the notes are in strictly increasing order of their paths. -/
theorem noteFiles_ordered (t : FileTree) (v : Vault) : ((noteFiles t v).map Prod.fst).Pairwise (· < ·) :=
  mergeSort_ordered Prod.fst (filterMap_noteFile?_nodup t v)

/-- The notes are the Markdown files below the vault that no hidden folder holds. -/
theorem mem_noteFiles_iff {t : FileTree} {v : Vault} {file : NotePath × Content} :
    file ∈ noteFiles t v ↔ ∃ inner content, t.find? (v.location ++ inner) = some (.file content) ∧
      isNotePath (Location.relativePath inner) ∧ ¬ inner.dropLast.any Name.isHidden ∧
      file = (Location.relativePath inner, content) := by
  simp only [noteFiles, List.mem_mergeSort, List.mem_filterMap, noteFile?_eq_some_iff]
  constructor
  · rintro ⟨_, member, inner, content, rfl, note⟩
    exact ⟨inner, content, (FileTree.mem_entries_iff.1 member).2, note⟩
  · rintro ⟨inner, content, stands, note⟩
    have below : v.location ++ inner ≠ [] := by
      intro top
      rw [top, FileTree.find?_top] at stands
      cases stands
    exact ⟨_, FileTree.mem_entries_iff.2 ⟨below, stands⟩, inner, content, rfl, note⟩

/-- A note of the vault is read from its file. -/
theorem readNote_of_mem {t : FileTree} {v : Vault} {file : NotePath × Content} (member : file ∈ noteFiles t v) :
    readNote t v file.1 = (noteOf file).map Note.content := by
  obtain ⟨inner, content, stands, note, -, rfl⟩ := mem_noteFiles_iff.1 member
  have named : inner ≠ [] := by
    rintro rfl
    exact absurd note (by decide)
  have here : v.location.resolve (Location.relativePath inner) = v.location ++ inner :=
    Location.resolve_relativePath v.location named
  have there : t.holds (v.location ++ inner) := FileTree.holds_iff.2 ⟨_, stands⟩
  simp only [readNote, here, there, if_true]
  cases content with
  | text text => rw [FileTree.readText_eq_ok_iff.2 stands]; rfl
  | binary bytes => rw [FileTree.readText_eq_error_iff.2 (.inr (.inl ⟨⟨_, stands⟩, rfl⟩))]; rfl

/-- The notes of a vault are told by the files that no hidden folder holds. -/
theorem noteFiles_congr {t t' : FileTree} {v : Vault} (same : ∀ inner content, ¬ inner.dropLast.any Name.isHidden →
    (t.find? (v.location ++ inner) = some (.file content) ↔ t'.find? (v.location ++ inner) = some (.file content))) :
    noteFiles t v = noteFiles t' v := by
  have ordered := List.pairwise_map.1 (noteFiles_ordered t v)
  have ordered' := List.pairwise_map.1 (noteFiles_ordered t' v)
  have distinct {files : List (NotePath × Content)} (ordered : files.Pairwise fun a b => a.1 < b.1) : files.Nodup := by
    refine ordered.imp ?_
    intro a b before equal
    rw [equal] at before
    exact String.lt_irrefl _ before
  have members : ∀ file, file ∈ noteFiles t v ↔ file ∈ noteFiles t' v := by
    intro file
    simp only [mem_noteFiles_iff]
    refine exists_congr fun inner => exists_congr fun content => ?_
    by_cases hidden : inner.dropLast.any Name.isHidden
    · simp [hidden]
    · rw [same inner content hidden]
  have perm := (List.perm_ext_iff_of_nodup (distinct ordered) (distinct ordered')).2 members
  refine List.Perm.eq_of_pairwise ?_ ordered ordered' perm
  intro a b _ _ before after
  exact absurd (String.lt_trans before after) (String.lt_irrefl _)

end Vault
end ReadingLog
