import Mathlib.Data.List.Sort
import ReadingLog.Proofs.NoteFiles
import ReadingLog.Proofs.Utf8
import ReadingLog.Vault.Folder

/-!
# What a walk finds

A walk comes to every file that no hidden folder holds, once. So the notes that it lists are told by those files alone, in
the order of the bytes of their paths, and a file tree has the notes that a walk through its folders lists.
-/

namespace ReadingLog

/-! ## Names -/

namespace Name

/-- The name on a disk. -/
def raw (n : Name) : RawName where
  bytes := Text.utf8 n.text
  isName := by
    obtain ⟨full, here, above, slash⟩ := n.isName
    refine ⟨fun empty => full ?_, fun same => here ?_, fun same => above ?_, fun member => slash ?_⟩
    · exact Text.utf8_injective (t := "") empty
    · exact Text.utf8_injective (t := ".") same
    · exact Text.utf8_injective (t := "..") same
    · exact (Text.mem_utf8_iff (a := '/') (by decide)).1 member

theorem isHidden_raw (n : Name) : n.raw.isHidden = n.isHidden := by
  rw [RawName.isHidden, isHidden]
  exact decide_eq_decide.2 (Text.head?_utf8_iff (a := '.') (by decide))

theorem raw_injective {n m : Name} (same : n.raw = m.raw) : n = m := by
  have texts : n.text = m.text := Text.utf8_injective (congrArg RawName.bytes same)
  cases n
  cases m
  congr

end Name

theorem RawName.text?_eq_some_iff {n : RawName} {s : String} : n.text? = some s ↔ ∃ name : Name, name.raw = n ∧ name.text = s := by
  obtain ⟨bytes, full, here, above, slash⟩ := n
  rw [text?, Text.fromUTF8?_eq_some_iff]
  constructor
  · rintro rfl
    have named : IsName s := by
      refine ⟨?_, ?_, ?_, fun member => slash ((Text.mem_utf8_iff (by decide)).2 member)⟩
      · rintro rfl
        exact full rfl
      · rintro rfl
        exact here rfl
      · rintro rfl
        exact above rfl
    exact ⟨⟨s, named⟩, rfl, rfl⟩
  · rintro ⟨name, same, rfl⟩
    exact congrArg RawName.bytes same

namespace Folder

variable {way : List RawName}

/-! ## The way to a file -/

/-- Some names lead to a file. -/
def HasFile : Folder → List RawName → Prop
  | empty, _ => False
  | file name others, way => way = [name] ∨ others.HasFile way
  | folder name inside others, way => (∃ rest, way = name :: rest ∧ inside.HasFile rest) ∨ others.HasFile way
  | special _ others, way => others.HasFile way

/-- The way to a file begins at an entry. -/
theorem HasFile.first {f : Folder} (found : f.HasFile way) : ∃ name ∈ f.names, ∃ rest, way = name :: rest := by
  induction f with
  | empty => exact found.elim
  | file name others ih =>
    rcases found with rfl | found
    · exact ⟨name, List.mem_cons_self, [], rfl⟩
    · exact (ih found).imp fun first => And.imp_left (List.mem_cons_of_mem name)
  | folder name inside others _ ih =>
    rcases found with ⟨rest, rfl, _⟩ | found
    · exact ⟨name, List.mem_cons_self, rest, rfl⟩
    · exact (ih found).imp fun first => And.imp_left (List.mem_cons_of_mem name)
  | special name others ih => exact (ih found).imp fun first => And.imp_left (List.mem_cons_of_mem name)

theorem HasFile.ne_nil {f : Folder} (found : f.HasFile way) : way ≠ [] := by
  obtain ⟨name, -, rest, rfl⟩ := found.first
  exact List.cons_ne_nil _ _

/-- No folder on a way is hidden. -/
def Open (way : List RawName) : Prop := ∀ name ∈ way.dropLast, ¬ name.isHidden

theorem open_cons {name : RawName} (proper : way ≠ []) : Open (name :: way) ↔ ¬ name.isHidden ∧ Open way := by
  rw [Open, List.dropLast_cons_of_ne_nil proper, List.forall_mem_cons, Open]

/-- A walk comes to the files that no hidden folder holds. -/
theorem mem_walk_iff {f : Folder} : way ∈ f.walk ↔ f.HasFile way ∧ Open way := by
  induction f generalizing way with
  | empty => simp [walk, HasFile]
  | file name others ih =>
    rw [walk, List.mem_cons, ih, HasFile]
    constructor
    · rintro (rfl | ⟨found, visible⟩)
      · exact ⟨.inl rfl, by simp [Open]⟩
      · exact ⟨.inr found, visible⟩
    · rintro ⟨rfl | found, visible⟩
      · exact .inl rfl
      · exact .inr ⟨found, visible⟩
  | folder name inside others ih ih' =>
    have entered : way ∈ (if name.isHidden then [] else inside.walk.map (name :: ·)) ↔
        (∃ rest, way = name :: rest ∧ inside.HasFile rest) ∧ Open way := by
      constructor
      · intro member
        split at member
        · cases member
        · next shown =>
          obtain ⟨rest, walked, rfl⟩ := List.mem_map.1 member
          obtain ⟨found, visible⟩ := ih.1 walked
          exact ⟨⟨rest, rfl, found⟩, (open_cons found.ne_nil).2 ⟨shown, visible⟩⟩
      · rintro ⟨⟨rest, rfl, found⟩, visible⟩
        obtain ⟨shown, visible⟩ := (open_cons found.ne_nil).1 visible
        rw [if_neg shown]
        exact List.mem_map_of_mem (ih.2 ⟨found, visible⟩)
    rw [walk, List.mem_append, entered, ih', HasFile, ← or_and_right]
  | special name others ih => exact ih

theorem walk_nodup {f : Folder} (distinct : f.Distinct) : f.walk.Nodup := by
  -- What comes later in a folder has another name at the front.
  have apart {others : Folder} {name : RawName} (fresh : name ∉ others.names) (rest : List RawName) :
      name :: rest ∉ others.walk := by
    intro walked
    obtain ⟨first, named, _, same⟩ := (mem_walk_iff.1 walked).1.first
    rw [(List.cons.inj same).1] at fresh
    exact fresh named
  induction f with
  | empty => exact List.nodup_nil
  | file name others ih =>
    obtain ⟨fresh, distinct⟩ := distinct
    exact List.nodup_cons.2 ⟨apart fresh [], ih distinct⟩
  | folder name inside others ih ih' =>
    obtain ⟨fresh, within, distinct⟩ := distinct
    rw [walk, List.nodup_append']
    refine ⟨?_, ih' distinct, ?_⟩
    · split
      · exact List.nodup_nil
      · exact (ih within).map fun _ _ same => (List.cons.inj same).2
    · intro way entered later
      split at entered
      · cases entered
      · obtain ⟨rest, -, rfl⟩ := List.mem_map.1 entered
        exact apart fresh rest later
  | special name others ih => exact ih distinct.2

/-! ## The path of a note -/

theorem mapM_text?_eq_some_iff {names : List String} :
    way.mapM RawName.text? = some names ↔ ∃ inner : Location, way = inner.map Name.raw ∧ names = inner.map Name.text := by
  induction way generalizing names with
  | nil =>
    rw [List.mapM_nil]
    constructor
    · rintro ⟨⟩
      exact ⟨[], rfl, rfl⟩
    · rintro ⟨inner, none, rfl⟩
      rw [List.map_eq_nil_iff.1 none.symm]
      rfl
  | cons name rest ih =>
    rw [List.mapM_cons]
    simp only [Option.bind_eq_bind, Option.bind_eq_some_iff, Option.pure_def, Option.some.injEq, ih,
      RawName.text?_eq_some_iff]
    constructor
    · rintro ⟨_, ⟨first, rfl, rfl⟩, _, ⟨inner, rfl, rfl⟩, rfl⟩
      exact ⟨first :: inner, rfl, rfl⟩
    · rintro ⟨inner, same, rfl⟩
      obtain ⟨first, inner, rfl, rfl, rfl⟩ := List.map_eq_cons_iff.1 same.symm
      exact ⟨first.text, ⟨first, rfl, rfl⟩, inner.map Name.text, ⟨inner, rfl, rfl⟩, rfl⟩

/-- The path of a note joins the names on the way to it. -/
theorem notePath?_eq_some_iff_names {path : NotePath} : notePath? way = some path ↔
    ∃ names, way.mapM RawName.text? = some names ∧ path = "/".intercalate names ∧ Vault.isNotePath path := by
  unfold notePath?
  constructor
  · intro found
    split at found
    · next names read =>
      obtain ⟨note, same⟩ := Option.ite_none_right_eq_some.1 found
      obtain rfl := Option.some.inj same
      exact ⟨names, read, rfl, note⟩
    · cases found
  · rintro ⟨names, read, rfl, note⟩
    rw [read]
    exact if_pos note

/-- The file of a note stands at a location. -/
theorem notePath?_eq_some_iff {path : NotePath} : notePath? way = some path ↔ ∃ inner : Location, way = inner.map Name.raw ∧
    Vault.isNotePath (Location.relativePath inner) ∧ path = Location.relativePath inner := by
  rw [notePath?_eq_some_iff_names]
  constructor
  · rintro ⟨names, read, rfl, note⟩
    obtain ⟨inner, rfl, rfl⟩ := mapM_text?_eq_some_iff.1 read
    exact ⟨inner, rfl, note, rfl⟩
  · rintro ⟨inner, rfl, note, rfl⟩
    exact ⟨inner.map Name.text, mapM_text?_eq_some_iff.2 ⟨inner, rfl, rfl⟩, rfl, note⟩

theorem open_raw {inner : Location} : Open (inner.map Name.raw) ↔ ∀ name ∈ inner.dropLast, ¬ name.isHidden := by
  rw [Open, ← List.map_dropLast, List.forall_mem_map]
  simp only [Name.isHidden_raw]

end Folder

namespace Directory

theorem mem_notes_iff {d : Directory} {path : NotePath} : path ∈ d.notes ↔ ∃ inner : Location,
    d.root.HasFile (inner.map Name.raw) ∧ (∀ name ∈ inner.dropLast, ¬ name.isHidden) ∧
    Vault.isNotePath (Location.relativePath inner) ∧ path = Location.relativePath inner := by
  simp only [notes, List.mem_mergeSort, List.mem_filterMap, Folder.mem_walk_iff, Folder.notePath?_eq_some_iff]
  constructor
  · rintro ⟨_, ⟨found, visible⟩, inner, rfl, note⟩
    exact ⟨inner, found, Folder.open_raw.1 visible, note⟩
  · rintro ⟨inner, found, visible, note⟩
    exact ⟨_, ⟨found, Folder.open_raw.2 visible⟩, inner, rfl, note⟩

theorem notes_ordered (d : Directory) : d.notes.Pairwise (· < ·) := by
  have distinct : (d.root.walk.filterMap Folder.notePath?).Nodup := by
    refine (Folder.walk_nodup d.distinct).filterMap ?_
    intro way way' path found found'
    obtain ⟨inner, rfl, -, rfl⟩ := Folder.notePath?_eq_some_iff.1 found
    obtain ⟨inner', rfl, -, same⟩ := Folder.notePath?_eq_some_iff.1 found'
    rw [Location.relativePath_injective same]
  have ordered := Vault.mergeSort_ordered id (by rwa [List.map_id])
  rwa [List.map_id] at ordered

/-- The names on the way to a note are told by its path. -/
theorem mem_notes_iff_existsUnique {d : Directory} {path : NotePath} : path ∈ d.notes ↔
    ∃! way, d.root.HasFile way ∧ Folder.Open way ∧
      ∃ names, way.mapM RawName.text? = some names ∧ path = "/".intercalate names ∧ Vault.isNotePath path := by
  rw [mem_notes_iff]
  constructor
  · rintro ⟨inner, found, visible, note, rfl⟩
    refine ⟨inner.map Name.raw, ⟨found, Folder.open_raw.2 visible, inner.map Name.text, ?_, rfl, note⟩, ?_⟩
    · exact Folder.mapM_text?_eq_some_iff.2 ⟨inner, rfl, rfl⟩
    · rintro _ ⟨-, -, _, read, same, -⟩
      obtain ⟨other, rfl, rfl⟩ := Folder.mapM_text?_eq_some_iff.1 read
      rw [Location.relativePath_injective same]
  · rintro ⟨_, ⟨found, visible, _, read, rfl, note⟩, -⟩
    obtain ⟨inner, rfl, rfl⟩ := Folder.mapM_text?_eq_some_iff.1 read
    exact ⟨inner, found, Folder.open_raw.1 visible, note, rfl⟩

/-- What hidden folders hold, and what is no file, makes no difference. -/
theorem notes_congr {d d' : Directory} (same : ∀ way, Folder.Open way → (d.root.HasFile way ↔ d'.root.HasFile way)) :
    d.notes = d'.notes := by
  refine List.Pairwise.eq_of_mem_iff d.notes_ordered d'.notes_ordered fun path => ?_
  rw [mem_notes_iff, mem_notes_iff]
  refine exists_congr fun inner => ?_
  rw [and_left_comm, and_left_comm (a := d'.root.HasFile _)]
  exact and_congr_right fun visible => and_congr_left fun _ => same _ (Folder.open_raw.2 visible)

end Directory

/-! ## File trees -/

namespace Folder

/-- The entries of a folder, where the folders in it are filled by their names. -/
def ofEntries (inside : Name → Folder) : List (Name × Entry) → Folder
  | [] => .empty
  | (name, .file _) :: rest => .file name.raw (ofEntries inside rest)
  | (name, .folder) :: rest => .folder name.raw (inside name) (ofEntries inside rest)

variable {inside : Name → Folder} {entries : List (Name × Entry)}

theorem names_ofEntries : (ofEntries inside entries).names = (entries.map Prod.fst).map Name.raw := by
  induction entries with
  | nil => rfl
  | cons entry rest ih =>
    obtain ⟨name, e⟩ := entry
    cases e <;> exact congrArg (List.cons name.raw) ih

theorem distinct_ofEntries (within : ∀ name, (inside name).Distinct) (distinct : (entries.map Prod.fst).Nodup) :
    (ofEntries inside entries).Distinct := by
  induction entries with
  | nil => trivial
  | cons entry rest ih =>
    obtain ⟨name, e⟩ := entry
    rw [List.map_cons, List.nodup_cons] at distinct
    obtain ⟨fresh, distinct⟩ := distinct
    have apart : name.raw ∉ (ofEntries inside rest).names := by
      rw [names_ofEntries, List.mem_map]
      rintro ⟨other, member, same⟩
      exact fresh (Name.raw_injective same ▸ member)
    cases e with
    | file content => exact ⟨apart, ih distinct⟩
    | folder => exact ⟨apart, within name, ih distinct⟩

theorem hasFile_ofEntries {way : List RawName} : (ofEntries inside entries).HasFile way ↔
    (∃ name content, (name, .file content) ∈ entries ∧ way = [name.raw]) ∨
    ∃ name rest, (name, .folder) ∈ entries ∧ way = name.raw :: rest ∧ (inside name).HasFile rest := by
  induction entries with
  | nil => simp [ofEntries, HasFile]
  | cons entry rest ih =>
    obtain ⟨name, e⟩ := entry
    cases e with
    | file content =>
      rw [ofEntries, HasFile, ih]
      simp only [List.mem_cons, Prod.mk.injEq, Entry.file.injEq, reduceCtorEq, and_false, false_or, or_and_right, exists_or]
      grind
    | folder =>
      rw [ofEntries, HasFile, ih]
      simp only [List.mem_cons, Prod.mk.injEq, reduceCtorEq, and_false, false_or, and_true, or_and_right, exists_or]
      grind

end Folder

namespace FileTree

/-- The name of an entry that stands right in a folder. -/
def entryIn? (l : Location) (entry : Location × Entry) : Option (Name × Entry) :=
  match l.isPrefixOf? entry.1 with
  | some [name] => some (name, entry.2)
  | _ => none

/-- The folder at a location, as deep as said. -/
def folderAt (t : FileTree) : Nat → Location → Folder
  | 0, _ => .empty
  | depth + 1, l => .ofEntries (fun name => t.folderAt depth (l ++ [name])) (t.entries.filterMap (entryIn? l))

/-- The number of all names in all locations, within which everything stands. -/
def depth (t : FileTree) : Nat := (t.entries.flatMap Prod.fst).length

variable {t : FileTree} {l : Location}

theorem entryIn?_eq_some_iff {entry : Location × Entry} {name : Name} {e : Entry} :
    entryIn? l entry = some (name, e) ↔ entry = (l ++ [name], e) := by
  obtain ⟨k, e'⟩ := entry
  have below : l.isPrefixOf? k = some [name] ↔ l ++ [name] = k := List.isPrefixOf?_eq_some_iff_append_eq
  rw [entryIn?, Prod.mk.injEq, eq_comm (a := k), ← below]
  split
  · next other found => simp_all
  · next none => simp_all

theorem mem_entriesIn_iff {name : Name} {e : Entry} :
    (name, e) ∈ t.entries.filterMap (entryIn? l) ↔ t.find? (l ++ [name]) = some e := by
  simp only [List.mem_filterMap, entryIn?_eq_some_iff, exists_eq_right]
  rw [mem_entries_iff]
  simp

theorem entriesIn_nodup (t : FileTree) (l : Location) : ((t.entries.filterMap (entryIn? l)).map Prod.fst).Nodup := by
  have distinct := t.nodup
  rw [List.Nodup, List.pairwise_map] at *
  refine List.Pairwise.filterMap _ ?_ distinct
  rintro a b differ ⟨name, e⟩ found ⟨name', e'⟩ found' same
  rw [entryIn?_eq_some_iff.1 found, entryIn?_eq_some_iff.1 found'] at differ
  exact differ (congrArg (fun name => l ++ [name]) same)

theorem folderAt_distinct (t : FileTree) (depth : Nat) (l : Location) : (t.folderAt depth l).Distinct := by
  induction depth generalizing l with
  | zero => trivial
  | succ depth ih => exact Folder.distinct_ofEntries (fun name => ih (l ++ [name])) (t.entriesIn_nodup l)

/-- The folder at a location. -/
def directory (t : FileTree) (l : Location) : Directory := ⟨t.folderAt t.depth l, t.folderAt_distinct t.depth l⟩

theorem hasFile_folderAt_iff {depth : Nat} {inner : Location} : (t.folderAt depth l).HasFile (inner.map Name.raw) ↔
    inner ≠ [] ∧ inner.length ≤ depth ∧ ∃ content, t.find? (l ++ inner) = some (.file content) := by
  induction depth generalizing l inner with
  | zero =>
    refine iff_of_false id ?_
    rintro ⟨named, short, -⟩
    exact named (List.length_eq_zero_iff.1 (Nat.le_zero.1 short))
  | succ depth ih =>
    rw [folderAt, Folder.hasFile_ofEntries]
    simp only [mem_entriesIn_iff]
    cases inner with
    | nil => simp
    | cons first rest =>
      have longer : l ++ first :: rest = l ++ [first] ++ rest := by simp
      rw [longer]
      simp only [List.map_cons, List.cons.injEq]
      constructor
      · rintro (⟨name, content, stands, same, last⟩ | ⟨name, way, -, ⟨same, rfl⟩, found⟩)
        · obtain rfl := Name.raw_injective same
          rw [List.map_eq_nil_iff.1 last]
          exact ⟨by simp, by simp, content, by simpa using stands⟩
        · obtain rfl := Name.raw_injective same
          obtain ⟨-, short, file⟩ := ih.1 found
          exact ⟨by simp, Nat.succ_le_succ short, file⟩
      · rintro ⟨-, short, content, stands⟩
        by_cases last : rest = []
        · rw [last, List.append_nil] at stands
          exact .inl ⟨first, content, stands, rfl, by rw [last]; rfl⟩
        · -- The file stands in a folder, and so that folder is among the entries.
          have inside : l ++ [first] <+: (l ++ [first] ++ rest).dropLast := by
            rw [List.dropLast_append_of_ne_nil last]
            exact List.prefix_append _ _
          refine .inr ⟨first, rest.map Name.raw, find?_above (find?_dropLast stands) inside, ⟨rfl, rfl⟩, ?_⟩
          exact ih.2 ⟨last, Nat.le_of_succ_le_succ short, content, stands⟩

theorem length_le_depth {k : Location} {e : Entry} (stands : t.find? k = some e) : k.length ≤ t.depth := by
  by_cases top : k = []
  · rw [top]
    exact Nat.zero_le _
  · have member : (k, e) ∈ t.entries := mem_entries_iff.2 ⟨top, stands⟩
    exact (List.sublist_flatten_of_mem (List.mem_map_of_mem (f := Prod.fst) member)).length_le

/-- The folder at a location has the files that stand below. -/
theorem hasFile_directory_iff {inner : Location} : (t.directory l).root.HasFile (inner.map Name.raw) ↔
    inner ≠ [] ∧ ∃ content, t.find? (l ++ inner) = some (.file content) := by
  rw [directory, hasFile_folderAt_iff]
  refine and_congr_right fun _ => and_iff_right_of_imp ?_
  rintro ⟨content, stands⟩
  have short := length_le_depth stands
  rw [List.length_append] at short
  exact Nat.le_of_add_left_le short

end FileTree

/-- A file tree has the notes of its directory. -/
theorem Vault.notes_eq_directory (t : FileTree) (v : Vault) : notes t v = (t.directory v.location).notes := by
  refine List.Pairwise.eq_of_mem_iff (noteFiles_ordered t v) (Directory.notes_ordered _) fun path => ?_
  rw [Directory.mem_notes_iff, notes, List.mem_map]
  constructor
  · rintro ⟨file, member, rfl⟩
    obtain ⟨inner, content, stands, note, visible, rfl⟩ := mem_noteFiles_iff.1 member
    have named : inner ≠ [] := by
      rintro rfl
      exact absurd note (by decide)
    exact ⟨inner, FileTree.hasFile_directory_iff.2 ⟨named, content, stands⟩, by simpa using visible, note, rfl⟩
  · rintro ⟨inner, found, visible, note, rfl⟩
    obtain ⟨-, content, stands⟩ := FileTree.hasFile_directory_iff.1 found
    refine ⟨(Location.relativePath inner, content), mem_noteFiles_iff.2 ⟨inner, content, stands, note, ?_, rfl⟩, rfl⟩
    simpa using visible

/-- The notes of a directory are its Markdown files that no hidden folder holds, each of them once, in the order of the bytes of
    their paths; what else there is has no part in it. A file tree has the notes of the directory with the same files. -/
theorem Directory.notes_listed (d : Directory) :
    d.notes.Pairwise (fun p q => Text.utf8 p < Text.utf8 q) ∧
    (∀ path, path ∈ d.notes ↔ ∃! way, d.root.HasFile way ∧ Folder.Open way ∧
      ∃ names, way.mapM RawName.text? = some names ∧ path = "/".intercalate names ∧ Vault.isNotePath path) ∧
    (∀ d' : Directory, (∀ way, Folder.Open way → (d.root.HasFile way ↔ d'.root.HasFile way)) → d.notes = d'.notes) ∧
    ∀ t v, t.directory v.location = d → Vault.notes t v = d.notes ∧ ∀ inner : Location, d.root.HasFile (inner.map Name.raw) ↔
      inner ≠ [] ∧ ∃ content, t.find? (v.location ++ inner) = some (.file content) := by
  refine ⟨d.notes_ordered.imp Text.utf8_lt_iff.2, fun path => mem_notes_iff_existsUnique, fun d' => notes_congr, ?_⟩
  rintro t v rfl
  exact ⟨Vault.notes_eq_directory t v, fun inner => FileTree.hasFile_directory_iff⟩

/-- A shelf with a folder and a note whose name begins like that of the folder, a hidden folder, and a name that is no text. -/
def Folder.shelf (trash : Folder) : Folder :=
  .folder (Name.raw ⟨"Dune", by decide⟩)
    (.file (Name.raw ⟨"quotes.md", by decide⟩) (.file (Name.raw ⟨".plan.md", by decide⟩) .empty))
  (.file (Name.raw ⟨"Dune 2.md", by decide⟩)
  (.folder (Name.raw ⟨".trash", by decide⟩) trash
  (.file ⟨[0xFF, 0x2E, 0x6D, 0x64], by decide⟩ .empty)))

/-- The shelf with a note in its hidden folder. -/
def Directory.shelf : Directory := ⟨.shelf (.file (Name.raw ⟨"old.md", by decide⟩) .empty), by decide +kernel⟩

/-- The shelf with nothing in its hidden folder. -/
def Directory.clearedShelf : Directory := ⟨.shelf .empty, by decide +kernel⟩

/-- The walk comes to a folder before the note beside it, whose path is smaller: a space is before a slash. The note in the hidden
folder and the file whose name is no text are not listed, and all else is as it is without that note. -/
theorem Directory.notes_listed_shelf :
    shelf.root.walk.filterMap Folder.notePath? = ["Dune/quotes.md", "Dune/.plan.md", "Dune 2.md"] ∧
    shelf.notes = ["Dune 2.md", "Dune/.plan.md", "Dune/quotes.md"] ∧ clearedShelf.notes = shelf.notes := by
  have walked : shelf.root.walk.filterMap Folder.notePath? = ["Dune/quotes.md", "Dune/.plan.md", "Dune 2.md"] := by
    decide +kernel
  have apart : ∀ way ∈ shelf.root.walk, ∀ other ∈ shelf.root.walk, (Folder.notePath? way).isSome →
      Folder.notePath? other = Folder.notePath? way → other = way := by
    decide +kernel
  have bare : shelf.root.walk = clearedShelf.root.walk := by decide +kernel
  obtain ⟨ordered, listed, same, -⟩ := notes_listed shelf
  simp only [← Folder.notePath?_eq_some_iff_names] at listed
  simp only [← and_assoc, ← Folder.mem_walk_iff] at listed
  have members (path : NotePath) : path ∈ shelf.notes ↔ path ∈ ["Dune/quotes.md", "Dune/.plan.md", "Dune 2.md"].reverse := by
    rw [listed, List.mem_reverse, ← walked, List.mem_filterMap]
    constructor
    · rintro ⟨way, found, -⟩
      exact ⟨way, found⟩
    · rintro ⟨way, member, told⟩
      refine ⟨way, ⟨member, told⟩, fun other ⟨member', told'⟩ => ?_⟩
      exact apart way member other member' (Option.isSome_of_mem told) (told'.trans told.symm)
  refine ⟨walked, ?_, (same clearedShelf fun way visible => ?_).symm⟩
  · exact List.Pairwise.eq_of_mem_iff (ordered.imp Text.utf8_lt_iff.1) (by decide +kernel) members
  · have stands (f : Folder) : f.HasFile way ↔ way ∈ f.walk := by simp [Folder.mem_walk_iff, visible]
    rw [stands, stands, bare]

end ReadingLog
