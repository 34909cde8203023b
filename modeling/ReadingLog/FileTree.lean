import ReadingLog.Location
import ReadingLog.Error

/-!
# File trees

The files and folders that a command works on. Every entry stands in a folder, so looking a location up says all there is to
know: `FileTree.find?` is the view, and one equation for each change says what it does to it.
-/

namespace ReadingLog

/-- What a file holds. -/
inductive Content where
  | text (text : String)
  /-- Bytes that are no UTF-8. -/
  | binary (bytes : List UInt8)
  deriving DecidableEq, Repr

/-- What stands at a location. -/
inductive Entry where
  | folder
  | file (content : Content)
  deriving DecidableEq, Repr

/-- Entries at different locations, each of them in a folder. The top is a folder without an entry of its own. -/
structure FileTree where
  entries : List (Location × Entry)
  nodup : (entries.map Prod.fst).Nodup
  rooted : ∀ l ∈ entries.map Prod.fst, l ≠ [] ∧ (l.dropLast = [] ∨ entries.lookup l.dropLast = some .folder)

namespace FileTree

/-- What stands at a location. -/
def find? (t : FileTree) (l : Location) : Option Entry := if l = [] then some .folder else t.entries.lookup l

/-- The tree with nothing in it. -/
def empty : FileTree := ⟨[], List.nodup_nil, by simp⟩

instance : EmptyCollection FileTree := ⟨empty⟩
instance : Inhabited FileTree := ⟨empty⟩

@[simp] theorem find?_top (t : FileTree) : t.find? [] = some .folder := rfl

/-! ## Look-up in lists of entries -/

theorem lookup_filter (p : Location → Bool) (entries : List (Location × Entry)) (l : Location) :
    (entries.filter fun e => p e.1).lookup l = if p l then entries.lookup l else none := by
  induction entries with
  | nil => simp
  | cons e rest ih =>
    obtain ⟨k, e⟩ := e
    by_cases hk : p k <;> by_cases hl : l = k <;> grind

theorem lookup_isSome_iff (entries : List (Location × Entry)) (l : Location) :
    (entries.lookup l).isSome ↔ l ∈ entries.map Prod.fst := by
  induction entries with
  | nil => simp
  | cons e rest ih =>
    obtain ⟨k, e⟩ := e
    by_cases h : l = k <;> grind

theorem lookup_replaced (entries : List (Location × Entry)) (l k : Location) (e : Entry) :
    ((l, e) :: entries.filter fun entry => decide (entry.1 ≠ l)).lookup k = if k = l then some e else entries.lookup k := by
  by_cases h : k = l
  · simp [h]
  · have : (k == l) = false := by simpa using h
    rw [List.lookup_cons, lookup_filter (fun k => decide (k ≠ l)), this]
    simp [h]

/-! ## Changes -/

/-- An entry can be put at a location: its folder is there, and no folder is lost by it. -/
def CanPut (t : FileTree) (l : Location) (e : Entry) : Prop :=
  l ≠ [] ∧ t.find? l.dropLast = some .folder ∧ (t.find? l = some .folder → e = .folder)

instance (t : FileTree) (l : Location) (e : Entry) : Decidable (t.CanPut l e) :=
  inferInstanceAs (Decidable (_ ∧ _ ∧ (_ → _)))

theorem dropLast_ne_self {l : Location} (h : l ≠ []) : l.dropLast ≠ l := by
  intro same
  have := congrArg List.length same
  have := List.length_pos_iff.2 h
  rw [List.length_dropLast] at *
  omega

/-- The tree with an entry at a location, in the place of any file there. -/
def put (t : FileTree) (l : Location) (e : Entry) (h : t.CanPut l e) : FileTree where
  entries := (l, e) :: t.entries.filter fun entry => decide (entry.1 ≠ l)
  nodup := by
    have kept := (t.nodup.sublist (List.filter_sublist.map Prod.fst :
      ((t.entries.filter fun entry => decide (entry.1 ≠ l)).map Prod.fst).Sublist _))
    simp only [List.map_cons, List.nodup_cons]
    exact ⟨by simp, kept⟩
  rooted := by
    obtain ⟨proper, parent, keeps⟩ := h
    intro k mem
    rw [lookup_replaced]
    simp only [List.map_cons, List.mem_cons] at mem
    rcases mem with rfl | mem
    · refine ⟨proper, ?_⟩
      by_cases top : k.dropLast = []
      · exact .inl top
      · rw [if_neg (dropLast_ne_self proper)]
        simp only [find?, if_neg top] at parent
        exact .inr parent
    · simp only [List.mem_map, List.mem_filter] at mem
      obtain ⟨entry, ⟨inside, -⟩, rfl⟩ := mem
      obtain ⟨ne, stands⟩ := t.rooted entry.1 (List.mem_map_of_mem inside)
      refine ⟨ne, stands.imp_right fun stands => ?_⟩
      split
      · next same =>
        rw [keeps]
        simp only [find?, if_neg proper]
        rw [← same]
        exact stands
      · exact stands

@[simp] theorem find?_put (t : FileTree) (l : Location) (e : Entry) (h : t.CanPut l e) (k : Location) :
    (t.put l e h).find? k = if k = l then some e else t.find? k := by
  simp only [find?, put]
  by_cases top : k = []
  · simp [top, h.1.symm]
  · simp only [if_neg top, lookup_replaced]

/-- The tree without a location and all that stands below it; the top stays. -/
def remove (t : FileTree) (l : Location) : FileTree where
  entries := t.entries.filter fun entry => !l.isPrefixOf entry.1
  nodup := t.nodup.sublist (List.filter_sublist.map Prod.fst)
  rooted := by
    intro k mem
    simp only [List.mem_map, List.mem_filter, Bool.not_eq_true'] at mem
    obtain ⟨entry, ⟨inside, kept⟩, rfl⟩ := mem
    obtain ⟨ne, stands⟩ := t.rooted entry.1 (List.mem_map_of_mem inside)
    refine ⟨ne, stands.imp_right fun stands => ?_⟩
    rw [lookup_filter (fun k => !l.isPrefixOf k), if_pos, stands]
    simp only [Bool.not_eq_true', Bool.eq_false_iff, ne_eq, List.isPrefixOf_iff_prefix] at kept ⊢
    exact fun above => kept (above.trans (List.dropLast_prefix _))

@[simp] theorem find?_remove (t : FileTree) (l k : Location) :
    (t.remove l).find? k = if k ≠ [] ∧ l <+: k then none else t.find? k := by
  simp only [find?, remove]
  by_cases top : k = []
  · simp [top]
  · rw [if_neg top, if_neg top, lookup_filter (fun k => !l.isPrefixOf k)]
    by_cases above : l <+: k
    · simp [top, above, List.isPrefixOf_iff_prefix.2 above]
    · have : l.isPrefixOf k = false := by
        rw [Bool.eq_false_iff, ne_eq, List.isPrefixOf_iff_prefix]; exact above
      simp [above, this]

/-! ## Operations that can fail -/

/-- Why nothing stands at a location: a file stands where a folder should be on the way, or nothing does. -/
def absence (t : FileTree) (l : Location) : StorageFault :=
  if (List.range l.length).any fun n => (t.find? (l.take n)).any (· matches .file _) then .notFolder else .missing

/-- What stands at a location, or why nothing does. -/
def stat (t : FileTree) (l : Location) : Except StorageFault Entry :=
  match t.find? l with
  | some e => .ok e
  | none => .error (t.absence l)

/-- Something stands at a location. -/
def holds (t : FileTree) (l : Location) : Bool := (t.find? l).isSome

/-- A folder stands at a location. -/
def isFolder (t : FileTree) (l : Location) : Bool := t.find? l = some .folder

/-- The location that the parts of a path lead to. Each part, `..` too, leads on only from a folder that is there. -/
def walk? (t : FileTree) : Location → List Text → Option Location
  | l, [] => some l
  | l, part :: parts => if t.isFolder l then t.walk? (l.follow part) parts else none

/-- The text of a file. -/
def readText (t : FileTree) (l : Location) : Except StorageFault String :=
  match t.stat l with
  | .ok (.file (.text s)) => .ok s
  | .ok (.file (.binary _)) => .error .notText
  | .ok .folder => .error .isFolder
  | .error fault => .error fault

/-- The tree with an entry put at a location whose folder is there. -/
def place (t : FileTree) (l : Location) (e : Entry) : Except StorageFault FileTree :=
  if h : t.CanPut l e then .ok (t.put l e h)
  else if t.isFolder l then .error .isFolder
  else .error (t.absence l)

/-- The tree with a file at a location, in the place of any file there. -/
def writeFile (t : FileTree) (l : Location) (content : Content) : Except StorageFault FileTree := t.place l (.file content)

/-- The tree with a new folder. -/
def createFolder (t : FileTree) (l : Location) : Except StorageFault FileTree :=
  if t.holds l then .error .present else t.place l .folder

/-- The tree with all folders on the way from `base` along some names. -/
def createFolders (t : FileTree) (base : Location) : List Name → Except StorageFault FileTree
  | [] => .ok t
  | name :: rest =>
    match t.find? (base ++ [name]) with
    | some .folder => t.createFolders (base ++ [name]) rest
    | some (.file _) => .error (if rest = [] then .present else .notFolder)
    | none =>
      match t.createFolder (base ++ [name]) with
      | .ok t => t.createFolders (base ++ [name]) rest
      | .error fault => .error fault

end FileTree
end ReadingLog
