import Mathlib.Data.List.Induction
import ReadingLog.FileTree

/-!
# What file operations do

Each operation on a tree either fails or changes what stands at one location. Folders on the way to a location are made
where nothing stands, and what stood before stays.
-/

namespace ReadingLog.FileTree

variable {t t' : FileTree} {l k : Location} {e : Entry}

/-- The entries are what stands below the top. -/
theorem mem_entries_iff : (l, e) ∈ t.entries ↔ l ≠ [] ∧ t.find? l = some e := by
  constructor
  · intro member
    have below : l ≠ [] := (t.rooted l (List.mem_map_of_mem member)).1
    obtain ⟨earlier, later, split⟩ := List.append_of_mem member
    have distinct := t.nodup
    rw [split, List.map_append, List.map_cons] at distinct
    have first : ∀ entry ∈ earlier, l ≠ entry.1 := fun entry inside =>
      ((List.nodup_append.1 distinct).2.2 _ (List.mem_map_of_mem inside) _ List.mem_cons_self).symm
    refine ⟨below, ?_⟩
    rw [find?, if_neg below, List.lookup_eq_some_iff]
    exact ⟨earlier, later, split, fun entry inside => bne_iff_ne.2 (first entry inside)⟩
  · rintro ⟨below, stands⟩
    rw [find?, if_neg below, List.lookup_eq_some_iff] at stands
    obtain ⟨earlier, later, split, -⟩ := stands
    rw [split]
    exact List.mem_append_right _ List.mem_cons_self

/-- Whatever stands somewhere stands in a folder. -/
theorem find?_dropLast (stands : t.find? l = some e) : t.find? l.dropLast = some .folder := by
  by_cases top : l = []
  · rw [top]
    rfl
  rw [find?, if_neg top] at stands
  have member : l ∈ t.entries.map Prod.fst := (lookup_isSome_iff _ _).1 (by rw [stands]; rfl)
  rw [find?]
  split
  · rfl
  · next inner => exact (t.rooted l member).2.resolve_left inner

theorem find?_above (stands : t.find? l = some .folder) (above : k <+: l) : t.find? k = some .folder := by
  induction l using List.reverseRecOn with
  | nil => rwa [List.prefix_nil.1 above]
  | append_singleton l name ih =>
    rcases List.prefix_concat_iff.1 above with rfl | above
    · exact stands
    · refine ih ?_ above
      have folder := find?_dropLast stands
      rwa [List.dropLast_concat] at folder

theorem find?_concat_of_absent (absent : t.find? l = none) (name : Name) : t.find? (l ++ [name]) = none := by
  cases stands : t.find? (l ++ [name]) with
  | none => rfl
  | some e =>
    have folder := find?_dropLast stands
    rw [List.dropLast_concat, absent] at folder
    contradiction

/-- Whatever stands in one tree stands in another. -/
def Keeps (t t' : FileTree) : Prop := ∀ k e, t.find? k = some e → t'.find? k = some e

theorem Keeps.refl (t : FileTree) : t.Keeps t := fun _ _ stands => stands

theorem Keeps.trans {t'' : FileTree} (first : t.Keeps t') (second : t'.Keeps t'') : t.Keeps t'' :=
  fun k e stands => second k e (first k e stands)

/-- One tree is another with an entry at a location. -/
def Puts (t : FileTree) (l : Location) (e : Entry) (t' : FileTree) : Prop :=
  ∀ k, t'.find? k = if k = l then some e else t.find? k

theorem Puts.here (puts : t.Puts l e t') : t'.find? l = some e := by rw [puts, if_pos rfl]

theorem Puts.elsewhere (puts : t.Puts l e t') (other : k ≠ l) : t'.find? k = t.find? k := by rw [puts, if_neg other]

theorem Puts.keeps (puts : t.Puts l e t') (absent : t.find? l = none) : t.Keeps t' := by
  intro k entry stands
  rwa [puts.elsewhere]
  rintro rfl
  rw [absent] at stands
  contradiction

theorem place_of_canPut (can : t.CanPut l e) : ∃ t', t.place l e = .ok t' ∧ t.Puts l e t' :=
  ⟨t.put l e can, dif_pos can, t.find?_put l e can⟩

theorem place_eq_ok (placed : t.place l e = .ok t') : t.CanPut l e ∧ t.Puts l e t' := by
  unfold place at placed
  split at placed
  · next can =>
    obtain rfl := Except.ok.inj placed
    exact ⟨can, t.find?_put l e can⟩
  · split at placed <;> contradiction

theorem holds_iff : t.holds l ↔ ∃ e, t.find? l = some e := Option.isSome_iff_exists

theorem not_holds_iff : ¬ t.holds l ↔ t.find? l = none := by rw [holds, Option.not_isSome_iff_eq_none]

theorem createFolder_of_absent (absent : t.find? l = none) (parent : t.find? l.dropLast = some .folder) :
    ∃ t', t.createFolder l = .ok t' ∧ t.Puts l .folder t' := by
  have proper : l ≠ [] := by
    rintro rfl
    contradiction
  rw [createFolder, if_neg (not_holds_iff.2 absent)]
  exact place_of_canPut ⟨proper, parent, fun _ => rfl⟩

theorem createFolder_eq_ok (created : t.createFolder l = .ok t') :
    t.find? l = none ∧ t.find? l.dropLast = some .folder ∧ t.Puts l .folder t' := by
  unfold createFolder at created
  split at created
  · contradiction
  · next absent =>
    obtain ⟨can, puts⟩ := place_eq_ok created
    exact ⟨not_holds_iff.1 absent, can.2.1, puts⟩

theorem writeFile_of_no_folder {content : Content} (parent : t.find? l.dropLast = some .folder)
    (no_folder : t.find? l ≠ some .folder) : ∃ t', t.writeFile l content = .ok t' ∧ t.Puts l (.file content) t' := by
  have proper : l ≠ [] := by
    rintro rfl
    exact no_folder rfl
  exact place_of_canPut ⟨proper, parent, fun folder => absurd folder no_folder⟩

theorem writeFile_eq_ok {content : Content} (written : t.writeFile l content = .ok t') :
    t.find? l.dropLast = some .folder ∧ t.find? l ≠ some .folder ∧ t.Puts l (.file content) t' := by
  obtain ⟨⟨-, parent, keeps⟩, puts⟩ := place_eq_ok written
  exact ⟨parent, fun folder => Entry.noConfusion (keeps folder), puts⟩

theorem readText_eq_ok_iff {text : String} : t.readText l = .ok text ↔ t.find? l = some (.file (.text text)) := by
  unfold readText stat
  cases t.find? l with
  | none => simp
  | some e =>
    cases e with
    | folder => simp
    | file content => cases content <;> simp

/-! ## Why nothing stands somewhere -/

/-- A file stands where a folder would be on the way to a location. -/
def Blocked (t : FileTree) (l : Location) : Prop := ∃ k content, k <+: l ∧ k ≠ l ∧ t.find? k = some (.file content)

theorem blocked_iff : t.Blocked l ↔
    ((List.range l.length).any fun n => (t.find? (l.take n)).any (· matches .file _)) = true := by
  simp only [List.any_eq_true, List.mem_range, Option.any_eq_true]
  constructor
  · rintro ⟨k, content, ⟨rest, rfl⟩, proper, stands⟩
    have named : rest ≠ [] := fun none => proper (by rw [none, List.append_nil])
    refine ⟨k.length, ?_, .file content, by rwa [List.take_left], rfl⟩
    rw [List.length_append]
    exact Nat.lt_add_of_pos_right (List.length_pos_iff.2 named)
  · rintro ⟨n, inside, e, stands, is_file⟩
    cases e with
    | folder => cases is_file
    | file content =>
      refine ⟨l.take n, content, List.take_prefix n l, fun same => ?_, stands⟩
      have length := congrArg List.length same
      rw [List.length_take_of_le (Nat.le_of_lt inside)] at length
      omega

theorem absence_of_blocked (blocked : t.Blocked l) : t.absence l = .notFolder := if_pos (blocked_iff.1 blocked)

theorem absence_of_clear (clear : ¬ t.Blocked l) : t.absence l = .missing := if_neg fun any => clear (blocked_iff.2 any)

theorem find?_of_blocked (blocked : t.Blocked l) : t.find? l = none := by
  obtain ⟨k, content, above, proper, file⟩ := blocked
  cases stands : t.find? l with
  | none => rfl
  | some e =>
    cases l using List.reverseRecOn with
    | nil => exact absurd (List.prefix_nil.1 above) proper
    | append_singleton init name =>
      have folder := find?_dropLast stands
      rw [List.dropLast_concat] at folder
      have within : k <+: init := (List.prefix_concat_iff.1 above).resolve_left proper
      rw [find?_above folder within] at file
      cases file

/-- A text cannot be read where a folder or a file with no text stands, or where nothing does. -/
theorem readText_eq_error_iff {fault : StorageFault} : t.readText l = .error fault ↔
    t.find? l = some .folder ∧ fault = .isFolder ∨
    (∃ bytes, t.find? l = some (.file (.binary bytes))) ∧ fault = .notText ∨
    t.find? l = none ∧ fault = t.absence l := by
  unfold readText stat
  cases t.find? l with
  | none => simp [eq_comm]
  | some e =>
    cases e with
    | folder => simp [eq_comm]
    | file content => cases content <;> simp [eq_comm]

/-! ## Folders on the way -/

/-- One tree is another with a folder wherever nothing stood on the way to a location. -/
structure MakesWay (t : FileTree) (l : Location) (t' : FileTree) : Prop where
  keeps : t.Keeps t'
  makes : ∀ k, t.find? k = none → t'.find? k = if k <+: l then some .folder else none

theorem makesWay_of_createFolders {base : Location} {names : List Name} (stands : t.find? base = some .folder)
    (created : t.createFolders base names = .ok t') : t.MakesWay (base ++ names) t' := by
  -- Along the names, each folder on the way is the base of the next one.
  induction names generalizing t base with
  | nil =>
    obtain rfl := Except.ok.inj created
    refine ⟨.refl t, fun k absent => ?_⟩
    rw [List.append_nil, absent, if_neg]
    intro above
    rw [find?_above stands above] at absent
    contradiction
  | cons name rest ih =>
    have longer : base ++ name :: rest = base ++ [name] ++ rest := by simp
    rw [longer]
    rw [createFolders] at created
    split at created
    · next folder => exact ih folder created
    · contradiction
    · next absent =>
      split at created
      · next t₁ made =>
        obtain ⟨-, -, puts⟩ := createFolder_eq_ok made
        obtain ⟨keeps, makes⟩ := ih puts.here created
        refine ⟨(puts.keeps absent).trans keeps, fun k missing => ?_⟩
        by_cases here : k = base ++ [name]
        · rw [here, keeps _ _ puts.here, if_pos (List.prefix_append _ _)]
        · exact makes k (by rw [puts.elsewhere here, missing])
      · contradiction

/-- In an empty folder, nothing keeps folders from being made. -/
theorem createFolders_of_bare {base : Location} (stands : t.find? base = some .folder)
    (bare : ∀ name, t.find? (base ++ [name]) = none) (names : List Name) : ∃ t', t.createFolders base names = .ok t' := by
  induction names generalizing t base with
  | nil => exact ⟨t, rfl⟩
  | cons name rest ih =>
    obtain ⟨t₁, made, puts⟩ := createFolder_of_absent (bare name) (by rwa [List.dropLast_concat])
    rw [createFolders, bare name]
    simp only [made]
    refine ih puts.here fun inner => ?_
    rw [puts.elsewhere (by simp), find?_concat_of_absent (bare name)]

/-- Where no file stands on the way, nothing keeps folders from being made. -/
theorem createFolders_of_clear {base : Location} {names : List Name} (stands : t.find? base = some .folder)
    (clear : ∀ k content, k <+: base ++ names → t.find? k ≠ some (.file content)) :
    ∃ t', t.createFolders base names = .ok t' := by
  induction names generalizing base with
  | nil => exact ⟨t, rfl⟩
  | cons name rest ih =>
    have longer : base ++ name :: rest = base ++ [name] ++ rest := by simp
    rw [longer] at clear
    rw [createFolders]
    cases next : t.find? (base ++ [name]) with
    | none =>
      -- Below the first folder that is made, the tree is empty.
      obtain ⟨t₁, made, puts⟩ := createFolder_of_absent next (by rwa [List.dropLast_concat])
      simp only [made]
      refine createFolders_of_bare puts.here (fun inner => ?_) rest
      rw [puts.elsewhere (by simp), find?_concat_of_absent next]
    | some e =>
      cases e with
      | folder => exact ih next clear
      | file content => exact absurd next (clear _ content (List.prefix_append _ _))

end ReadingLog.FileTree
