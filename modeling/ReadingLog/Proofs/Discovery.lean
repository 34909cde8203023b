import ReadingLog.Proofs.NoteFiles
import ReadingLog.Proofs.SavedSettings
import ReadingLog.Proofs.WrittenPaths

/-!
# Finding vaults

Of the vaults on the way along a path, the innermost is found: the one that the longest path above leads to. A path is
followed as it is written, so `..` ends in the folder that the path leaves, and no path above a relative one leaves the
working folder but by `..`.
-/

namespace ReadingLog

namespace FileTree

variable {t : FileTree} {base : Location} {names : List Name}

/-- Names lead down to where something stands, since folders stand all the way. -/
theorem walk?_names {e : Entry} (stands : t.find? (base ++ names) = some e) :
    t.walk? base (names.map (·.text.toList)) = some (base ++ names) := by
  induction names generalizing base with
  | nil => simp [walk?]
  | cons name names ih =>
    have folder : t.find? base = some .folder := by
      refine find?_above (find?_dropLast stands) ?_
      rw [List.dropLast_append_of_ne_nil (List.cons_ne_nil name names)]
      exact List.prefix_append ..
    have down : base ++ name :: names = base ++ [name] ++ names := by simp
    rw [down] at stands ⊢
    simp only [List.map_cons, walk?, isFolder, folder, decide_true, if_true, Location.follow_name]
    exact ih stands

theorem eq_of_walk?_names {l : Location} (leads : t.walk? base (names.map (·.text.toList)) = some l) : l = base ++ names := by
  induction names generalizing base with
  | nil => simpa [walk?, eq_comm] using leads
  | cons name names ih =>
    rw [List.map_cons, walk?] at leads
    split at leads
    · rw [Location.follow_name] at leads
      simpa using ih leads
    · contradiction

end FileTree

namespace Vault

variable {t : FileTree} {working : Location} {start : String} {p above between : WrittenPath} {v : Vault}

/-- A path leads to a vault: a folder that has a settings folder. -/
def LeadsTo (t : FileTree) (working : Location) (p : WrittenPath) (v : Vault) : Prop :=
  t.walk? (p.base working) p.parts = some v.location ∧ t.find? v.settingsFolder = some .folder ∧ v.shown = p.text

/-- Of the paths above another one, this is the longest that leads to a vault. -/
structure IsInnermost (t : FileTree) (working : Location) (p above : WrittenPath) (v : Vault) : Prop where
  isAbove : above.IsAbove p
  leadsTo : LeadsTo t working above v
  longest : ∀ other w, other.IsAbove p → LeadsTo t working other w → other.IsAbove above

theorem at?_eq_some_iff : at? t working above = some v ↔ LeadsTo t working above v := by
  unfold at? LeadsTo
  cases t.walk? (above.base working) above.parts with
  | none => simp
  | some l =>
    obtain ⟨location, shown⟩ := v
    simp only [isInitialized, FileTree.isFolder, decide_eq_true_eq, Option.ite_none_right_eq_some, Option.some.injEq,
      mk.injEq]
    constructor
    · rintro ⟨folder, rfl, rfl⟩
      exact ⟨rfl, folder, rfl⟩
    · rintro ⟨rfl, folder, rfl⟩
      exact ⟨folder, rfl, rfl⟩

theorem isInnermost_iff : IsInnermost t working p above v ↔ above.IsAbove p ∧ at? t working above = some v ∧
    ∀ other, other.IsAbove p → (at? t working other).isSome → other.IsAbove above := by
  simp only [Option.isSome_iff_exists, at?_eq_some_iff]
  constructor
  · rintro ⟨isAbove, leadsTo, longest⟩
    exact ⟨isAbove, leadsTo, fun other within ⟨w, leads⟩ => longest other w within leads⟩
  · rintro ⟨isAbove, leadsTo, longest⟩
    exact ⟨isAbove, leadsTo, fun other w within leads => longest other within ⟨w, leads⟩⟩

theorem discoverAlong_eq_ok_iff :
    discoverAlong t working start = .ok v ↔ ∃ above, IsInnermost t working (.ofString start) above v := by
  simp only [isInnermost_iff]
  rw [← WrittenPath.findSome?_upward_eq_some_iff, discoverAlong]
  cases (WrittenPath.ofString start).upward.findSome? (at? t working) <;> simp

theorem discoverAlong_eq_error_iff {e : Error} : discoverAlong t working start = .error e ↔
    e = .notVault start ∧ ∀ above v, above.IsAbove (.ofString start) → ¬ LeadsTo t working above v := by
  have nowhere : (WrittenPath.ofString start).upward.findSome? (at? t working) = none ↔
      ∀ above v, above.IsAbove (.ofString start) → ¬ LeadsTo t working above v := by
    rw [List.findSome?_eq_none_iff]
    simp only [WrittenPath.mem_upward_iff, Option.eq_none_iff_forall_ne_some, ne_eq, at?_eq_some_iff]
    exact forall_congr' fun _ => forall_comm
  rw [← nowhere, discoverAlong]
  cases (WrittenPath.ofString start).upward.findSome? (at? t working) <;> simp [eq_comm]

/-- What is innermost for a path is so for any path in between. -/
theorem IsInnermost.of_between (innermost : IsInnermost t working p above v) (below : above.IsAbove between)
    (within : between.IsAbove p) : IsInnermost t working between above v where
  isAbove := below
  leadsTo := innermost.leadsTo
  longest := fun other w shorter leads => innermost.longest other w (shorter.trans within) leads

theorem leadsTo_ofLocation_iff {l : Location} :
    LeadsTo t working (.ofLocation l) v ↔ v = standing l ∧ t.find? (standing l).settingsFolder = some .folder := by
  obtain ⟨location, shown⟩ := v
  simp only [LeadsTo, WrittenPath.text_ofLocation, standing, mk.injEq]
  constructor
  · rintro ⟨leads, folder, rfl⟩
    obtain rfl := FileTree.eq_of_walk?_names leads
    exact ⟨⟨rfl, rfl⟩, folder⟩
  · rintro ⟨⟨rfl, rfl⟩, folder⟩
    have stands : t.find? ([] ++ location) = some .folder := by
      have below := FileTree.find?_dropLast folder
      rwa [dropLast_settingsFolder] at below
    exact ⟨FileTree.walk?_names stands, folder, rfl⟩

/-- The paths above that of a location are those of the locations above it. -/
theorem isAbove_ofLocation_iff {l : Location} : above.IsAbove (.ofLocation l) ↔ ∃ k, k <+: l ∧ above = .ofLocation k := by
  obtain ⟨isAbsolute, parts⟩ := above
  simp only [WrittenPath.ofLocation, WrittenPath.isAbove_mk_iff, WrittenPath.mk.injEq, List.prefix_map_iff]
  constructor
  · rintro ⟨rfl, k, within, rfl⟩
    exact ⟨k, within, rfl, rfl⟩
  · rintro ⟨k, within, rfl, rfl⟩
    exact ⟨rfl, k, within, rfl⟩

theorem ofLocation_injective {k l : Location} (same : WrittenPath.ofLocation k = .ofLocation l) : k = l := by
  have paths := congrArg WrittenPath.text same
  rw [WrittenPath.text_ofLocation, WrittenPath.text_ofLocation] at paths
  exact Location.relativePath_injective (String.append_right_inj "/" |>.1 paths)

theorem isAbove_ofLocation {k l : Location} : (WrittenPath.ofLocation k).IsAbove (.ofLocation l) ↔ k <+: l := by
  rw [isAbove_ofLocation_iff]
  constructor
  · rintro ⟨k', within, same⟩
    rwa [ofLocation_injective same]
  · intro within
    exact ⟨k, within, rfl⟩

theorem discoverFrom_eq_ok_iff {l : Location} : discoverFrom t l = .ok v ↔
    ∃ k, k <+: l ∧ v = standing k ∧ t.find? v.settingsFolder = some .folder ∧
      ∀ k', k' <+: l → t.find? (standing k').settingsFolder = some .folder → k' <+: k := by
  rw [discoverFrom, discoverAlong_eq_ok_iff, WrittenPath.ofString_path]
  constructor
  · rintro ⟨above, within, leads, longest⟩
    obtain ⟨k, inside, rfl⟩ := isAbove_ofLocation_iff.1 within
    obtain ⟨rfl, folder⟩ := leadsTo_ofLocation_iff.1 leads
    refine ⟨k, inside, rfl, folder, fun k' inside' folder' => ?_⟩
    exact isAbove_ofLocation.1 (longest _ _ (isAbove_ofLocation.2 inside') (leadsTo_ofLocation_iff.2 ⟨rfl, folder'⟩))
  · rintro ⟨k, inside, rfl, folder, longest⟩
    refine ⟨.ofLocation k, isAbove_ofLocation.2 inside, leadsTo_ofLocation_iff.2 ⟨rfl, folder⟩, fun other w within leads => ?_⟩
    obtain ⟨k', inside', rfl⟩ := isAbove_ofLocation_iff.1 within
    exact isAbove_ofLocation.2 (longest k' inside' (leadsTo_ofLocation_iff.1 leads).2)

/-- The vault found is the innermost on the way, and none is found only if there is none. From the folder found, and from every
path between it and the start, the same is found. Of a location it is the innermost vault that holds it. -/
theorem discoverAlong_innermost (t : FileTree) (working : Location) (start : String) :
    (∀ v, discoverAlong t working start = .ok v ↔ ∃ above, IsInnermost t working (.ofString start) above v) ∧
    (∀ e, discoverAlong t working start = .error e ↔
      e = .notVault start ∧ ∀ above v, above.IsAbove (.ofString start) → ¬ LeadsTo t working above v) ∧
    (∀ above v, IsInnermost t working (.ofString start) above v →
      discoverAlong t working v.shown = .ok v ∧
      ∀ between : String, above.IsAbove (.ofString between) → WrittenPath.IsAbove (.ofString between) (.ofString start) →
        discoverAlong t working between = .ok v) ∧
    ∀ l v, discoverFrom t l = .ok v ↔ ∃ k, k <+: l ∧ v = standing k ∧ t.find? v.settingsFolder = some .folder ∧
      ∀ k', k' <+: l → t.find? (standing k').settingsFolder = some .folder → k' <+: k := by
  refine ⟨fun _ => discoverAlong_eq_ok_iff, fun _ => discoverAlong_eq_error_iff, fun above v innermost => ?_,
    fun _ _ => discoverFrom_eq_ok_iff⟩
  have same (between : String) (below : above.IsAbove (.ofString between))
      (within : WrittenPath.IsAbove (.ofString between) (.ofString start)) : discoverAlong t working between = .ok v :=
    discoverAlong_eq_ok_iff.2 ⟨above, innermost.of_between below within⟩
  refine ⟨?_, same⟩
  have inParts := (WrittenPath.isInParts_ofString start).of_isAbove innermost.isAbove
  have itself : WrittenPath.ofString v.shown = above := by
    rw [innermost.leadsTo.2.2, WrittenPath.ofString_text inParts]
  exact same v.shown (itself ▸ .refl above) (itself ▸ innermost.isAbove)

/-- A vault in a folder of another one. -/
def nestedVaults : FileTree :=
  let outer : Name := ⟨"v", by decide⟩
  let inner : Name := ⟨"w", by decide⟩
  (((((∅ : FileTree).put [outer] .folder (by decide)).put [outer, settingsFolderName] .folder (by decide)).put
    [outer, inner] .folder (by decide)).put [outer, inner, settingsFolderName] .folder (by decide))

/-- A start below both vaults leads to the inner one, which is found again from its own path and from a path in between. By `..` a
path leaves a vault and leads to the one around it, if there is any. -/
theorem discoverAlong_innermost_nested : ∃ v, IsInnermost nestedVaults [] (.ofString "/v/w/x/y") (.ofString "/v/w") v ∧
    discoverAlong nestedVaults [] "/v/w/x/y" = .ok v ∧ discoverAlong nestedVaults [] v.shown = .ok v ∧
    discoverAlong nestedVaults [] "/v/w/x" = .ok v ∧
    (∃ w above, IsInnermost nestedVaults [] (.ofString "/v/w/../x") above w ∧ w.shown = "/v/w/..") ∧
    ∀ above w, above.IsAbove (.ofString "x/..") → ¬ LeadsTo nestedVaults [] above w := by
  have longest : ∀ other ∈ WrittenPath.upward (.ofString "/v/w/x/y"), (at? nestedVaults [] other).isSome →
      other.isAbsolute = true ∧ other.parts <+: [['v'], ['w']] := by decide +kernel
  have innermost : IsInnermost nestedVaults [] (.ofString "/v/w/x/y") (.ofString "/v/w")
      ⟨[⟨"v", by decide⟩, ⟨"w", by decide⟩], "/v/w"⟩ := by
    refine isInnermost_iff.2 ⟨⟨rfl, by decide⟩, by decide +kernel, fun other within hit => ?_⟩
    exact longest other (WrittenPath.mem_upward_iff.2 within) hit
  have left : discoverAlong nestedVaults [] "/v/w/../x" = .ok ⟨[⟨"v", by decide⟩], "/v/w/.."⟩ := by decide +kernel
  have missed : discoverAlong nestedVaults [] "x/.." = .error (.notVault "x/..") := by decide +kernel
  obtain ⟨found, -, same, -⟩ := discoverAlong_innermost nestedVaults [] "/v/w/x/y"
  obtain ⟨again, between⟩ := same _ _ innermost
  obtain ⟨above, outer⟩ := ((discoverAlong_innermost nestedVaults [] "/v/w/../x").1 _).1 left
  refine ⟨_, innermost, (found _).2 ⟨_, innermost⟩, again, between "/v/w/x" ⟨rfl, by decide⟩ ⟨rfl, by decide⟩, ?_, ?_⟩
  · exact ⟨_, above, outer, rfl⟩
  · exact (((discoverAlong_innermost nestedVaults [] "x/..").2.1 _).1 missed).2

end Vault
end ReadingLog
