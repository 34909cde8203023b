import Mathlib.Data.List.Basic
import Mathlib.Order.Defs.LinearOrder
import Mathlib.Data.String.Basic
import ReadingLog.Text.Basic

/-!
# UTF-8

The bytes that encode texts are in the same order as the texts, and a byte below 128 stands for its own character only.
-/

namespace ReadingLog.Text

theorem utf8_eq_flatMap (s : String) : utf8 s = s.toList.flatMap String.utf8EncodeChar := by
  conv => lhs; rw [← String.ofList_toList (s := s)]
  rw [utf8, String.toUTF8_eq_toByteArray, String.toByteArray_ofList, List.utf8Encode, List.data_toByteArray]

theorem fromUTF8?_eq_some_iff {bytes : List UInt8} {s : String} :
    String.fromUTF8? ⟨bytes.toArray⟩ = some s ↔ utf8 s = bytes := by
  have same : utf8 s = bytes ↔ s.toByteArray = ⟨bytes.toArray⟩ := by
    rw [utf8, String.toUTF8_eq_toByteArray]
    constructor
    · rintro rfl
      rfl
    · intro whole
      rw [whole]
  rw [same, String.fromUTF8?]
  split
  · next valid =>
    simp only [String.fromUTF8, Option.some.injEq]
    constructor
    · rintro rfl
      rfl
    · intro whole
      exact String.toByteArray_inj.1 whole.symm
  · next invalid =>
    refine iff_of_false nofun fun whole => invalid ?_
    rw [← whole]
    exact s.isValidUTF8

theorem utf8_injective {s t : String} (same : utf8 s = utf8 t) : s = t :=
  Option.some.inj ((fromUTF8?_eq_some_iff.2 same).symm.trans (fromUTF8?_eq_some_iff.2 rfl))

/-! ## ASCII -/

theorem val_lt (c : Char) : c.val.toNat < 1114112 := by
  rcases c.valid with low | high <;> omega

theorem toNat_ofNat_of_lt {n : Nat} (small : n < 256) : (UInt8.ofNat n).toNat = n := by
  rw [UInt8.toNat_ofNat']
  exact Nat.mod_eq_of_lt small

theorem utf8EncodeChar_ascii {a : Char} (ascii : a.toNat < 128) : String.utf8EncodeChar a = [UInt8.ofNat a.toNat] := by
  have short : a.val.toNat ≤ 127 := Nat.le_of_lt_succ ascii
  rw [String.utf8EncodeChar]
  exact if_pos short

/-- A byte below 128 is a character by itself. -/
theorem eq_of_mem_utf8EncodeChar {a c : Char} (ascii : a.toNat < 128)
    (member : UInt8.ofNat a.toNat ∈ String.utf8EncodeChar c) : c = a := by
  have bound := val_lt c
  rw [← Char.toNat_inj]
  show c.val.toNat = _
  unfold String.utf8EncodeChar at member
  generalize c.val.toNat = n at *
  dsimp only at member
  split_ifs at member
  all_goals
    simp only [List.mem_cons, List.not_mem_nil, or_false, ← UInt8.toNat_inj, UInt8.toNat_ofNat'] at member
    omega

theorem mem_utf8_iff {a : Char} (ascii : a.toNat < 128) {s : String} : UInt8.ofNat a.toNat ∈ utf8 s ↔ a ∈ s.toList := by
  rw [utf8_eq_flatMap, List.mem_flatMap]
  constructor
  · rintro ⟨c, inside, member⟩
    rwa [← eq_of_mem_utf8EncodeChar ascii member]
  · intro inside
    exact ⟨a, inside, by simp [utf8EncodeChar_ascii ascii]⟩

theorem head?_utf8_iff {a : Char} (ascii : a.toNat < 128) {s : String} :
    (utf8 s).head? = some (UInt8.ofNat a.toNat) ↔ s.toList.head? = some a := by
  rw [utf8_eq_flatMap]
  cases s.toList with
  | nil => simp
  | cons c rest =>
    rw [List.flatMap_cons, List.head?_append_of_ne_nil _ String.utf8EncodeChar_ne_nil, List.head?_cons, Option.some.injEq]
    constructor
    · intro first
      exact eq_of_mem_utf8EncodeChar ascii (List.mem_of_mem_head? first)
    · rintro rfl
      rw [utf8EncodeChar_ascii ascii]
      rfl

/-! ## Order -/

/-- A smaller character is told from a greater one within the bytes that encode it. -/
theorem utf8EncodeChar_append_lt {c d : Char} (less : c < d) (rest rest' : List UInt8) :
    String.utf8EncodeChar c ++ rest < String.utf8EncodeChar d ++ rest' := by
  have below : c.val.toNat < d.val.toNat := less
  have bound := val_lt c
  have bound' := val_lt d
  unfold String.utf8EncodeChar
  generalize c.val.toNat = m at *
  generalize d.val.toNat = n at *
  -- Six bits of the character code in each byte: the codes differ in the last six, or before them.
  have last : m / 64 < n / 64 ∨ m / 64 = n / 64 ∧ m % 64 < n % 64 := by omega
  have middle : m / 64 < n / 64 → m / 4096 < n / 4096 ∨ m / 4096 = n / 4096 ∧ m / 64 % 64 < n / 64 % 64 := by omega
  have front : m / 4096 < n / 4096 →
      m / 262144 < n / 262144 ∨ m / 262144 = n / 262144 ∧ m / 4096 % 64 < n / 4096 % 64 := by omega
  have lead : m / 262144 % 8 = m / 262144 := Nat.mod_eq_of_lt (by omega)
  have lead' : n / 262144 % 8 = n / 262144 := Nat.mod_eq_of_lt (by omega)
  dsimp only
  rw [lead, lead']
  clear lead lead'
  split_ifs
  all_goals
    simp (disch := omega) only [List.cons_append, List.nil_append, List.cons_lt_cons_iff, UInt8.lt_iff_toNat_lt,
      ← UInt8.toNat_inj, toNat_ofNat_of_lt]
    omega

theorem flatMap_utf8EncodeChar_lt {s t : Text} (less : s < t) :
    s.flatMap String.utf8EncodeChar < t.flatMap String.utf8EncodeChar := by
  induction s generalizing t with
  | nil =>
    cases t with
    | nil => exact absurd less (List.lt_irrefl _)
    | cons d t =>
      obtain ⟨b, bytes, spelled⟩ := List.exists_cons_of_ne_nil (String.utf8EncodeChar_ne_nil (c := d))
      rw [List.flatMap_cons, spelled]
      exact List.nil_lt_cons ..
  | cons c s ih =>
    cases t with
    | nil => cases less
    | cons d t =>
      rw [List.flatMap_cons, List.flatMap_cons]
      rcases List.cons_lt_cons_iff.1 less with first | ⟨rfl, later⟩
      · exact utf8EncodeChar_append_lt first _ _
      · exact List.append_left_lt (ih later)

/-- The bytes of texts are ordered as the texts are. -/
theorem utf8_lt_iff {s t : String} : utf8 s < utf8 t ↔ s < t := by
  have forth {s t : String} (less : s < t) : utf8 s < utf8 t := by
    rw [utf8_eq_flatMap, utf8_eq_flatMap]
    exact flatMap_utf8EncodeChar_lt (String.lt_iff_toList_lt.1 less)
  refine ⟨fun less => ?_, forth⟩
  rcases lt_trichotomy s t with before | rfl | after
  · exact before
  · exact absurd less (List.lt_irrefl _)
  · exact absurd (List.lt_trans less (forth after)) (List.lt_irrefl _)

end ReadingLog.Text
