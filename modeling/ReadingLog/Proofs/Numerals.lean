import Mathlib.Algebra.Group.Nat.Defs
import Mathlib.Data.List.Basic
import Mathlib.Data.List.Induction
import ReadingLog.Text.Decimal
import ReadingLog.Text.Digit

/-!
# Numerals

Writing a number with a fixed number of digits and reading it are inverse to each other: `padded_value` and `value_padded`.
-/

namespace ReadingLog.Text

/-! ## Digits -/

theorem digit_ge {c : Char} (digit : c.isDigit) : 48 ≤ c.toNat := by
  simp only [Char.isDigit, Bool.and_eq_true, decide_eq_true_eq] at digit
  exact UInt32.le_iff_toNat_le.1 digit.1

theorem digit_le {c : Char} (digit : c.isDigit) : c.toNat ≤ 57 := by
  simp only [Char.isDigit, Bool.and_eq_true, decide_eq_true_eq] at digit
  exact UInt32.le_iff_toNat_le.1 digit.2

theorem isScriptDigit_of_isDigit {c : Char} (digit : c.isDigit) : isScriptDigit c := by
  simp [isScriptDigit, digit]

/-- No digit of any script is white space. -/
theorem not_isBlank_of_isScriptDigit {c : Char} (digit : isScriptDigit c) : ¬ isBlank c := by
  have clear : ∀ first ∈ 0x30 :: scriptZeros, ∀ i < 10, ∀ n, n = first + i →
      ¬ ((9 ≤ n && n ≤ 13) || n == 0x20 || n == 0x85 || n == 0xA0 || n == 0x1680 || (0x2000 ≤ n && n ≤ 0x200A)
        || n == 0x2028 || n == 0x2029 || n == 0x202F || n == 0x205F || n == 0x3000) := by
    simp only [forall_eq]
    decide
  simp only [isScriptDigit, Bool.or_eq_true, Bool.and_eq_true, List.any_eq_true, decide_eq_true_eq] at digit
  rcases digit with ascii | ⟨-, first, script, above, below⟩
  · have above := digit_ge ascii
    have below := digit_le ascii
    exact clear 0x30 (by simp) (c.toNat - 0x30) (by omega) _ (by omega)
  · exact clear first (by simp [script]) (c.toNat - first) (by omega) _ (by omega)

/-! ## Values -/

theorem value_eq (digits : Text) : value digits = Nat.ofDigitChars 10 digits 0 := rfl

theorem value_concat (digits : Text) (c : Char) : value (digits ++ [c]) = 10 * value digits + (c.toNat - 48) := by
  simp [value, valueFrom]

theorem value_padded (width n : Nat) : value (padded width n) = n := by
  rw [value_eq, padded, ofNat, Nat.ofDigitChars_append, Nat.ofDigitChars_replicate_zero, Nat.mul_zero,
    Nat.ofDigitChars_ten_toDigits]

theorem isDigit_of_mem_padded {width n : Nat} {c : Char} (member : c ∈ padded width n) : c.isDigit := by
  rcases List.mem_append.1 member with zero | digit
  · rw [(List.mem_replicate.1 zero).2]
    rfl
  · exact Nat.isDigit_of_mem_toDigits (by decide) (by decide) digit

theorem length_padded {width n : Nat} (some_digit : 0 < width) (fits : n < 10 ^ width) :
    (padded width n).length = width := by
  have short := (Nat.length_toDigits_le_iff (by decide : 1 < 10) some_digit).2 fits
  simp only [padded, ofNat, List.length_append, List.length_replicate]
  omega

theorem length_padded_le {least width n : Nat} (some_digit : 0 < width) (fits : least ≤ width) (small : n < 10 ^ width) :
    (padded least n).length ≤ width := by
  have short := (Nat.length_toDigits_le_iff (by decide : 1 < 10) some_digit).2 small
  simp only [padded, ofNat, List.length_append, List.length_replicate]
  omega

theorem padded_ne_nil (least n : Nat) : padded least n ≠ [] := List.append_ne_nil_of_right_ne_nil _ Nat.toDigits_ne_nil

/-- A numeral without leading zeros is one with at least one digit. -/
theorem padded_one (n : Nat) : padded 1 n = ofNat n := by
  have some_digit : 0 < (ofNat n).length := List.length_pos_iff.2 Nat.toDigits_ne_nil
  rw [padded, Nat.sub_eq_zero_of_le some_digit, List.replicate_zero, List.nil_append]

theorem not_isBlank_of_mem_padded {least n : Nat} {c : Char} (member : c ∈ padded least n) : ¬ isBlank c :=
  not_isBlank_of_isScriptDigit (isScriptDigit_of_isDigit (isDigit_of_mem_padded member))

theorem value_lt {digits : Text} (all : ∀ c ∈ digits, c.isDigit) : value digits < 10 ^ digits.length := by
  induction digits using List.reverseRecOn with
  | nil => decide
  | append_singleton digits c ih =>
    have earlier := ih fun c member => all c (List.mem_append_left _ member)
    have last := digit_le (all c (by simp))
    rw [value_concat, List.length_append, List.length_singleton, Nat.pow_succ]
    omega

/-- Runs of as many digits with the same value are the same. -/
theorem value_injective {s t : Text} (digits : ∀ c ∈ s, c.isDigit) (digits' : ∀ c ∈ t, c.isDigit)
    (length : s.length = t.length) (same : value s = value t) : s = t := by
  induction s using List.reverseRecOn generalizing t with
  | nil => exact (List.eq_nil_of_length_eq_zero length.symm).symm
  | append_singleton s c ih =>
    rcases List.eq_nil_or_concat' t with rfl | ⟨t, d, rfl⟩
    · simp at length
    · rw [value_concat, value_concat] at same
      have := digit_ge (digits c (by simp))
      have := digit_le (digits c (by simp))
      have := digit_ge (digits' d (by simp))
      have := digit_le (digits' d (by simp))
      have last : c = d := Char.toNat_inj.1 (by omega)
      have earlier : s = t := ih (fun c member => digits c (by simp [member])) (fun c member => digits' c (by simp [member]))
        (by simpa using length) (by omega)
      rw [last, earlier]

/-- A run of digits is its value written with as many digits. -/
theorem padded_value {digits : Text} (all : ∀ c ∈ digits, c.isDigit) (nonempty : 0 < digits.length) :
    padded digits.length (value digits) = digits :=
  value_injective (fun _ => isDigit_of_mem_padded) all (length_padded nonempty (value_lt all)) (value_padded ..)

end ReadingLog.Text
