import ReadingLog.Position
import ReadingLog.Proofs.Numerals

/-!
# Positions are read from numerals

Which tokens are positions, and of what size: ASCII digits whose value is in range, however many zeros they begin with.
Digits are added up in a word, and the word has their value as long as there is one.
-/

namespace ReadingLog

namespace Text

variable {a b word result : UInt64} {s digits : Text}

/-! ## Words -/

theorem times?_eq_some_iff : times? a b = some result ↔ result.toNat = a.toNat * b.toNat := by
  unfold times?
  split
  · next small => rw [Option.some.injEq, ← UInt64.toNat_inj, UInt64.toNat_mul, Nat.mod_eq_of_lt small, eq_comm]
  · next great =>
    refine iff_of_false nofun fun same => great ?_
    rw [← same]
    exact result.toNat_lt_size

theorem plus?_eq_some_iff : plus? a b = some result ↔ result.toNat = a.toNat + b.toNat := by
  unfold plus?
  split
  · next small => rw [Option.some.injEq, ← UInt64.toNat_inj, UInt64.toNat_add, Nat.mod_eq_of_lt small, eq_comm]
  · next great =>
    refine iff_of_false nofun fun same => great ?_
    rw [← same]
    exact result.toNat_lt_size

theorem toNat_digit (c : Char) : (UInt64.ofNat (c.toNat - '0'.toNat)).toNat = c.toNat - '0'.toNat := by
  have small : c.toNat < UInt64.size := Nat.lt_trans c.val.toNat_lt (by decide)
  exact UInt64.toNat_ofNat_of_lt' (Nat.lt_of_le_of_lt (Nat.sub_le ..) small)

theorem valueFrom_cons (n : Nat) (c : Char) (digits : Text) :
    valueFrom n (c :: digits) = valueFrom (10 * n + (c.toNat - '0'.toNat)) digits := List.foldl_cons ..

theorem le_valueFrom (n : Nat) (digits : Text) : n ≤ valueFrom n digits := by
  induction digits generalizing n with
  | nil => exact Nat.le_refl n
  | cons c digits ih =>
    have later := ih (10 * n + (c.toNat - '0'.toNat))
    rw [valueFrom_cons]
    omega

/-- Adding up digits in a word gives their value, and gives nothing only where no word has it. -/
theorem wordFrom?_eq_some_iff : wordFrom? word digits = some result ↔ result.toNat = valueFrom word.toNat digits := by
  induction digits generalizing word with
  | nil => rw [wordFrom?, Option.some.injEq, ← UInt64.toNat_inj, eq_comm]; rfl
  | cons c digits ih =>
    simp only [wordFrom?, Option.bind_eq_bind, Option.bind_eq_some_iff, times?_eq_some_iff, plus?_eq_some_iff, ih,
      valueFrom_cons, toNat_digit]
    constructor
    · rintro ⟨tens, product, next, sum, read⟩
      rw [read, sum, product, Nat.mul_comm]
      rfl
    · intro read
      -- The value at the end is a word, so those on the way to it are words too.
      have least := le_valueFrom (10 * word.toNat + (c.toNat - '0'.toNat)) digits
      have most := result.toNat_lt_size
      have product : (UInt64.ofNat (10 * word.toNat)).toNat = 10 * word.toNat := UInt64.toNat_ofNat_of_lt' (by omega)
      have sum : (UInt64.ofNat (10 * word.toNat + (c.toNat - '0'.toNat))).toNat = 10 * word.toNat + (c.toNat - '0'.toNat) :=
        UInt64.toNat_ofNat_of_lt' (by omega)
      refine ⟨_, product.trans (Nat.mul_comm ..), UInt64.ofNat (10 * word.toNat + (c.toNat - '0'.toNat)), ?_, ?_⟩
      · rw [sum, product]
      · rw [sum, read]

/-- A numeral: ASCII digits, one of them at least. -/
def IsDecimal (s : Text) : Prop := s ≠ [] ∧ ∀ c ∈ s, c.isDigit

instance (s : Text) : Decidable (IsDecimal s) := decidable_of_iff (s ≠ [] ∧ s.all Char.isDigit) (by simp [IsDecimal])

theorem word?_eq_some_iff : word? s = some result ↔ IsDecimal s ∧ result.toNat = value s := by
  unfold word?
  split
  · next other =>
    refine iff_of_false nofun fun ⟨⟨nonempty, all⟩, _⟩ => ?_
    simp [nonempty, List.all_eq_true.2 all] at other
  · next decimal =>
    have decimal : IsDecimal s := by simpa [IsDecimal] using decimal
    rw [wordFrom?_eq_some_iff, and_iff_right decimal]
    rfl

theorem isDecimal_ofNat (n : Nat) : IsDecimal (ofNat n) := by
  rw [← padded_one]
  exact ⟨padded_ne_nil 1 n, fun _ => isDigit_of_mem_padded⟩

theorem value_ofNat (n : Nat) : value (ofNat n) = n := by rw [← padded_one, value_padded]

/-! ## The end of a token -/

theorem dropSuffix_append (s piece : Text) : (s ++ piece).dropSuffix piece = s := by
  rw [dropSuffix, List.isSuffixOf?_eq_some_iff_append_eq.2 rfl]
  rfl

theorem dropSuffix_cases (s piece : Text) : s = s.dropSuffix piece ∨ s = s.dropSuffix piece ++ piece := by
  unfold dropSuffix
  cases ends : piece.isSuffixOf? s with
  | none => exact .inl rfl
  | some front => exact .inr (List.isSuffixOf?_eq_some_iff_append_eq.1 ends).symm

theorem dropSuffix_of_not_suffix {piece : Text} (other : ¬ piece <:+ s) : s.dropSuffix piece = s := by
  rcases dropSuffix_cases s piece with same | ends
  · exact same.symm
  · exact absurd ⟨_, ends.symm⟩ other

/-- What is left of a token when its percent sign is taken off is a numeral just when the token is one, with the sign or
    without. -/
theorem dropSuffix_percent_iff (decimal : IsDecimal digits) :
    s.dropSuffix ['%'] = digits ↔ s = digits ∨ s = digits ++ ['%'] := by
  constructor
  · rintro rfl
    exact dropSuffix_cases s ['%']
  · rintro (rfl | rfl)
    · refine dropSuffix_of_not_suffix fun ends => ?_
      exact absurd (decimal.2 '%' (ends.subset List.mem_cons_self)) (by decide)
    · exact dropSuffix_append digits ['%']

end Text

/-! ## Positions -/

namespace Position

open Text (IsDecimal)

variable {s : Text} {p : Position}

theorem page?_eq_some_iff : page? s = some p ↔
    IsDecimal s ∧ Text.value s ≤ lastPage ∧ ∃ number, p = .page number ∧ number.toNat = Text.value s := by
  unfold page?
  constructor
  · intro read
    split at read
    · next word found =>
      obtain ⟨decimal, value⟩ := Text.word?_eq_some_iff.1 found
      split at read
      · next inside =>
        refine ⟨decimal, value ▸ inside, word.toUInt32, (Option.some.inj read).symm, ?_⟩
        rw [UInt64.toNat_toUInt32, ← value]
        rw [lastPage] at inside
        omega
      · cases read
    · cases read
  · rintro ⟨decimal, inside, number, rfl, value⟩
    have word : number.toUInt64.toNat = Text.value s := by rw [UInt32.toNat_toUInt64, value]
    rw [Text.word?_eq_some_iff.2 ⟨decimal, word⟩]
    simp [word, inside]

theorem percent?_eq_some_iff : percent? s = some p ↔
    ∃ digits, (s = digits ∨ s = digits ++ ['%']) ∧ IsDecimal digits ∧ Text.value digits ≤ 100 ∧
      ∃ share, p = .percent share ∧ share.toNat = Text.value digits := by
  unfold percent?
  constructor
  · intro read
    split at read
    · next word found =>
      obtain ⟨decimal, value⟩ := Text.word?_eq_some_iff.1 found
      split at read
      · next inside =>
        have inside : word.toNat ≤ 100 := inside
        refine ⟨_, (Text.dropSuffix_percent_iff decimal).1 rfl, decimal, value ▸ inside, word.toUInt8,
          (Option.some.inj read).symm, ?_⟩
        rw [UInt64.toNat_toUInt8, ← value]
        omega
      · cases read
    · cases read
  · rintro ⟨digits, token, decimal, inside, share, rfl, value⟩
    have word : share.toUInt64.toNat = Text.value digits := by rw [UInt8.toNat_toUInt64, value]
    have inside : share.toUInt64 ≤ 100 := UInt64.le_iff_toNat_le.2 (word ▸ inside)
    rw [(Text.dropSuffix_percent_iff decimal).2 token, Text.word?_eq_some_iff.2 ⟨decimal, word⟩]
    simp [inside]

theorem parse_eq_ok_iff {unit : Measure} {token : String} : parse unit token = .ok p ↔ ofText? unit token.toList = some p := by
  unfold parse
  cases ofText? unit token.toList <;> simp

theorem parse_eq_error_iff {unit : Measure} {token : String} {e : Error} :
    parse unit token = .error e ↔ (∀ p, parse unit token ≠ .ok p) ∧ e = .invalidPosition token := by
  unfold parse
  cases ofText? unit token.toList <;> simp [eq_comm]

/-- A position is read back in its measure from its written form, save a percentage that is too great to be one. -/
theorem parse_render_iff (p : Position) :
    parse p.measure p.render = .ok p ↔ ∀ share, p = .percent share → share.toNat ≤ 100 := by
  rw [parse_eq_ok_iff, render, String.toList_ofList]
  cases p with
  | page number =>
    refine iff_of_true (page?_eq_some_iff.2 ⟨Text.isDecimal_ofNat _, ?_, number, rfl, (Text.value_ofNat _).symm⟩) nofun
    rw [toText, Text.value_ofNat]
    exact Nat.le_of_lt_succ number.toNat_lt
  | percent share =>
    constructor
    · intro read other same
      obtain ⟨digits, -, -, inside, _, read_as, value⟩ := percent?_eq_some_iff.1 read
      rw [← Position.percent.inj same, Position.percent.inj read_as, value]
      exact inside
    · intro inside
      refine percent?_eq_some_iff.2
        ⟨Text.ofNat share.toNat, .inr rfl, Text.isDecimal_ofNat _, ?_, share, rfl, (Text.value_ofNat _).symm⟩
      rw [Text.value_ofNat]
      exact inside share rfl

/-- A page is read from a numeral up to the last page, and a percentage from one up to 100 with at most one percent sign; each
    as its value. Any other token is refused as it stands. However long a token is, the word for the digits read so far is
    their value and never what is left of it after wrapping around. What is written is read back. -/
theorem parse_tokens (token : String) :
    (∀ p, parse .pages token = .ok p ↔ IsDecimal token.toList ∧ Text.value token.toList ≤ 4294967295 ∧
      ∃ number, p = .page number ∧ number.toNat = Text.value token.toList) ∧
    (∀ p, parse .percentage token = .ok p ↔ ∃ digits, (token.toList = digits ∨ token.toList = digits ++ ['%']) ∧
      IsDecimal digits ∧ Text.value digits ≤ 100 ∧ ∃ share, p = .percent share ∧ share.toNat = Text.value digits) ∧
    (∀ unit e, parse unit token = .error e ↔ (∀ p, parse unit token ≠ .ok p) ∧ e = .invalidPosition token) ∧
    (∀ read, read <+: token.toList → ∀ word, Text.wordFrom? 0 read = some word ↔ word.toNat = Text.value read) ∧
    ∀ p : Position, parse p.measure p.render = .ok p ↔ ∀ share, p = .percent share → share.toNat ≤ 100 := by
  refine ⟨fun p => ?_, fun p => ?_, fun unit e => parse_eq_error_iff, fun read _ word => ?_, parse_render_iff⟩
  · exact parse_eq_ok_iff.trans page?_eq_some_iff
  · exact parse_eq_ok_iff.trans percent?_eq_some_iff
  · exact Text.wordFrom?_eq_some_iff

/-- The greatest page behind more zeros than a word has digits, a number that wraps around to 1, and a whole book. -/
theorem parse_tokens_extremes :
    parse .pages "0000000000000000000000004294967295" = .ok (.page 4294967295) ∧
    parse .pages "18446744073709551617" = .error (.invalidPosition "18446744073709551617") ∧
    parse .percentage "00000000000000000000100%" = .ok (.percent 100) := by
  refine ⟨?pages, ?beyond, ?percentage⟩
  case pages => exact ((parse_tokens _).1 _).2 ⟨by decide +kernel, by decide +kernel, 4294967295, rfl, by decide +kernel⟩
  case beyond =>
    refine ((parse_tokens _).2.2.1 _ _).2 ⟨fun p read => ?_, rfl⟩
    exact absurd (((parse_tokens _).1 p).1 read).2.1 (by decide +kernel)
  case percentage =>
    exact ((parse_tokens _).2.1 _).2 ⟨"00000000000000000000100".toList, .inr (by decide +kernel), by decide +kernel,
      by decide +kernel, 100, rfl, by decide +kernel⟩

end Position
end ReadingLog
