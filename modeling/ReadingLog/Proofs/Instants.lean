import ReadingLog.Instant
import ReadingLog.Proofs.ReadBack

/-!
# Instants are read back

The written form of an instant, in whatever year and with whatever fraction of a second, is read as this instant.
-/

namespace ReadingLog

variable {rest : Text}

theorem Text.takeWhile_padded (least n : Nat) (ends : ∀ c ∈ rest.head?, ¬ c.isDigit) :
    (padded least n ++ rest).takeWhile Char.isDigit = padded least n :=
  takeWhile_append_of_ends (fun _ => isDigit_of_mem_padded) ends

namespace DateLayout

theorem readYear?_signed (least n : Nat) (sign : Int) (ends : ∀ c ∈ rest.head?, ¬ c.isDigit) :
    readYear?.signed (Text.padded least n ++ rest) sign = some (sign * n, rest) := by
  have some_digit : (Text.padded least n).isEmpty = false := List.isEmpty_eq_false_iff.2 (Text.padded_ne_nil least n)
  simp [readYear?.signed, Text.takeWhile_padded least n ends, some_digit, Text.value_padded]

/-- A year is read back with its sign, or without one. -/
theorem readYear?_yearText (year : Int) (ends : ∀ c ∈ rest.head?, ¬ c.isDigit) :
    readYear? (Date.yearText year ++ rest) = some (year, rest) := by
  unfold Date.yearText
  split
  · next below =>
    have read : readYear? ('-' :: (Text.padded 4 year.natAbs ++ rest)) = some (-1 * (year.natAbs : Int), rest) :=
      readYear?_signed 4 _ _ ends
    rw [List.cons_append, read]
    exact congrArg (fun y => some (y, rest)) (by omega)
  split
  · next beyond =>
    have read : readYear? ('+' :: (Text.padded 4 year.natAbs ++ rest)) = some (1 * (year.natAbs : Int), rest) :=
      readYear?_signed 4 _ _ ends
    rw [List.cons_append, read]
    exact congrArg (fun y => some (y, rest)) (by omega)
  · next least most =>
    rw [readYear?_padded (by omega)]
    exact congrArg (fun y => some (y, rest)) (by omega)

end DateLayout

namespace Instant

theorem readFraction?_padded {width n : Nat} (some_digit : 0 < width) (few : width ≤ 9) (small : n < 10 ^ width)
    (ends : ∀ c ∈ rest.head?, ¬ c.isDigit) :
    readFraction? ('.' :: (Text.padded width n ++ rest)) = some (n * 10 ^ (9 - width), rest) := by
  have width_eq := Text.length_padded some_digit small
  have kept : (Text.padded width n).take 9 = Text.padded width n := List.take_of_length_le (by omega)
  have nonempty : (Text.padded width n).isEmpty = false := List.isEmpty_eq_false_iff.2 (Text.padded_ne_nil width n)
  have after : (Text.padded width n ++ rest).dropWhile Char.isDigit = rest :=
    Text.dropWhile_append_of_ends (fun _ => Text.isDigit_of_mem_padded) ends
  simp [readFraction?, Text.takeWhile_padded width n ends, kept, nonempty, after, Text.value_padded, width_eq]

theorem readFraction?_fractionText {nanosecond : Nat} (small : nanosecond < 1000000000) :
    readFraction? (fractionText nanosecond ++ ['Z']) = some (nanosecond, ['Z']) := by
  have ends : ∀ c ∈ ['Z'].head?, ¬ c.isDigit := by simp
  unfold fractionText
  split
  · next zero => rw [zero]; rfl
  split
  · next thousandths =>
    rw [List.cons_append, readFraction?_padded (by decide) (by decide) (by omega) ends]
    exact congrArg (fun n => some (n, ['Z'])) (by omega)
  split
  · next millionths =>
    rw [List.cons_append, readFraction?_padded (by decide) (by decide) (by omega) ends]
    exact congrArg (fun n => some (n, ['Z'])) (by omega)
  · rw [List.cons_append, readFraction?_padded (by decide) (by decide) (by omega) ends]
    exact congrArg (fun n => some (n, ['Z'])) (by omega)

theorem expect?_cons {c : Char} (inked : ¬ Text.isBlank c) : expect? c (c :: rest) = some rest := by
  have bare : Text.trimStart (c :: rest) = c :: rest := List.dropWhile_cons_of_neg inked
  rw [expect?, bare]
  exact List.isPrefixOf?_eq_some_iff_append_eq.2 rfl

theorem ofLocal?_self (i : Instant) : ofLocal? i.date (i.minute / 60) (i.minute % 60) i.second i.nanosecond 0 = some i := by
  have range := i.minute_lt
  have total : (60 * ((i.minute / 60 : Nat) : Int) + ((i.minute % 60 : Nat) : Int) - 0) = i.minute := by omega
  have minute : ((i.minute : Int) % 1440).toNat = i.minute := by omega
  have valid : ¬ (23 < i.minute / 60 ∨ 59 < i.minute % 60 ∨ 1440 ≤ (0 : Int).natAbs) := by
    simp only [Int.natAbs_zero]
    omega
  have today : ¬ (i.minute : Int) < 0 ∧ ¬ 1440 ≤ (i.minute : Int) := by omega
  have fits : i.minute < 1440 ∧ i.second ≤ 60 ∧ i.nanosecond < 1000000000 := ⟨i.minute_lt, i.second_le, i.nanosecond_lt⟩
  simp only [ofLocal?, if_neg valid, total, if_neg today.1, if_neg today.2, minute, dif_pos fits]
  rfl

/-- An instant is read back from its written form. -/
theorem parse?_toText (i : Instant) : parse? i.toText = some i := by
  have text : i.toText = Date.yearText i.date.year ++ '-' :: (Text.padded 2 i.date.month ++ '-' ::
      (Text.padded 2 i.date.day ++ 'T' :: (Text.padded 2 (i.minute / 60) ++ ':' :: (Text.padded 2 (i.minute % 60) ++ ':' ::
        (Text.padded 2 i.second ++ (fractionText i.nanosecond ++ ['Z'])))))) := by
    simp [toText, Date.isoText]
  obtain ⟨-, last_month⟩ := i.date.isDay.month_range
  have last_day := i.date.day_le
  have number (n : Nat) (small : n < 100) (rest : Text) :
      DateLayout.readNumber? 2 (Text.padded 2 n ++ rest) = some (n, rest) :=
    DateLayout.readNumber?_padded (by decide) (by decide) small (.inl rfl)
  have year (rest : Text) : DateLayout.readYear? (Date.yearText i.date.year ++ '-' :: rest) = some (i.date.year, '-' :: rest) :=
    DateLayout.readYear?_yearText _ (by simp)
  have hyphen (rest : Text) : expect? '-' ('-' :: rest) = some rest := expect?_cons (by decide)
  have colon (rest : Text) : expect? ':' (':' :: rest) = some rest := expect?_cons (by decide)
  have month := number i.date.month (by omega)
  have day := number i.date.day (by omega)
  have hour := number (i.minute / 60) (by have := i.minute_lt; omega)
  have minute := number (i.minute % 60) (by omega)
  have second := number i.second (by have := i.second_le; omega)
  have fraction := readFraction?_fractionText i.nanosecond_lt
  have offset : readOffset? (Text.trimStart ['Z']) = some (0, []) := rfl
  have date : Date.ofYMD? i.date.year i.date.month i.date.day = some i.date := Date.ofYMD?_eq_some_iff.2 ⟨rfl, rfl, rfl⟩
  simp only [parse?, text, year, hyphen, colon, month, day, hour, minute, second, fraction, offset, date, Option.bind_eq_bind,
    Option.bind_some, List.head?_cons, List.drop_one, List.tail_cons, ofLocal?_self]
  rfl

end Instant
end ReadingLog
