import ReadingLog.Proofs.NoteDate

/-!
# Notes named by their days

A note whose path ends with the spelling of a date after the folder stands for that date, in any layout with a full year. The
scan takes as much into each field as it can, so no field may be followed by what could belong to it: `FieldsEnd`.
-/

namespace ReadingLog

namespace DateLayout

variable {d : Date} {p : Char → Bool} {piece rest : Text}

/-! ## Where fields end -/

/-- The scan would take the character into the field, where it follows the spelling. -/
def Field.goesOn (c : Char) : Field → Bool
  | month | day => Text.isScriptDigit c
  | monthName | weekdayName => isLetter c
  | _ => false

/-- In the spelling of a date by tokens, each field ends where the scan ends it. -/
def FieldsEnd (d : Date) : List Token → Prop
  | [] => True
  | .literal _ :: tokens => FieldsEnd d tokens
  | .field f :: tokens => (∀ c ∈ (tokens.flatMap (Token.format d)).head?, ¬ f.goesOn c) ∧ FieldsEnd d tokens

instance decidableFieldsEnd (d : Date) : (tokens : List Token) → Decidable (FieldsEnd d tokens)
  | [] => .isTrue trivial
  | .literal _ :: tokens => decidableFieldsEnd d tokens
  | .field f :: tokens =>
    have := decidableFieldsEnd d tokens
    have (spelling : Text) : Decidable (∀ c ∈ spelling.head?, ¬ f.goesOn c) := Option.decidableForallMem _
    inferInstanceAs (Decidable (_ ∧ _))

theorem fieldsApart_of_fieldsEnd {tokens : List Token} (ended : FieldsEnd d tokens) : FieldsApart d tokens := by
  induction tokens with
  | nil => trivial
  | cons token tokens ih =>
    cases token with
    | literal => exact ih ended
    | field f =>
      refine ⟨fun number c next digit => ended.1 c next ?_, ih ended.2⟩
      rcases number with rfl | rfl <;> exact Text.isScriptDigit_of_isDigit digit

/-! ## The scan of one field -/

theorem exactly_append (all : ∀ c ∈ piece, p c) : exactly piece.length p (piece ++ rest) = [piece.length] := by
  rw [exactly, List.take_left, if_pos ⟨rfl, List.all_eq_true.2 all⟩]

theorem exactly_of_ends {n : Nat} (longer : piece.length < n) (ends : ∀ c ∈ rest.head?, ¬ p c) :
    exactly n p (piece ++ rest) = [] := by
  rw [exactly, if_neg]
  rintro ⟨full, all⟩
  cases rest with
  | nil =>
    rw [List.append_nil, List.length_take] at full
    omega
  | cons c rest =>
    obtain ⟨more, beyond⟩ : ∃ more, n - piece.length = more + 1 := ⟨n - piece.length - 1, by omega⟩
    refine ends c rfl (List.all_eq_true.1 all c ?_)
    rw [List.take_append, beyond, List.take_succ_cons]
    exact List.mem_append_right _ List.mem_cons_self

theorem exactly_padded {width n : Nat} (some_digit : 0 < width) (fits : n < 10 ^ width) :
    exactly width Text.isScriptDigit (Text.padded width n ++ rest) = [(Text.padded width n).length] := by
  have all : ∀ c ∈ Text.padded width n, Text.isScriptDigit c := fun c member =>
    Text.isScriptDigit_of_isDigit (Text.isDigit_of_mem_padded member)
  have scanned : exactly _ _ (_ ++ rest) = _ := exactly_append all
  rwa [Text.length_padded some_digit fits] at scanned ⊢

theorem lengths_ofNat {n : Nat} (small : n < 100) (ends : ∀ c ∈ rest.head?, ¬ Text.isScriptDigit c) :
    ∃ others, exactly 2 Text.isScriptDigit (Text.ofNat n ++ rest) ++ exactly 1 Text.isScriptDigit (Text.ofNat n ++ rest) =
      (Text.ofNat n).length :: others := by
  have all : ∀ c ∈ Text.ofNat n, Text.isScriptDigit c := by
    rw [← Text.padded_one]
    exact fun c member => Text.isScriptDigit_of_isDigit (Text.isDigit_of_mem_padded member)
  have scanned : exactly _ _ (_ ++ rest) = _ := exactly_append all
  have some_digit : 0 < (Text.ofNat n).length := List.length_pos_iff.2 Nat.toDigits_ne_nil
  have short : (Text.ofNat n).length ≤ 2 := (Nat.length_toDigits_le_iff (by decide) (by decide)).2 small
  by_cases double : (Text.ofNat n).length = 2
  · rw [double] at scanned ⊢
    exact ⟨_, by rw [scanned, List.singleton_append]⟩
  · have single : (Text.ofNat n).length = 1 := by omega
    rw [exactly_of_ends (by omega) ends, List.nil_append]
    rw [single] at scanned ⊢
    exact ⟨[], scanned⟩

theorem lengths_name (all : ∀ c ∈ piece, isLetter c) (nonempty : piece ≠ []) (ends : ∀ c ∈ rest.head?, ¬ isLetter c) :
    ∃ others, Text.lengthsDown ((piece ++ rest).takeWhile isLetter).length = piece.length :: others := by
  rw [Text.takeWhile_append_of_ends all ends]
  cases piece with
  | nil => exact absurd rfl nonempty
  | cons c piece => exact ⟨_, rfl⟩

theorem letters_of_name {name : String} (member : name ∈ Date.monthNames ++ Date.weekdayNames) :
    (∀ c ∈ name.toList, isLetter c) ∧ 3 ≤ name.toList.length := by
  have named : ∀ name ∈ Date.monthNames ++ Date.weekdayNames, name.toList.all isLetter ∧ 3 ≤ name.toList.length := by decide
  obtain ⟨all, long⟩ := named name member
  exact ⟨List.all_eq_true.1 all, long⟩

theorem exactly_abbreviation (all : ∀ c ∈ piece, isLetter c) (long : 3 ≤ piece.length) :
    exactly 3 isLetter (piece.take 3 ++ rest) = [(piece.take 3).length] := by
  have all : ∀ c ∈ piece.take 3, isLetter c := fun c member => all c (List.mem_of_mem_take member)
  have scanned : exactly _ _ (_ ++ rest) = _ := exactly_append all
  rwa [List.length_take_of_le long] at scanned ⊢

/-- The scan prefers the whole spelling of a field, where it ends. -/
theorem Field.lengths_format {f : Field} (plain : d.HasPlainYear) (ends : ∀ c ∈ rest.head?, ¬ f.goesOn c) :
    ∃ others, f.lengths (f.format d ++ rest) = (f.format d).length :: others := by
  obtain ⟨-, months, -⟩ := d.isDay
  have days := d.day_le
  obtain ⟨month, month_place, month_spelled⟩ := exists_monthName d
  obtain ⟨weekday, weekday_place, weekday_spelled⟩ := exists_weekdayName d
  obtain ⟨month_letters, month_long⟩ := letters_of_name (List.mem_append_left _ (List.mem_of_getElem? month_place))
  obtain ⟨weekday_letters, weekday_long⟩ := letters_of_name (List.mem_append_right _ (List.mem_of_getElem? weekday_place))
  cases f with
  | year =>
    have small : d.year.natAbs < 10 ^ 4 := by
      obtain ⟨least, most⟩ := plain
      omega
    simp only [lengths, format, plain.yearText_eq]
    exact ⟨[], exactly_padded (by decide) small⟩
  | shortYear => exact ⟨[], exactly_padded (by decide) (by omega)⟩
  | paddedMonth => exact ⟨[], exactly_padded (by decide) (by omega)⟩
  | paddedDay => exact ⟨[], exactly_padded (by decide) (by omega)⟩
  | month => exact lengths_ofNat (by omega) ends
  | day => exact lengths_ofNat (by omega) ends
  | monthName =>
    simp only [lengths, format, month_spelled]
    exact lengths_name month_letters (List.ne_nil_of_length_pos (by omega)) ends
  | weekdayName =>
    simp only [lengths, format, weekday_spelled]
    exact lengths_name weekday_letters (List.ne_nil_of_length_pos (by omega)) ends
  | monthAbbreviation =>
    simp only [lengths, format, month_spelled]
    exact ⟨[], exactly_abbreviation month_letters month_long⟩
  | weekdayAbbreviation =>
    simp only [lengths, format, weekday_spelled]
    exact ⟨[], exactly_abbreviation weekday_letters weekday_long⟩

/-! ## The scan of all tokens -/

/-- The scan takes the whole spelling of a date, where neither a digit nor a letter follows. -/
theorem Token.shape?_spelling {tokens : List Token} (plain : d.HasPlainYear) (ended : FieldsEnd d tokens)
    (after : ∀ c ∈ rest.head?, ¬ Text.isScriptDigit c ∧ ¬ isLetter c) :
    shape? tokens (tokens.flatMap (format d) ++ rest) = some (tokens.flatMap (format d)).length := by
  induction tokens with
  | nil => rfl
  | cons token tokens ih =>
    rw [List.flatMap_cons, List.append_assoc]
    cases token with
    | literal text =>
      have begins : text <+: text ++ (tokens.flatMap (format d) ++ rest) := List.prefix_append ..
      simp only [shape?, format, List.isPrefixOf_iff_prefix.2 begins, if_true, List.drop_left, ih ended, Option.map_some,
        List.length_append]
    | field f =>
      -- The field is followed by the later tokens, or by the text after all of them where these spell nothing.
      have ends : ∀ c ∈ (tokens.flatMap (format d) ++ rest).head?, ¬ f.goesOn c := by
        intro c next
        by_cases last : tokens.flatMap (format d) = []
        · rw [last, List.nil_append] at next
          obtain ⟨no_digit, no_letter⟩ := after c next
          cases f <;> first | exact no_digit | exact no_letter | exact Bool.false_ne_true
        · rw [List.head?_append_of_ne_nil _ last] at next
          exact ended.1 c next
      obtain ⟨others, lengths⟩ := Field.lengths_format plain ends
      simp only [shape?, format, lengths, List.findSome?_cons, List.drop_left, ih ended.2, Option.map_some,
        List.length_append]

theorem Field.lengths_slash (f : Field) (s : Text) : f.lengths ('/' :: s) = [] := by
  have none {n : Nat} {p : Char → Bool} (no : ¬ p '/') : exactly (n + 1) p ([] ++ '/' :: s) = [] :=
    exactly_of_ends (Nat.succ_pos n) (by simpa using no)
  have no_digit : ¬ Text.isScriptDigit '/' := by decide
  have no_letter : ¬ isLetter '/' := by decide
  cases f with
  | year | shortYear | paddedMonth | paddedDay => exact none no_digit
  | month | day => exact List.append_eq_nil_iff.2 ⟨none no_digit, none no_digit⟩
  | monthAbbreviation | weekdayAbbreviation => exact none no_letter
  | monthName | weekdayName =>
    simp only [lengths, List.takeWhile_cons_of_neg no_letter]
    rfl

/-- The scan finds nothing at a slash that no spelling begins with. -/
theorem Token.shape?_slash {tokens : List Token} {f : Field} (member : .field f ∈ tokens)
    (elsewhere : ¬ ['/'] <+: tokens.flatMap (format d)) (s : Text) : shape? tokens ('/' :: s) = none := by
  induction tokens with
  | nil => cases member
  | cons token tokens ih =>
    cases token with
    | field g => simp only [shape?, Field.lengths_slash, List.findSome?_nil]
    | literal text =>
      -- A literal without text, as `[]` gives, leaves the slash to the tokens after it.
      cases text with
      | nil =>
        have nothing := ih (by simpa using member) elsewhere
        simp [shape?, nothing]
      | cons c text =>
        have differs : ¬ (c :: text) <+: '/' :: s := by
          intro begins
          obtain rfl := (List.cons_prefix_cons.1 begins).1
          exact elsewhere ⟨text ++ tokens.flatMap (format d), rfl⟩
        rw [shape?, if_neg (fun begins => differs (List.isPrefixOf_iff_prefix.1 begins))]

/-! ## Notes -/

variable {layout : DateLayout}

theorem dateHere?_spelling (year : .field .year ∈ layout.tokens) (plain : d.HasPlainYear) (ended : FieldsEnd d layout.tokens)
    (after : ∀ c ∈ rest.head?, ¬ Text.isScriptDigit c ∧ ¬ isLetter c) :
    layout.dateHere? (layout.format d ++ rest) = some d := by
  have scanned : Token.shape? layout.tokens (layout.format d ++ rest) = some (layout.format d).length :=
    Token.shape?_spelling plain ended after
  rw [dateHere?, scanned, Option.bind_some, List.take_left]
  exact parse?_format year plain (fieldsApart_of_fieldsEnd ended)

theorem noteDate?_of_head? {folder path : String} {scanned : Text} (split : path.toList = folder.toList ++ scanned)
    (first : (layout.dates scanned).head? = some d) (spelled : layout.format d <:+: path.toList) :
    noteDate? layout (some folder) path = some d := by
  have after : folder.toList.isPrefixOf? path.toList = some scanned := List.isPrefixOf?_eq_some_iff_append_eq.2 split.symm
  obtain ⟨later, dates⟩ := List.head?_eq_some_iff.1 first
  simp only [noteDate?, Option.getD_some, after, Option.bind_eq_bind, Option.bind_some]
  show (layout.dates scanned).find? _ = _
  rw [dates]
  exact List.find?_cons_of_pos (Text.contains_iff.2 spelled)

end DateLayout

open DateLayout in
/-- A note that is named by the spelling of a date, right after the folder or after the slash behind it, stands for this date. -/
theorem noteDate?_named (layout : DateLayout) (year : .field .year ∈ layout.tokens) (d : Date) (plain : d.HasPlainYear)
    (ended : FieldsEnd d layout.tokens) (folder : String) :
    noteDate? layout (some folder) (folder ++ String.ofList (layout.format d) ++ ".md") = some d ∧
    (¬ ['/'] <+: layout.format d →
      noteDate? layout (some folder) (folder ++ "/" ++ String.ofList (layout.format d) ++ ".md") = some d) := by
  have after : ∀ c ∈ ".md".toList.head?, ¬ Text.isScriptDigit c ∧ ¬ isLetter c := by
    intro c next
    obtain rfl : '.' = c := by simpa using next
    decide
  have here : layout.dateHere? (layout.format d ++ ".md".toList) = some d := dateHere?_spelling year plain ended after
  have first : (layout.dates (layout.format d ++ ".md".toList)).head? = some d := by
    cases spelled : layout.format d ++ ".md".toList with
    | nil => simp at spelled
    | cons c s =>
      rw [spelled] at here
      rw [dates_cons, here]
      rfl
  constructor
  · have split : (folder ++ String.ofList (layout.format d) ++ ".md").toList =
        folder.toList ++ (layout.format d ++ ".md".toList) := by simp
    exact noteDate?_of_head? split first ⟨folder.toList, ".md".toList, by simp⟩
  · intro elsewhere
    have nothing : layout.dateHere? ('/' :: (layout.format d ++ ".md".toList)) = none := by
      rw [dateHere?, Token.shape?_slash year elsewhere, Option.bind_none]
    have split : (folder ++ "/" ++ String.ofList (layout.format d) ++ ".md").toList =
        folder.toList ++ '/' :: (layout.format d ++ ".md".toList) := by simp
    refine noteDate?_of_head? split ?_ ⟨folder.toList ++ ['/'], ".md".toList, by simp⟩
    rw [dates_cons, nothing, Option.toList_none, List.nil_append, first]

open DateLayout in
/-- The folder is named by another day in the same layout. -/
theorem noteDate?_named_wordy :
    .field .year ∈ wordy.tokens ∧ leapDay.HasPlainYear ∧ FieldsEnd leapDay wordy.tokens ∧
    ¬ ['/'] <+: wordy.format leapDay ∧
    noteDate? wordy (some "Wednesday, 28. February 2024 (Day 100%)  Wed 28/2'24")
      "Wednesday, 28. February 2024 (Day 100%)  Wed 28/2'24/Thursday, 29. February 2024 (Day 100%)  Thu 29/2'24.md" =
      some leapDay := by
  have year : .field .year ∈ wordy.tokens := by decide +kernel
  have plain : leapDay.HasPlainYear := by decide
  have ended : FieldsEnd leapDay wordy.tokens := by decide +kernel
  have elsewhere : ¬ ['/'] <+: wordy.format leapDay := by decide +kernel
  have spelled : String.ofList (wordy.format leapDay) = "Thursday, 29. February 2024 (Day 100%)  Thu 29/2'24" := by
    decide +kernel
  have dated := (noteDate?_named wordy year leapDay plain ended "Wednesday, 28. February 2024 (Day 100%)  Wed 28/2'24").2
    elsewhere
  rw [spelled] at dated
  exact ⟨year, plain, ended, elsewhere, dated⟩

end ReadingLog
