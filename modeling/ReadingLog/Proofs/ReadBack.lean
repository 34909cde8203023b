import ReadingLog.Proofs.FixedLayout

/-!
# Reading a spelled date

What the fields of a layout say of a date is found again in its spelling, token by token. Numbers without leading zeros are
the only fields whose end the text must show: `FieldsApart` asks that no digit follows them.
-/

namespace ReadingLog.DateLayout

/-! ## What tokens say of a date -/

/-- The field gives the weekday. -/
def Field.isWeekday (f : Field) : Bool := f matches weekdayName | weekdayAbbreviation

theorem Token.anyField_iff {p : Field → Bool} {tokens : List Token} : anyField p tokens ↔ ∃ f, .field f ∈ tokens ∧ p f := by
  simp only [anyField, List.any_eq_true]
  constructor
  · rintro ⟨token, member, holds⟩
    cases token with
    | field f => exact ⟨f, member, holds⟩
    | literal => cases holds
  · rintro ⟨f, member, holds⟩
    exact ⟨.field f, member, holds⟩

/-- The spelling of a date is never empty: it has a year. -/
theorem format_ne_nil (layout : DateLayout) (d : Date) : layout.format d ≠ [] := by
  have complete := layout.complete
  simp only [Token.areComplete, Bool.and_eq_true] at complete
  obtain ⟨f, member, year⟩ := Token.anyField_iff.1 complete.1.1
  have spelled : f.format d ≠ [] := by
    cases f with
    | year =>
      show Date.yearText d.year ≠ []
      unfold Date.yearText
      split
      · nofun
      · split
        · nofun
        · exact Text.padded_ne_nil _ _
    | shortYear => exact Text.padded_ne_nil _ _
    | _ => cases year
  exact fun empty => spelled (List.flatMap_eq_nil_iff.1 empty _ member)

/-- What tokens say of a date. -/
def Findings.ofTokens (d : Date) (tokens : List Token) : Findings where
  year := if .field .year ∈ tokens then some d.year else none
  shortYear := if .field .shortYear ∈ tokens then some (d.year % 100).toNat else none
  month := if Token.anyField Field.isMonth tokens then some d.month else none
  day := if Token.anyField Field.isDay tokens then some d.day else none
  weekday := if Token.anyField Field.isWeekday tokens then some d.weekday else none

variable {d : Date}

/-- One more field says what it is for, and nothing else. -/
theorem Findings.ofTokens_concat (earlier : List Token) (f : Field) :
    ofTokens d (earlier ++ [.field f]) = match f with
      | .year => { ofTokens d earlier with year := some d.year }
      | .shortYear => { ofTokens d earlier with shortYear := some (d.year % 100).toNat }
      | .monthName | .monthAbbreviation | .paddedMonth | .month => { ofTokens d earlier with month := some d.month }
      | .paddedDay | .day => { ofTokens d earlier with day := some d.day }
      | .weekdayName | .weekdayAbbreviation => { ofTokens d earlier with weekday := some d.weekday } := by
  have any_concat (p : Field → Bool) : Token.anyField p (earlier ++ [.field f]) = (Token.anyField p earlier || p f) := by
    simp [Token.anyField]
  cases f <;> simp [ofTokens, any_concat, Field.isMonth, Field.isDay, Field.isWeekday]

/-- Tokens that fix a date say enough of it, save that two digits of a year leave the century open. -/
theorem Findings.date?_ofTokens {tokens : List Token} (complete : Token.areComplete tokens) (plain : d.HasPlainYear)
    (century : .field .shortYear ∈ tokens → .field .year ∉ tokens → 1970 ≤ d.year ∧ d.year ≤ 2069) :
    (ofTokens d tokens).date? = some d := by
  simp only [Token.areComplete, Bool.and_eq_true] at complete
  obtain ⟨⟨years, months⟩, days⟩ := complete
  have made : Date.ofYMD? d.year d.month d.day = some d := Date.ofYMD?_eq_some_iff.2 ⟨rfl, rfl, rfl⟩
  have month : (ofTokens d tokens).month = some d.month := if_pos months
  have day : (ofTokens d tokens).day = some d.day := if_pos days
  have weekday : (ofTokens d tokens).weekday.all (· = d.weekday) := by
    simp only [ofTokens]
    split <;> simp
  have year : (ofTokens d tokens).year? = some d.year := by
    have remainder : ((d.year % 100).toNat : Int) = d.year % 100 := by omega
    by_cases full : .field .year ∈ tokens
    · by_cases short : .field .shortYear ∈ tokens <;> simp [year?, ofTokens, full, short, remainder, plain.1]
    · obtain ⟨f, member, gives⟩ := Token.anyField_iff.1 years
      have short : .field .shortYear ∈ tokens := by
        cases f <;> first | exact member | exact absurd member full | cases gives
      have range := century short full
      simp only [year?, ofTokens, full, short, if_true, if_false, centuryOf, Option.some.injEq]
      split <;> omega
  simp only [date?, year, month, day, Option.bind_eq_bind, Option.bind_some, made, weekday, if_true]

/-- What has been noted of a date before is no other value. -/
theorem Findings.note?_ite {α : Type} [DecidableEq α] (noted : Prop) [Decidable noted] (value : α) :
    note? (if noted then some value else none) value = some (some value) :=
  note?_eq_some_iff.2 ⟨rfl, fun v earlier => by split at earlier <;> simp_all⟩

/-! ## Reading numbers -/

variable {rest : Text}

/-- Digits are read as a number if they are not too many, and if no digit follows where there could be more. -/
theorem readNumber?_of_digits {width : Nat} {s digits : Text} (all : ∀ c ∈ digits, c.isDigit) (nonempty : digits ≠ [])
    (short : digits.length ≤ width) (ends : digits.length = width ∨ ∀ c ∈ rest.head?, ¬ c.isDigit)
    (starts : s.trimStart = digits ++ rest) : readNumber? width s = some (Text.value digits, rest) := by
  have stops : (rest.take (width - digits.length)).takeWhile Char.isDigit = [] := by
    rcases ends with full | ends
    · rw [full, Nat.sub_self, List.take_zero, List.takeWhile_nil]
    · cases rest with
      | nil => rw [List.take_nil, List.takeWhile_nil]
      | cons c rest =>
        cases width - digits.length with
        | zero => rfl
        | succ => exact List.takeWhile_cons_of_neg (ends c rfl)
  have taken : ((digits ++ rest).take width).takeWhile Char.isDigit = digits := by
    rw [List.take_append, List.take_of_length_le short, List.takeWhile_append_of_pos all, stops, List.append_nil]
  simp [readNumber?, starts, taken, nonempty]

theorem trimStart_padded (least n : Nat) : (Text.padded least n ++ rest).trimStart = Text.padded least n ++ rest :=
  Text.trimStart_append (Text.padded_ne_nil least n) (fun _ => Text.not_isBlank_of_mem_padded) rest

theorem readNumber?_padded {least width n : Nat} (some_digit : 0 < width) (fits : least ≤ width) (small : n < 10 ^ width)
    (ends : least = width ∨ ∀ c ∈ rest.head?, ¬ c.isDigit) :
    readNumber? width (Text.padded least n ++ rest) = some (n, rest) := by
  have short := Text.length_padded_le some_digit fits small
  have ends' : (Text.padded least n).length = width ∨ ∀ c ∈ rest.head?, ¬ c.isDigit := by
    refine ends.imp_left ?_
    rintro rfl
    exact Text.length_padded some_digit small
  rw [readNumber?_of_digits (fun _ => Text.isDigit_of_mem_padded) (Text.padded_ne_nil _ _) short ends'
    (trimStart_padded ..), Text.value_padded]

theorem readYear?_padded {n : Nat} (small : n < 10 ^ 4) : readYear? (Text.padded 4 n ++ rest) = some ((n : Int), rest) := by
  have unsigned : ∀ c, (Text.padded 4 n ++ rest).trimStart.head? = some c → ¬ IsSign c := by
    intro c head
    rw [trimStart_padded, List.head?_append_of_ne_nil _ (Text.padded_ne_nil _ _)] at head
    exact not_isSign_of_isScriptDigit (Text.isScriptDigit_of_isDigit (Text.isDigit_of_mem_padded (List.mem_of_mem_head? head)))
  rw [readYear?_of_not_isSign unsigned, readNumber?_padded (by decide) (by decide) small (.inl rfl)]
  rfl

/-- A plain year has no sign and four digits. -/
theorem readYear?_plain (plain : d.HasPlainYear) : readYear? (Date.yearText d.year ++ rest) = some (d.year, rest) := by
  have small : d.year.natAbs < 10 ^ 4 := by
    obtain ⟨least, most⟩ := plain
    omega
  rw [plain.yearText_eq, readYear?_padded small]
  exact congrArg (fun y => some (y, rest)) (Int.natAbs_of_nonneg plain.1)

/-! ## Reading names -/

/-- Names are told apart by their first three letters, whatever the case of these. -/
def AreToldApart (names : List String) : Prop :=
  (∀ name ∈ names, 3 ≤ name.toList.length) ∧
  names.Pairwise fun a b => Text.sameIgnoringCase (b.toList.take 3) (a.toList.take 3) = false

instance (names : List String) : Decidable (AreToldApart names) := inferInstanceAs (Decidable (_ ∧ _))

theorem dropIgnoringCase?_append (piece : Text) : dropIgnoringCase? piece (piece ++ rest) = some rest := by
  simp [dropIgnoringCase?, Text.sameIgnoringCase]

section

variable {names : List String} {name : String} {i : Nat}

/-- The search for an abbreviation passes by all names before its own, wherever their numbers start. -/
theorem findSome?_zipIdx_names (apart : AreToldApart names) (place : names[i]? = some name) (first : Nat) :
    ((names.zipIdx first).findSome? fun (other, i) =>
      (dropIgnoringCase? (other.toList.take 3) (name.toList.take 3 ++ rest)).map (i, ·)) = some (first + i, rest) := by
  induction names generalizing i first with
  | nil => simp at place
  | cons other names ih =>
    obtain ⟨long, differ⟩ := apart
    simp only [List.zipIdx_cons, List.findSome?_cons]
    cases i with
    | zero =>
      obtain rfl : other = name := by simpa using place
      rw [dropIgnoringCase?_append]
      rfl
    | succ i =>
      have later : names[i]? = some name := by simpa using place
      have member := List.mem_of_getElem? later
      have passed : dropIgnoringCase? (other.toList.take 3) (name.toList.take 3 ++ rest) = none := by
        have width : (other.toList.take 3).length = 3 := List.length_take_of_le (long other List.mem_cons_self)
        have width' : (name.toList.take 3).length = 3 := List.length_take_of_le (long name (List.mem_cons_of_mem _ member))
        simp [dropIgnoringCase?, width, List.take_left' width', List.rel_of_pairwise_cons differ member]
      rw [passed, Option.map_none, ih ⟨fun n inside => long n (List.mem_cons_of_mem _ inside), differ.of_cons⟩ later]
      simp only [Option.some.injEq, Prod.mk.injEq, and_true]
      omega

theorem readAbbreviation?_append (apart : AreToldApart names) (place : names[i]? = some name) :
    readAbbreviation? names (name.toList.take 3 ++ rest) = some (i, rest) := by
  rw [readAbbreviation?, findSome?_zipIdx_names apart place, Nat.zero_add]

theorem readName?_append (apart : AreToldApart names) (place : names[i]? = some name) :
    readName? names (name.toList ++ rest) = some (i, rest) := by
  have parts : name.toList ++ rest = name.toList.take 3 ++ (name.toList.drop 3 ++ rest) := by
    rw [← List.append_assoc, List.take_append_drop]
  rw [parts, readName?, readAbbreviation?_append apart place]
  simp [place, dropIgnoringCase?_append]

end

theorem monthNames_areToldApart : AreToldApart Date.monthNames := by decide

theorem weekdayNames_areToldApart : AreToldApart Date.weekdayNames := by decide

theorem exists_monthName (d : Date) : ∃ name, Date.monthNames[d.month - 1]? = some name ∧ d.monthName = name.toList := by
  have inside : d.month - 1 < Date.monthNames.length := by
    obtain ⟨-, months, -⟩ := d.isDay
    simp only [Date.monthNames, List.length_cons, List.length_nil]
    omega
  exact ⟨_, List.getElem?_eq_getElem inside, by simp [Date.monthName, inside]⟩

theorem exists_weekdayName (d : Date) :
    ∃ name, Date.weekdayNames[d.weekday]? = some name ∧ d.weekdayName = name.toList := by
  have inside : d.weekday < Date.weekdayNames.length := by
    simp only [Date.weekday, Date.weekdayNames, List.length_cons, List.length_nil]
    omega
  exact ⟨_, List.getElem?_eq_getElem inside, by simp [Date.weekdayName, inside]⟩

/-! ## Reading tokens -/

/-- In the spelling of a date by tokens, no digit stands right after an `M` or a `D`. -/
def FieldsApart (d : Date) : List Token → Prop
  | [] => True
  | .literal _ :: tokens => FieldsApart d tokens
  | .field f :: tokens =>
    (f = .month ∨ f = .day → ∀ c ∈ (tokens.flatMap (Token.format d)).head?, ¬ c.isDigit) ∧ FieldsApart d tokens

instance decidableFieldsApart (d : Date) : (tokens : List Token) → Decidable (FieldsApart d tokens)
  | [] => .isTrue trivial
  | .literal _ :: tokens => decidableFieldsApart d tokens
  | .field _ :: tokens =>
    have := decidableFieldsApart d tokens
    have (spelling : Text) : Decidable (∀ c ∈ spelling.head?, ¬ c.isDigit) := Option.decidableForallMem _
    inferInstanceAs (Decidable (_ ∧ _))

/-- The spelling of a field has no white space. -/
theorem not_isBlank_of_mem_format {f : Field} (plain : d.HasPlainYear) : f.format d ≠ [] ∧ ∀ c ∈ f.format d, ¬ Text.isBlank c := by
  have numeral (least n : Nat) : Text.padded least n ≠ [] ∧ ∀ c ∈ Text.padded least n, ¬ Text.isBlank c :=
    ⟨Text.padded_ne_nil least n, fun _ => Text.not_isBlank_of_mem_padded⟩
  have named : ∀ name ∈ Date.monthNames ++ Date.weekdayNames,
      name.toList.take 3 ≠ [] ∧ name.toList.all fun c => !Text.isBlank c := by decide
  have word {text : Text} (spelled : ∃ name ∈ Date.monthNames ++ Date.weekdayNames, text = name.toList) :
      (text ≠ [] ∧ ∀ c ∈ text, ¬ Text.isBlank c) ∧ (text.take 3 ≠ [] ∧ ∀ c ∈ text.take 3, ¬ Text.isBlank c) := by
    obtain ⟨name, member, rfl⟩ := spelled
    obtain ⟨nonempty, all⟩ := named name member
    have bare : ∀ c ∈ name.toList, ¬ Text.isBlank c := by simpa using all
    refine ⟨⟨fun empty => nonempty (by rw [empty, List.take_nil]), bare⟩, nonempty, fun c inside => ?_⟩
    exact bare c (List.mem_of_mem_take inside)
  have month : ∃ name ∈ Date.monthNames ++ Date.weekdayNames, d.monthName = name.toList := by
    obtain ⟨name, place, spelled⟩ := exists_monthName d
    exact ⟨name, List.mem_append_left _ (List.mem_of_getElem? place), spelled⟩
  have weekday : ∃ name ∈ Date.monthNames ++ Date.weekdayNames, d.weekdayName = name.toList := by
    obtain ⟨name, place, spelled⟩ := exists_weekdayName d
    exact ⟨name, List.mem_append_right _ (List.mem_of_getElem? place), spelled⟩
  cases f with
  | year =>
    show Date.yearText d.year ≠ [] ∧ ∀ c ∈ Date.yearText d.year, ¬ Text.isBlank c
    rw [plain.yearText_eq]
    exact numeral 4 _
  | shortYear | paddedMonth | paddedDay => exact numeral 2 _
  | month | day =>
    rw [Field.format, ← Text.padded_one]
    exact numeral 1 _
  | monthName => exact (word month).1
  | monthAbbreviation => exact (word month).2
  | weekdayName => exact (word weekday).1
  | weekdayAbbreviation => exact (word weekday).2

theorem read?_format {f : Field} (plain : d.HasPlainYear) (earlier : List Token)
    (apart : f = .month ∨ f = .day → ∀ c ∈ rest.head?, ¬ c.isDigit) :
    f.read? (Findings.ofTokens d earlier) (f.format d ++ rest) = some (Findings.ofTokens d (earlier ++ [.field f]), rest) := by
  obtain ⟨-, months, -⟩ := d.isDay
  have days : 1 ≤ d.day ∧ d.day ≤ 31 := ⟨d.isDay.day_range.1, d.day_le⟩
  have monthRange : inRange? 12 d.month = some d.month := inRange?_eq_some_iff.2 ⟨rfl, months⟩
  have dayRange : inRange? 31 d.day = some d.day := inRange?_eq_some_iff.2 ⟨rfl, days⟩
  have month_number : d.month - 1 + 1 = d.month := by omega
  obtain ⟨month, month_place, month_spelled⟩ := exists_monthName d
  obtain ⟨weekday, weekday_place, weekday_spelled⟩ := exists_weekdayName d
  have padded (n : Nat) (small : n < 100) : readNumber? 2 (Text.padded 2 n ++ rest) = some (n, rest) :=
    readNumber?_padded (by decide) (by decide) small (.inl rfl)
  have unpadded (n : Nat) (small : n < 100) (ends : ∀ c ∈ rest.head?, ¬ c.isDigit) :
      readNumber? 2 (Text.ofNat n ++ rest) = some (n, rest) := by
    rw [← Text.padded_one]
    exact readNumber?_padded (by decide) (by decide) small (.inr ends)
  rw [Findings.ofTokens_concat]
  cases f with
  | year => simp [Field.read?, Field.format, readYear?_plain plain, Findings.ofTokens, Findings.note?_ite]
  | shortYear =>
    simp [Field.read?, Field.format, padded (d.year % 100).toNat (by omega), Findings.ofTokens,
      Findings.note?_ite]
  | monthName =>
    simp [Field.read?, Field.format, month_spelled, readName?_append monthNames_areToldApart month_place, month_number,
      Findings.ofTokens, Findings.note?_ite]
  | monthAbbreviation =>
    simp [Field.read?, Field.format, month_spelled, readAbbreviation?_append monthNames_areToldApart month_place,
      month_number, Findings.ofTokens, Findings.note?_ite]
  | paddedMonth =>
    simp [Field.read?, Field.format, padded d.month (by omega), monthRange, Findings.ofTokens, Findings.note?_ite]
  | month =>
    simp [Field.read?, Field.format, unpadded d.month (by omega) (apart (.inl rfl)), monthRange, Findings.ofTokens,
      Findings.note?_ite]
  | paddedDay => simp [Field.read?, Field.format, padded d.day (by omega), dayRange, Findings.ofTokens, Findings.note?_ite]
  | day =>
    simp [Field.read?, Field.format, unpadded d.day (by omega) (apart (.inr rfl)), dayRange, Findings.ofTokens,
      Findings.note?_ite]
  | weekdayName =>
    simp [Field.read?, Field.format, weekday_spelled, readName?_append weekdayNames_areToldApart weekday_place,
      Findings.ofTokens, Findings.note?_ite]
  | weekdayAbbreviation =>
    simp [Field.read?, Field.format, weekday_spelled, readAbbreviation?_append weekdayNames_areToldApart weekday_place,
      Findings.ofTokens, Findings.note?_ite]

/-- Literal text is read off the text that begins with it, and off that text less the white space it begins with. -/
theorem readLiteral?_append {text s : Text} (here : s = text ++ rest ∨ s = Text.trimStart (text ++ rest)) :
    ∃ after, readLiteral? text s = some after ∧ (after = rest ∨ after = rest.trimStart) := by
  induction text generalizing s with
  | nil => exact ⟨s, rfl, here⟩
  | cons c text ih =>
    by_cases blank : Text.isBlank c
    · have trimmed : s.trimStart = Text.trimStart (text ++ rest) := by
        have dropped : Text.trimStart (c :: text ++ rest) = Text.trimStart (text ++ rest) :=
          List.dropWhile_cons_of_pos blank
        rcases here with rfl | rfl
        · exact dropped
        · rw [Text.trimStart_trimStart, dropped]
      obtain ⟨after, read, left⟩ := ih (.inr trimmed)
      refine ⟨after, ?_, left⟩
      unfold readLiteral?
      rw [if_pos blank, read]
    · have kept : Text.trimStart (c :: text ++ rest) = c :: text ++ rest := List.dropWhile_cons_of_neg blank
      obtain rfl : s = c :: text ++ rest := by
        rcases here with rfl | rfl
        · rfl
        · exact kept
      obtain ⟨after, read, left⟩ := ih (.inl rfl)
      exact ⟨after, by simp [readLiteral?, blank, read], left⟩

/-- Reading off a spelling finds what the tokens say. White space that begins it may be gone: a literal may have used it
    up. -/
theorem Token.readAll?_spelling {tokens : List Token} (plain : d.HasPlainYear) (apart : FieldsApart d tokens)
    (earlier : List Token) {s : Text}
    (here : s = tokens.flatMap (format d) ∨ s = Text.trimStart (tokens.flatMap (format d))) :
    readAll? tokens (Findings.ofTokens d earlier) s = some (Findings.ofTokens d (earlier ++ tokens)) := by
  induction tokens generalizing earlier s with
  | nil =>
    obtain rfl : s = [] := by
      rcases here with rfl | rfl <;> rfl
    rw [List.append_nil]
    rfl
  | cons token tokens ih =>
    rw [List.flatMap_cons] at here
    cases token with
    | literal text =>
      obtain ⟨after, read, here⟩ : ∃ after, readLiteral? text s = some after ∧ _ := readLiteral?_append here
      have same : Findings.ofTokens d (earlier ++ .literal text :: tokens) = Findings.ofTokens d (earlier ++ tokens) := by
        simp [Findings.ofTokens, anyField]
      rw [same, ← ih apart earlier here]
      simp [readAll?, Token.read?, read]
    | field f =>
      obtain ⟨nonempty, bare⟩ := not_isBlank_of_mem_format (f := f) plain
      have kept : Text.trimStart (f.format d ++ tokens.flatMap (format d)) = f.format d ++ tokens.flatMap (format d) :=
        Text.trimStart_append nonempty bare _
      obtain rfl : s = f.format d ++ tokens.flatMap (format d) := by
        rcases here with rfl | rfl
        · rfl
        · exact kept
      have later := ih apart.2 (earlier ++ [.field f]) (.inl rfl)
      rw [List.append_assoc] at later
      have read := read?_format plain earlier apart.1
      simpa [readAll?, Token.read?, read] using later

/-! ## Reading dates -/

/-- A date is read back from its spelling if no digit follows an `M` or a `D` in it, and if two digits are enough for the year
    where the layout has no more. -/
theorem parse?_format_of_fieldsApart (layout : DateLayout) (d : Date) (plain : d.HasPlainYear)
    (century : .field .shortYear ∈ layout.tokens → .field .year ∉ layout.tokens → 1970 ≤ d.year ∧ d.year ≤ 2069)
    (apart : FieldsApart d layout.tokens) : layout.parse? (layout.format d) = some d := by
  have read : Token.readAll? layout.tokens {} (layout.format d) = some (Findings.ofTokens d layout.tokens) :=
    Token.readAll?_spelling plain apart [] (.inl rfl)
  rw [parse?, Token.parse?, read, Option.bind_some]
  exact Findings.date?_ofTokens layout.complete plain century

/-- A layout with names, repeated fields, a bracketed text and a percent sign. -/
def wordy : DateLayout := ⟨"dddd, D. MMMM YYYY [(Day 100%)]  ddd D/M'YY", by decide +kernel⟩

/-- The 29th of February of 2024, a Thursday. -/
def leapDay : Date := ⟨2024, 2, 29, by decide⟩

theorem parse?_format_of_fieldsApart_wordy : leapDay.HasPlainYear ∧
    (.field .shortYear ∈ wordy.tokens → .field .year ∉ wordy.tokens → 1970 ≤ leapDay.year ∧ leapDay.year ≤ 2069) ∧
    FieldsApart leapDay wordy.tokens ∧
    wordy.parse? "Thursday, 29. February 2024 (Day 100%)  Thu 29/2'24".toList = some leapDay := by
  have plain : leapDay.HasPlainYear := by decide
  have century : .field .shortYear ∈ wordy.tokens → .field .year ∉ wordy.tokens →
      1970 ≤ leapDay.year ∧ leapDay.year ≤ 2069 := fun _ _ => by decide
  have apart : FieldsApart leapDay wordy.tokens := by decide +kernel
  have spelled : wordy.format leapDay = "Thursday, 29. February 2024 (Day 100%)  Thu 29/2'24".toList := by decide +kernel
  exact ⟨plain, century, apart, spelled ▸ parse?_format_of_fieldsApart wordy leapDay plain century apart⟩

end ReadingLog.DateLayout
