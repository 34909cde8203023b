import ReadingLog.Proofs.NoteDate

/-!
# Dates with hyphens

What `YYYY-MM-DD` reads ends in two hyphens with a number after each, whatever the year may be. Text right before such a date
spoils it then, unless the text is a sign and digits, which the year takes in.
-/

namespace ReadingLog

theorem DateLayout.tokens_iso : iso.tokens =
    [.field .year, .literal ['-'], .field .paddedMonth, .literal ['-'], .field .paddedDay] := by decide +kernel

theorem DateLayout.isFixed_of_mem_iso : ∀ token ∈ iso.tokens, token.IsFixed := by decide +kernel

theorem DateLayout.format_iso {day : Date} : iso.format day = day.isoText := by
  simp [format, tokens_iso, Token.format, Field.format, Date.isoText]

theorem DateLayout.parse?_isoText {day : Date} (plain : day.HasPlainYear) : iso.parse? day.isoText = some day := by
  have year : .field .year ∈ iso.tokens := by simp [tokens_iso]
  rw [← format_iso]
  exact parse?_format year plain (fieldsApart_of_isFixed isFixed_of_mem_iso)

theorem Date.mem_isoText {day : Date} (plain : day.HasPlainYear) {c : Char} (member : c ∈ day.isoText) :
    c.isDigit ∨ c = '-' := by
  rw [isoText, plain.yearText_eq] at member
  simp only [List.mem_append, List.mem_cons] at member
  rcases member with (digit | rfl | digit) | rfl | digit
  · exact .inl (Text.isDigit_of_mem_padded digit)
  · exact .inr rfl
  · exact .inl (Text.isDigit_of_mem_padded digit)
  · exact .inr rfl
  · exact .inl (Text.isDigit_of_mem_padded digit)

theorem Date.not_isBlank_of_mem_isoText {day : Date} (plain : day.HasPlainYear) {c : Char} (member : c ∈ day.isoText) :
    ¬ Text.isBlank c := by
  rcases mem_isoText plain member with digit | rfl
  · exact Text.not_isBlank_of_isScriptDigit (Text.isScriptDigit_of_isDigit digit)
  · decide

theorem Date.newline_notMem_isoText {day : Date} (plain : day.HasPlainYear) : '\n' ∉ day.isoText :=
  fun member => absurd (by decide) (Date.not_isBlank_of_mem_isoText plain member)

/-- Trimming leaves a date at the end of a text as it is. -/
theorem Date.trim_append_isoText {day : Date} (plain : day.HasPlainYear) (before : Text) :
    (before ++ day.isoText).trim = before.trimStart ++ day.isoText := by
  have nonempty : day.isoText ≠ [] := by simp [isoText]
  have bare : ∀ c ∈ day.isoText, ¬ Text.isBlank c := fun _ => not_isBlank_of_mem_isoText plain
  have start : (before ++ day.isoText).trimStart = before.trimStart ++ day.isoText := by
    have kept := Text.trimStart_append nonempty bare []
    rw [List.append_nil, Text.trimStart] at kept
    rw [Text.trimStart, List.dropWhile_append, kept]
    split
    · next blank => rw [Text.trimStart, List.isEmpty_iff.1 blank, List.nil_append]
    · rfl
  have back := Text.trimStart_append (List.reverse_ne_nil_iff.2 nonempty) (fun c member => bare c (List.mem_reverse.1 member))
    before.trimStart.reverse
  rw [Text.trim, start, Text.trimEnd, List.reverse_append, ← Text.trimStart, back, ← List.reverse_append, List.reverse_reverse]

namespace DateLayout

/-! ## What is read -/

section

variable {s rest : Text}

/-- A sign and digits after it, or the sign alone. -/
def IsSigned : Text → Prop
  | [] => False
  | c :: digits => IsSign c ∧ ∀ d ∈ digits, d.isDigit

/-- The text ends in a sign and digits. -/
def EndsSigned (s : Text) : Prop := ∃ text, text <:+ s ∧ IsSigned text

/-- What precedes the digits at the end of a text tells whether they have a sign. -/
theorem endsSigned_iff : EndsSigned s ↔ (s.reverse.dropWhile Char.isDigit).head?.any fun c => c = '-' ∨ c = '+' := by
  simp only [Option.any_eq_true, decide_eq_true_eq]
  constructor
  · rintro ⟨text, ⟨front, rfl⟩, signed⟩
    cases text with
    | nil => exact signed.elim
    | cons sign digits =>
      obtain ⟨isSign, all⟩ := signed
      have ends : ¬ sign.isDigit := fun digit => not_isSign_of_isScriptDigit (Text.isScriptDigit_of_isDigit digit) isSign
      refine ⟨sign, ?_, isSign⟩
      rw [List.reverse_append, List.reverse_cons, List.append_assoc, List.singleton_append,
        List.dropWhile_append_of_pos fun c member => all c (List.mem_reverse.1 member), List.dropWhile_cons_of_neg ends,
        List.head?_cons]
  · rintro ⟨sign, head, isSign⟩
    obtain ⟨front, rest⟩ := List.head?_eq_some_iff.1 head
    have parts := List.takeWhile_append_dropWhile (p := Char.isDigit) (l := s.reverse)
    rw [rest] at parts
    refine ⟨sign :: (s.reverse.takeWhile Char.isDigit).reverse, ⟨front.reverse, ?_⟩, isSign, ?_⟩
    · simpa using congrArg List.reverse parts
    · exact fun c member => List.mem_takeWhile_imp (List.mem_reverse.1 member)

instance (s : Text) : Decidable (EndsSigned s) := decidable_of_iff _ endsSigned_iff.symm

theorem readYear?_eq_some {y : Int} (read : readYear? s = some (y, rest)) :
    ∃ year, s.trimStart = year ++ rest ∧ (year.length ≤ 4 ∨ IsSigned year) := by
  have signed {sign : Char} {digits : Text} {factor : Int} (isSign : IsSign sign) (starts : s.trimStart = sign :: digits)
      (taken : readYear?.signed digits factor = some (y, rest)) :
      ∃ year, s.trimStart = year ++ rest ∧ (year.length ≤ 4 ∨ IsSigned year) := by
    simp only [readYear?.signed] at taken
    split at taken
    · cases taken
    · simp only [Option.some.injEq, Prod.mk.injEq] at taken
      obtain ⟨-, rfl⟩ := taken
      refine ⟨sign :: digits.takeWhile Char.isDigit, ?_, .inr ⟨isSign, fun c => List.mem_takeWhile_imp⟩⟩
      rw [starts, List.cons_append]
      exact congrArg (sign :: ·) (List.prefix_iff_eq_append.1 (List.takeWhile_prefix _)).symm
  unfold readYear? at read
  split at read
  · next starts => exact signed (.inl rfl) starts read
  · next starts => exact signed (.inr rfl) starts read
  · obtain ⟨⟨n, after⟩, number, same⟩ := Option.map_eq_some_iff.1 read
    cases same
    obtain ⟨year, starts, short, -⟩ := readNumber?_eq_some number
    rw [Text.trimStart_trimStart] at starts
    exact ⟨year, starts, .inl short⟩

/-- White space and digits have no hyphen among them. -/
theorem hyphenless_of_readNumber? {width n : Nat} (read : readNumber? width s = some (n, rest)) :
    ∃ number, s = number ++ rest ∧ '-' ∉ number := by
  obtain ⟨digits, starts, -, all, -⟩ := readNumber?_eq_some read
  refine ⟨s.takeWhile Text.isBlank ++ digits, ?_, ?_⟩
  · rw [List.append_assoc, ← starts]
    exact (List.takeWhile_append_dropWhile ..).symm
  · intro member
    rcases List.mem_append.1 member with blank | digit
    · exact absurd (List.mem_takeWhile_imp blank) (by decide)
    · exact absurd (all _ digit) (by decide)

theorem readLiteral?_hyphen (read : readLiteral? ['-'] s = some rest) : s = '-' :: rest := by
  cases s with
  | nil => cases read
  | cons c s =>
    by_cases same : '-' = c
    · subst same
      cases read
      rfl
    · have inked : ¬ Text.isBlank '-' := by decide
      simp [readLiteral?, same, inked] at read

/-- A date with hyphens ends in two of them with a number after each. Its year is short or has a sign. -/
theorem parts_of_parse?_iso {d : Date} (read : iso.parse? s = some d) : ∃ year month day,
    s.trimStart = year ++ '-' :: (month ++ '-' :: day) ∧ (year.length ≤ 4 ∨ IsSigned year) ∧ '-' ∉ month ∧ '-' ∉ day := by
  obtain ⟨found, read, -⟩ := Option.bind_eq_some_iff.1 read
  simp only [tokens_iso, Token.readAll?, Token.read?, Option.bind_eq_bind, Option.bind_eq_some_iff,
    Option.map_eq_some_iff] at read
  obtain ⟨⟨_, _⟩, year, ⟨_, _⟩, ⟨_, hyphen, same⟩, ⟨_, _⟩, month, ⟨_, _⟩, ⟨_, hyphen', same'⟩, ⟨_, last⟩, day, ends⟩ := read
  cases same
  cases same'
  dsimp only at *
  obtain ⟨_, year, -⟩ := read?_year_iff.1 year
  obtain ⟨_, month, -⟩ := read?_paddedMonth_iff.1 month
  obtain ⟨_, day, -⟩ := read?_paddedDay_iff.1 day
  obtain ⟨y, starts, short⟩ := readYear?_eq_some year
  obtain rfl := readLiteral?_hyphen hyphen
  obtain ⟨m, rfl, hyphenless⟩ := hyphenless_of_readNumber? month
  obtain rfl := readLiteral?_hyphen hyphen'
  obtain ⟨n, rfl, hyphenless'⟩ := hyphenless_of_readNumber? day
  obtain rfl : last = [] := by
    split at ends
    · next empty => exact List.isEmpty_iff.1 empty
    · cases ends
  exact ⟨y, m, n, by rw [starts, List.append_nil], short, hyphenless, hyphenless'⟩

end

/-! ## Text before a date -/

variable {d e : Date} {before s : Text}

theorem cut_unique_of_last {α : Type} {a : α} {front front' back back' : List α} (absent : a ∉ back) (absent' : a ∉ back')
    (same : front ++ a :: back = front' ++ a :: back') : front = front' ∧ back = back' := by
  rcases List.append_eq_append_iff.1 same with ⟨between, rfl, rest⟩ | ⟨between, rfl, rest⟩ <;> cases between with
  | nil => exact ⟨by simp, by simp_all⟩
  | cons b between =>
    rw [List.cons_append, List.cons.injEq] at rest
    simp [rest.2] at absent absent'

/-- A date with text before it is no longer read, unless the text is part of a year with a sign. -/
theorem signed_of_parse?_append (plain : d.HasPlainYear) (bare : before.trimStart = before)
    (read : iso.parse? (before ++ iso.format d) = some e) : before = [] ∨ IsSigned before := by
  cases before with
  | nil => exact .inl rfl
  | cons c before =>
    obtain ⟨year, month, day, parts, short, hyphenless, hyphenless'⟩ := parts_of_parse?_iso read
    have inked : ¬ Text.isBlank c := by simpa [Text.trimStart] using List.dropWhile_eq_self_iff.1 bare
    have padded (n : Nat) : '-' ∉ Text.padded 2 n := fun member => absurd (Text.isDigit_of_mem_padded member) (by decide)
    rw [List.cons_append, Text.trimStart, List.dropWhile_cons_of_neg inked, format_iso, Date.isoText] at parts
    -- The last two hyphens are those of the date, and what precedes them is the year that was read.
    have last_cut : (c :: before ++ (Date.yearText d.year ++ '-' :: Text.padded 2 d.month)) ++ '-' :: Text.padded 2 d.day =
        (year ++ '-' :: month) ++ '-' :: day := by simpa using parts
    have cut : (c :: before ++ Date.yearText d.year) ++ '-' :: Text.padded 2 d.month = year ++ '-' :: month := by
      simpa using (cut_unique_of_last (padded d.day) hyphenless' last_cut).1
    obtain ⟨parts, -⟩ := cut_unique_of_last (padded d.month) hyphenless cut
    have small : d.year.natAbs < 10 ^ 4 := by
      obtain ⟨least, most⟩ := plain
      omega
    rcases short with short | signed
    · rw [← parts, plain.yearText_eq, List.length_append, Text.length_padded (by decide) small] at short
      simp at short
    · rw [← parts] at signed
      exact .inr ⟨signed.1, fun c member => signed.2 c (List.mem_append_left _ member)⟩

/-! ## Dates at the end of a text -/

/-- Texts of one shape have the same length. -/
theorem Token.length_eq_of_shaped {tokens : List Token} {piece piece' : Text} (shaped : Shaped tokens piece)
    (shaped' : Shaped tokens piece') : piece.length = piece'.length := by
  induction tokens generalizing piece piece' with
  | nil => rw [show piece = [] from shaped, show piece' = [] from shaped']
  | cons token tokens ih =>
    cases token with
    | literal text =>
      obtain ⟨_, rfl, shaped⟩ := shaped
      obtain ⟨_, rfl, shaped'⟩ := shaped'
      simp [ih shaped shaped']
    | field f =>
      obtain ⟨_, _, rfl, width, -, shaped⟩ := shaped
      obtain ⟨_, _, rfl, width', -, shaped'⟩ := shaped'
      simp [width, width', ih shaped shaped']

/-- The candidates of a layout of fixed width are the pieces that have its shape. -/
theorem mem_candidates_iff {layout : DateLayout} (fixed : ∀ token ∈ layout.tokens, token.IsFixed) {candidate : Text} :
    candidate ∈ layout.candidates s ↔ Token.Shaped layout.tokens candidate ∧ candidate <:+: s := by
  unfold candidates
  induction s with
  | nil =>
    simp only [Token.candidates, List.not_mem_nil, List.infix_nil, false_iff, not_and]
    rintro shaped rfl
    have spelled := Token.length_eq_of_shaped shaped (Token.shaped_spelling fixed (d := leapDay) (by decide))
    exact layout.format_ne_nil leapDay (List.eq_nil_of_length_eq_zero spelled.symm)
  | cons c s ih =>
    rw [Token.candidates, List.infix_cons_iff, and_or_left, ← ih]
    cases found : Token.shape? layout.tokens (c :: s) with
    | some n =>
      obtain ⟨piece, rest, parts, shaped, rfl⟩ := (Token.shape?_eq_some_iff fixed).1 found
      have here : Token.Shaped layout.tokens candidate ∧ candidate <+: c :: s ↔ candidate = piece := by
        rw [parts]
        constructor
        · rintro ⟨shaped', start⟩
          exact (List.prefix_of_prefix_length_le start (List.prefix_append ..)
            (Token.length_eq_of_shaped shaped' shaped).le).eq_of_length (Token.length_eq_of_shaped shaped' shaped)
        · rintro rfl
          exact ⟨shaped, List.prefix_append ..⟩
      rw [here, List.mem_cons, parts, List.take_left]
    | none =>
      have nowhere : ¬ (Token.Shaped layout.tokens candidate ∧ candidate <+: c :: s) := by
        rintro ⟨shaped, rest, parts⟩
        have shape := (Token.shape?_eq_some_iff fixed).2 ⟨candidate, rest, parts.symm, shaped, rfl⟩
        rw [found] at shape
        cases shape
      simp [nowhere]

/-- Of the candidates in a text that ends in the spelling of a date, only that spelling ends it. -/
theorem eq_format_of_mem_candidates {layout : DateLayout} (fixed : ∀ token ∈ layout.tokens, token.IsFixed)
    (plain : d.HasPlainYear) {candidate : Text} (member : candidate ∈ layout.candidates s)
    (ends : candidate <:+ s) (ends' : layout.format d <:+ s) : candidate = layout.format d := by
  have length := Token.length_eq_of_shaped ((mem_candidates_iff fixed).1 member).1 (Token.shaped_spelling fixed plain)
  exact (List.suffix_of_suffix_length_le ends ends' length.le).eq_of_length length

end DateLayout
end ReadingLog
