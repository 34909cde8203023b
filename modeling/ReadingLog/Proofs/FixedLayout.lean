import Mathlib.Data.List.Basic
import ReadingLog.DateLayout.Candidates
import ReadingLog.DateLayout.Reading
import ReadingLog.Proofs.Calendar
import ReadingLog.Proofs.Numerals
import ReadingLog.Proofs.Trimming

/-!
# Layouts of fixed width

In a layout of `YYYY`, `MM`, `DD` and literal text, every piece of a candidate has a width of its own. What the reader takes
in must then be the candidate piece by piece, so that a candidate that is read as a date is the spelling of that date.
-/

namespace ReadingLog

/-- A year that is written with four digits and no sign. -/
def Date.HasPlainYear (d : Date) : Prop := 0 ≤ d.year ∧ d.year ≤ 9999

instance (d : Date) : Decidable d.HasPlainYear := inferInstanceAs (Decidable (_ ∧ _))

theorem Date.HasPlainYear.yearText_eq {d : Date} (plain : d.HasPlainYear) :
    Date.yearText d.year = Text.padded 4 d.year.natAbs := by
  obtain ⟨least, most⟩ := plain
  rw [Date.yearText, if_neg (by omega), if_neg (by omega)]

namespace DateLayout

/-- `YYYY`, `MM` or `DD`. -/
def Field.IsFixed (f : Field) : Prop := f = .year ∨ f = .paddedMonth ∨ f = .paddedDay

/-- One of these fields, or literal text. -/
def Token.IsFixed (token : Token) : Prop := ∀ f, token = .field f → f.IsFixed

instance (f : Field) : Decidable f.IsFixed := inferInstanceAs (Decidable (_ ∨ _))

instance (token : Token) : Decidable token.IsFixed :=
  match token with
  | .field f => decidable_of_iff f.IsFixed ⟨fun fixed g same => by cases same; exact fixed, fun fixed => fixed f rfl⟩
  | .literal _ => .isTrue fun _ same => by cases same

/-- The number of digits of a field of fixed width. -/
def Field.width : Field → Nat
  | .year => 4
  | _ => 2

theorem Field.width_pos (f : Field) : 0 < f.width := by cases f <;> decide

/-! ## Shapes -/

/-- A text that consists of one piece for each token: of the right number of digits, of whatever script, or verbatim. -/
def Token.Shaped : List Token → Text → Prop
  | [], s => s = []
  | .literal text :: tokens, s => ∃ rest, s = text ++ rest ∧ Shaped tokens rest
  | .field f :: tokens, s =>
    ∃ piece rest, s = piece ++ rest ∧ piece.length = f.width ∧ (∀ c ∈ piece, Text.isScriptDigit c) ∧ Shaped tokens rest

theorem Field.IsFixed.lengths_eq {f : Field} (fixed : f.IsFixed) (s : Text) :
    f.lengths s = exactly f.width Text.isScriptDigit s := by
  rcases fixed with rfl | rfl | rfl <;> rfl

theorem Token.isFixed_of_cons {token : Token} {tokens : List Token} (fixed : ∀ t ∈ token :: tokens, t.IsFixed) :
    token.IsFixed ∧ ∀ t ∈ tokens, t.IsFixed :=
  ⟨fixed token List.mem_cons_self, fun t member => fixed t (List.mem_cons_of_mem _ member)⟩

/-- The shape of fixed tokens fits one piece at most, and takes all of it. -/
theorem Token.shape?_eq_some_iff {tokens : List Token} (fixed : ∀ t ∈ tokens, t.IsFixed) {s : Text} {n : Nat} :
    shape? tokens s = some n ↔ ∃ piece rest, s = piece ++ rest ∧ Shaped tokens piece ∧ piece.length = n := by
  induction tokens generalizing s n with
  | nil =>
    constructor
    · intro found
      obtain rfl := Option.some.inj found
      exact ⟨[], s, rfl, rfl, rfl⟩
    · rintro ⟨_, rest, -, rfl, rfl⟩
      rfl
  | cons token tokens ih =>
    obtain ⟨first, others⟩ := isFixed_of_cons fixed
    cases token with
    | literal text =>
      simp only [shape?]
      constructor
      · intro found
        split at found
        · next start =>
          obtain ⟨after, rfl⟩ := List.isPrefixOf_iff_prefix.1 start
          obtain ⟨m, later, rfl⟩ := Option.map_eq_some_iff.1 found
          rw [List.drop_left] at later
          obtain ⟨piece, rest, rfl, shaped, rfl⟩ := (ih others).1 later
          exact ⟨text ++ piece, rest, (List.append_assoc ..).symm, ⟨piece, rfl, shaped⟩, List.length_append⟩
        · cases found
      · rintro ⟨_, rest, rfl, ⟨piece, rfl, shaped⟩, rfl⟩
        have later := (ih others).2 ⟨piece, rest, rfl, shaped, rfl⟩
        rw [List.append_assoc, if_pos (List.isPrefixOf_iff_prefix.2 (List.prefix_append ..)), List.drop_left, later,
          Option.map_some, List.length_append]
    | field f =>
      simp only [shape?, (first f rfl).lengths_eq, exactly]
      constructor
      · intro found
        split at found
        · next fits =>
          obtain ⟨m, later, rfl⟩ := Option.map_eq_some_iff.1 (by simpa using found)
          obtain ⟨piece, rest, split, shaped, rfl⟩ := (ih others).1 later
          refine ⟨s.take f.width ++ piece, rest, ?_, ⟨_, piece, rfl, fits.1, ?_, shaped⟩, ?_⟩
          · rw [List.append_assoc, ← split, List.take_append_drop]
          · exact List.all_eq_true.1 fits.2
          · rw [List.length_append, fits.1]
        · cases found
      · rintro ⟨_, rest, rfl, ⟨digits, piece, rfl, width, all, shaped⟩, rfl⟩
        have later := (ih others).2 ⟨piece, rest, rfl, shaped, rfl⟩
        have start : (digits ++ piece ++ rest).take f.width = digits := by
          rw [List.append_assoc, ← width, List.take_left]
        have after : (digits ++ piece ++ rest).drop f.width = piece ++ rest := by
          rw [List.append_assoc, ← width, List.drop_left]
        rw [start, if_pos ⟨width, List.all_eq_true.2 all⟩]
        simp only [List.findSome?_cons, after, later, Option.map_some, List.length_append, width]

/-! ## Findings and dates -/

/-- What is found so far is true of a date. -/
structure Findings.Fits (found : Findings) (d : Date) : Prop where
  year : ∀ y, found.year = some y → y = d.year
  month : ∀ m, found.month = some m → m = d.month
  day : ∀ n, found.day = some n → n = d.day

theorem Findings.note?_eq_some_iff {α : Type} [DecidableEq α] {earlier : Option α} {value : α} {later : Option α} :
    note? earlier value = some later ↔ later = some value ∧ ∀ v, earlier = some v → v = value := by
  cases earlier with
  | none => simp [note?, eq_comm]
  | some v =>
    by_cases same : v = value
    · simp [note?, same, eq_comm]
    · simp [note?, same]

/-- A year in full is the year that findings agree on, if they do. -/
theorem Findings.year_eq_of_year? {found : Findings} {y y' : Int} (full : found.year = some y)
    (agreed : found.year? = some y') : y = y' := by
  unfold year? at agreed
  rw [full] at agreed
  split at agreed
  · next same _ =>
    cases same
    exact Option.some.inj agreed
  · next same _ =>
    cases same
    split at agreed
    · exact Option.some.inj agreed
    · cases agreed
  · next missing _ => cases missing
  · cases agreed

/-- A date that findings fix is one that they are true of. -/
theorem Findings.fits_of_date? {found : Findings} {d : Date} (fixes : found.date? = some d) : found.Fits d := by
  simp only [Findings.date?, Option.bind_eq_bind, Option.bind_eq_some_iff] at fixes
  obtain ⟨year, known, month, month_known, day, day_known, date, made, fixes⟩ := fixes
  have same : date = d := by
    split at fixes
    · exact Option.some.inj fixes
    · cases fixes
  obtain ⟨rfl, rfl, rfl⟩ := Date.ofYMD?_eq_some_iff.1 (same ▸ made)
  refine ⟨fun y full => Findings.year_eq_of_year? full known, fun m full => ?_, fun n full => ?_⟩
  · exact Option.some.inj (full.symm.trans month_known)
  · exact Option.some.inj (full.symm.trans day_known)

/-! ## Reading -/

section

variable {found found' : Findings} {s rest : Text}

theorem read?_year_iff : Field.year.read? found s = some (found', rest) ↔
    ∃ y, readYear? s = some (y, rest) ∧ (∀ v, found.year = some v → v = y) ∧ found' = { found with year := some y } := by
  simp only [Field.read?, Option.bind_eq_bind, Option.bind_eq_some_iff, Findings.note?_eq_some_iff]
  constructor
  · rintro ⟨⟨y, after⟩, read, year, ⟨rfl, same⟩, made⟩
    cases made
    exact ⟨y, read, same, rfl⟩
  · rintro ⟨y, read, same, rfl⟩
    exact ⟨⟨y, rest⟩, read, some y, ⟨rfl, same⟩, rfl⟩

theorem inRange?_eq_some_iff {limit n m : Nat} : inRange? limit n = some m ↔ m = n ∧ 1 ≤ n ∧ n ≤ limit := by
  simp [inRange?, and_comm, eq_comm]

theorem read?_paddedMonth_iff : Field.paddedMonth.read? found s = some (found', rest) ↔
    ∃ m, readNumber? 2 s = some (m, rest) ∧ (1 ≤ m ∧ m ≤ 12) ∧ (∀ v, found.month = some v → v = m) ∧
      found' = { found with month := some m } := by
  simp only [Field.read?, Option.bind_eq_bind, Option.bind_eq_some_iff, Findings.note?_eq_some_iff, inRange?_eq_some_iff]
  constructor
  · rintro ⟨⟨m, after⟩, read, _, ⟨rfl, range⟩, month, ⟨rfl, same⟩, made⟩
    cases made
    exact ⟨_, read, range, same, rfl⟩
  · rintro ⟨m, read, range, same, rfl⟩
    exact ⟨⟨m, rest⟩, read, m, ⟨rfl, range⟩, some m, ⟨rfl, same⟩, rfl⟩

theorem read?_paddedDay_iff : Field.paddedDay.read? found s = some (found', rest) ↔
    ∃ n, readNumber? 2 s = some (n, rest) ∧ (1 ≤ n ∧ n ≤ 31) ∧ (∀ v, found.day = some v → v = n) ∧
      found' = { found with day := some n } := by
  simp only [Field.read?, Option.bind_eq_bind, Option.bind_eq_some_iff, Findings.note?_eq_some_iff, inRange?_eq_some_iff]
  constructor
  · rintro ⟨⟨n, after⟩, read, _, ⟨rfl, range⟩, day, ⟨rfl, same⟩, made⟩
    cases made
    exact ⟨_, read, range, same, rfl⟩
  · rintro ⟨n, read, range, same, rfl⟩
    exact ⟨⟨n, rest⟩, read, n, ⟨rfl, range⟩, some n, ⟨rfl, same⟩, rfl⟩

/-- What is found is only ever added to. -/
theorem fits_of_read? {f : Field} (fixed : f.IsFixed) {d : Date} (read : f.read? found s = some (found', rest))
    (fits : found'.Fits d) : found.Fits d := by
  rcases fixed with rfl | rfl | rfl
  · obtain ⟨y, -, same, rfl⟩ := read?_year_iff.1 read
    exact ⟨fun v known => (same v known).trans (fits.year y rfl), fits.month, fits.day⟩
  · obtain ⟨m, -, -, same, rfl⟩ := read?_paddedMonth_iff.1 read
    exact ⟨fits.year, fun v known => (same v known).trans (fits.month m rfl), fits.day⟩
  · obtain ⟨n, -, -, same, rfl⟩ := read?_paddedDay_iff.1 read
    exact ⟨fits.year, fits.month, fun v known => (same v known).trans (fits.day n rfl)⟩

/-- A number is read from at most `width` digits after white space. -/
theorem readNumber?_eq_some {width n : Nat} (read : readNumber? width s = some (n, rest)) :
    ∃ digits, s.trimStart = digits ++ rest ∧ digits.length ≤ width ∧ (∀ c ∈ digits, c.isDigit) ∧ n = Text.value digits := by
  simp only [readNumber?] at read
  split at read
  · cases read
  · simp only [Option.some.injEq, Prod.mk.injEq] at read
    obtain ⟨rfl, rfl⟩ := read
    have start : (s.trimStart.take width).takeWhile Char.isDigit <+: s.trimStart :=
      (List.takeWhile_prefix _).trans (List.take_prefix _ _)
    refine ⟨_, (List.prefix_iff_eq_append.1 start).symm, ?_, ?_, rfl⟩
    · exact (List.takeWhile_prefix _).length_le.trans (List.length_take_le _ _)
    · exact fun c member => List.all_eq_true.1 (List.all_takeWhile) c member

/-- A sign, which a year may begin with. -/
def IsSign (c : Char) : Prop := c = '-' ∨ c = '+'

theorem not_isSign_of_isScriptDigit {c : Char} (digit : Text.isScriptDigit c) : ¬ IsSign c := by
  rintro (rfl | rfl) <;> revert digit <;> decide

/-- A year without a sign is a number of at most four digits. -/
theorem readYear?_of_not_isSign (unsigned : ∀ c, s.trimStart.head? = some c → ¬ IsSign c) :
    readYear? s = (readNumber? 4 s).map fun (n, rest) => ((n : Int), rest) := by
  unfold readYear?
  split
  · next start => exact (unsigned '-' (by rw [start]; rfl) (.inl rfl)).elim
  · next start => exact (unsigned '+' (by rw [start]; rfl) (.inr rfl)).elim
  · simp only [readNumber?, Text.trimStart_trimStart]

/-- What a fixed field without a sign reads: digits, no more than its width, that spell the value found. -/
theorem read?_fixed_eq_some {f : Field} (fixed : f.IsFixed) (unsigned : ∀ c, s.trimStart.head? = some c → ¬ IsSign c)
    (read : f.read? found s = some (found', rest)) :
    ∃ digits, s.trimStart = digits ++ rest ∧ digits.length ≤ f.width ∧ (∀ c ∈ digits, c.isDigit) ∧
      ∀ d : Date, found'.Fits d → f.format d = Text.padded f.width (Text.value digits) ∧ (f = .year → d.HasPlainYear) := by
  rcases fixed with rfl | rfl | rfl
  · obtain ⟨y, number, -, rfl⟩ := read?_year_iff.1 read
    rw [readYear?_of_not_isSign unsigned] at number
    obtain ⟨⟨n, after⟩, number, same⟩ := Option.map_eq_some_iff.1 number
    cases same
    obtain ⟨digits, starts, short, all, rfl⟩ := readNumber?_eq_some number
    refine ⟨digits, starts, short, all, fun d fits => ?_⟩
    have year := fits.year _ rfl
    have small : Text.value digits < 10 ^ 4 := (Text.value_lt all).trans_le (Nat.pow_le_pow_right (by decide) short)
    have plain : d.HasPlainYear := by
      unfold Date.HasPlainYear
      omega
    refine ⟨?_, fun _ => plain⟩
    show Date.yearText d.year = _
    rw [plain.yearText_eq, ← year]
    rfl
  · obtain ⟨m, number, -, -, rfl⟩ := read?_paddedMonth_iff.1 read
    obtain ⟨digits, starts, short, all, rfl⟩ := readNumber?_eq_some number
    refine ⟨digits, starts, short, all, fun d fits => ⟨?_, by simp⟩⟩
    show Text.padded 2 d.month = _
    rw [← fits.month _ rfl]
    rfl
  · obtain ⟨n, number, -, -, rfl⟩ := read?_paddedDay_iff.1 read
    obtain ⟨digits, starts, short, all, rfl⟩ := readNumber?_eq_some number
    refine ⟨digits, starts, short, all, fun d fits => ⟨?_, by simp⟩⟩
    show Text.padded 2 d.day = _
    rw [← fits.day _ rfl]
    rfl

/-- Reading a literal uses up its characters, white space apart. -/
theorem solid_of_readLiteral? {text : Text} (read : readLiteral? text s = some rest) :
    s.solid = text.solid ++ rest.solid := by
  fun_induction readLiteral? text s with
  | case1 s =>
    obtain rfl := Option.some.inj read
    rfl
  | case2 c literal s blank ih =>
    have dropped : Text.solid (c :: literal) = Text.solid literal := List.filter_cons_of_neg (by simp [blank])
    rw [dropped, ← ih read, Text.solid_trimStart]
  | case3 literal c after inked ih =>
    have kept : ∀ t, Text.solid (c :: t) = c :: Text.solid t := fun t => List.filter_cons_of_pos (by simpa using inked)
    rw [kept, kept, List.cons_append, ih read]
  | case4 => cases read
  | case5 => cases read

end

end DateLayout
end ReadingLog
