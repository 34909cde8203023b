import ReadingLog.NoteDate
import ReadingLog.Proofs.Occurrences
import ReadingLog.Proofs.Spelling

/-!
# The date of a note

For layouts of fixed width, the date of a note is the one whose spelling is the first in its path, after the folder, of all
spellings of dates with four-digit years.
-/

namespace ReadingLog

namespace DateLayout

open Text (OccursAt)

variable {layout : DateLayout} {d : Date} {s : Text}

/-- The date that a text begins with in a layout. -/
def dateHere? (layout : DateLayout) (s : Text) : Option Date :=
  (Token.shape? layout.tokens s).bind fun n => layout.parse? (s.take n)

/-- The dates that are read in a text, from left to right. -/
def dates (layout : DateLayout) (s : Text) : List Date := (layout.candidates s).filterMap layout.parse?

theorem dates_cons (c : Char) (s : Text) : layout.dates (c :: s) = (layout.dateHere? (c :: s)).toList ++ layout.dates s := by
  simp only [dates, candidates, Token.candidates, dateHere?]
  cases Token.shape? layout.tokens (c :: s) with
  | none => rfl
  | some n =>
    simp only [Option.bind_some]
    cases read : layout.parse? ((c :: s).take n) with
    | none => rw [List.filterMap_cons_none read]; rfl
    | some date => rw [List.filterMap_cons_some read]; rfl

/-- The spelling of a date is read as that date where it has the year in full. -/
theorem parse?_format (year : .field .year ∈ layout.tokens) (plain : d.HasPlainYear) (apart : FieldsApart d layout.tokens) :
    layout.parse? (layout.format d) = some d := by
  have read : Token.readAll? layout.tokens {} (layout.format d) = some (Findings.ofTokens d layout.tokens) :=
    Token.readAll?_spelling plain apart [] (.inl rfl)
  rw [parse?, Token.parse?, read, Option.bind_some]
  exact Findings.date?_ofTokens layout.complete plain fun _ missing => absurd year missing

section

variable (fixed : ∀ token ∈ layout.tokens, token.IsFixed)

include fixed

/-- A text begins with a date exactly when it begins with its spelling. -/
theorem dateHere?_eq_some_iff : layout.dateHere? s = some d ↔ d.HasPlainYear ∧ layout.format d <+: s := by
  obtain ⟨year, -, -⟩ := fields_of_areComplete fixed layout.complete
  simp only [dateHere?, Option.bind_eq_some_iff, Token.shape?_eq_some_iff fixed]
  constructor
  · rintro ⟨_, ⟨piece, rest, rfl, shaped, rfl⟩, read⟩
    rw [List.take_left] at read
    obtain ⟨found, read, fixes⟩ := Option.bind_eq_some_iff.1 read
    obtain ⟨-, rfl, plain, -⟩ :=
      Token.spelled_of_readAll? fixed shaped (List.nil_append _).symm (by simp) read (Findings.fits_of_date? fixes)
    exact ⟨plain year, List.prefix_append ..⟩
  · rintro ⟨plain, rest, rfl⟩
    refine ⟨_, ⟨_, rest, rfl, Token.shaped_spelling fixed plain, rfl⟩, ?_⟩
    rw [format, List.take_left]
    exact parse?_format year plain (fieldsApart_of_isFixed fixed)

/-- The dates that are read are those whose spelling occurs. -/
theorem mem_dates_iff : d ∈ layout.dates s ↔ d.HasPlainYear ∧ ∃ i, OccursAt (layout.format d) s i := by
  induction s with
  | nil =>
    constructor
    · intro member
      cases member
    · rintro ⟨plain, i, occurs⟩
      rw [OccursAt, List.drop_nil, List.prefix_nil] at occurs
      exact absurd occurs (layout.format_ne_nil d)
  | cons c s ih =>
    rw [dates_cons, List.mem_append, Option.mem_toList, dateHere?_eq_some_iff fixed, ih]
    constructor
    · rintro (⟨plain, here⟩ | ⟨plain, i, later⟩)
      · exact ⟨plain, 0, here⟩
      · exact ⟨plain, i + 1, later⟩
    · rintro ⟨plain, i, occurs⟩
      cases i with
      | zero => exact .inl ⟨plain, occurs⟩
      | succ i => exact .inr ⟨plain, i, occurs⟩

/-- The first date that is read is the one whose spelling occurs first. -/
theorem head?_dates_eq_some_iff : (layout.dates s).head? = some d ↔
    d.HasPlainYear ∧ ∃ i, OccursAt (layout.format d) s i ∧
      ∀ e : Date, e.HasPlainYear → ∀ j < i, ¬ OccursAt (layout.format e) s j := by
  induction s with
  | nil =>
    constructor
    · intro first
      cases first
    · rintro ⟨plain, i, occurs, -⟩
      have member : d ∈ layout.dates [] := (mem_dates_iff fixed).2 ⟨plain, i, occurs⟩
      cases member
  | cons c s ih =>
    rw [dates_cons]
    cases here : layout.dateHere? (c :: s) with
    | some e =>
      obtain ⟨plain', spelled⟩ := (dateHere?_eq_some_iff fixed).1 here
      constructor
      · intro first
        obtain rfl : e = d := Option.some.inj first
        exact ⟨plain', 0, spelled, by simp⟩
      · rintro ⟨plain, i, occurs, first⟩
        obtain rfl : i = 0 := by
          by_contra later
          exact first e plain' 0 (by omega) spelled
        exact here.symm.trans ((dateHere?_eq_some_iff fixed).2 ⟨plain, occurs⟩)
    | none =>
      have nothing : ∀ e : Date, e.HasPlainYear → ¬ OccursAt (layout.format e) (c :: s) 0 := by
        intro e plain occurs
        cases here.symm.trans ((dateHere?_eq_some_iff fixed).2 ⟨plain, occurs⟩)
      rw [Option.toList_none, List.nil_append, ih]
      constructor
      · rintro ⟨plain, i, occurs, first⟩
        refine ⟨plain, i + 1, occurs, fun e plain' j before => ?_⟩
        cases j with
        | zero => exact nothing e plain'
        | succ j => exact first e plain' j (by omega)
      · rintro ⟨plain, i, occurs, first⟩
        cases i with
        | zero => exact absurd occurs (nothing d plain)
        | succ i => exact ⟨plain, i, occurs, fun e plain' j before => first e plain' (j + 1) (by omega)⟩

theorem noteDate?_eq_head? {folder : Option String} {path : String} {scanned : Text}
    (split : path.toList = (folder.getD "").toList ++ scanned) :
    noteDate? layout folder path = (layout.dates scanned).head? := by
  have after : (folder.getD "").toList.isPrefixOf? path.toList = some scanned :=
    List.isPrefixOf?_eq_some_iff_append_eq.2 split.symm
  have spelled : ∀ date ∈ layout.dates scanned, Text.contains (layout.format date) path.toList := by
    intro date member
    obtain ⟨-, i, occurs⟩ := (mem_dates_iff fixed).1 member
    rw [Text.contains_iff, split]
    exact occurs.isInfix.trans (List.suffix_append ..).isInfix
  simp only [noteDate?, after, Option.bind_eq_bind, Option.bind_some]
  show (layout.dates scanned).find? _ = _
  cases read : layout.dates scanned with
  | nil => rfl
  | cons date later => exact List.find?_cons_of_pos (spelled date (by rw [read]; exact List.mem_cons_self))

end

end DateLayout

open DateLayout Text in
/-- A path that does not begin with the folder has no date. In what follows the folder, the date is the one that is spelled
    first of all dates with four-digit years, and there is none only if no such date is spelled there. -/
theorem noteDate?_first_spelled (layout : DateLayout) (fixed : ∀ token ∈ layout.tokens, token.IsFixed)
    (folder : Option String) (path : String) :
    (¬ (folder.getD "").toList <+: path.toList → noteDate? layout folder path = none) ∧
    ∀ scanned, path.toList = (folder.getD "").toList ++ scanned →
      (∀ d, noteDate? layout folder path = some d ↔
        d.HasPlainYear ∧ ∃ i, OccursAt (layout.format d) scanned i ∧
          ∀ e : Date, e.HasPlainYear → ∀ j < i, ¬ OccursAt (layout.format e) scanned j) ∧
      (noteDate? layout folder path = none ↔
        ∀ d : Date, d.HasPlainYear → ∀ i, ¬ OccursAt (layout.format d) scanned i) := by
  constructor
  · intro elsewhere
    have none' : (folder.getD "").toList.isPrefixOf? path.toList = none := by
      rw [Option.eq_none_iff_forall_ne_some]
      intro scanned after
      exact elsewhere ⟨scanned, List.isPrefixOf?_eq_some_iff_append_eq.1 after⟩
    simp only [noteDate?, none', Option.bind_eq_bind, Option.bind_none]
  · intro scanned split
    rw [noteDate?_eq_head? fixed split]
    refine ⟨fun d => head?_dates_eq_some_iff fixed, ?_⟩
    rw [List.head?_eq_none_iff, List.eq_nil_iff_forall_not_mem]
    constructor
    · intro empty d plain i occurs
      exact empty d ((mem_dates_iff fixed).2 ⟨plain, i, occurs⟩)
    · intro unspelled d member
      obtain ⟨plain, i, occurs⟩ := (mem_dates_iff fixed).1 member
      exact unspelled d plain i occurs

/-- Year, month and day without anything in between. -/
def DateLayout.compact : DateLayout := ⟨"YYYYMMDD", by decide +kernel⟩

/-- The first day of 2024. -/
def newYear : Date := ⟨2024, 1, 1, by decide⟩

open DateLayout Text in
/-- Of the eight digits in a row that begin at the first of these nine, no date is spelled. -/
theorem noteDate?_first_spelled_compact : (∀ token ∈ compact.tokens, token.IsFixed) ∧
    noteDate? compact none "x120240101.md" = some newYear ∧
    ∃ i, OccursAt (compact.format newYear) "x120240101.md".toList i ∧
      ∀ e : Date, e.HasPlainYear → ∀ j < i, ¬ OccursAt (compact.format e) "x120240101.md".toList j := by
  have fixed : ∀ token ∈ compact.tokens, token.IsFixed := by decide +kernel
  have found : noteDate? compact none "x120240101.md" = some newYear := by decide +kernel
  have first := (noteDate?_first_spelled compact fixed none "x120240101.md").2 _ rfl
  exact ⟨fixed, found, ((first.1 newYear).1 found).2⟩

end ReadingLog
