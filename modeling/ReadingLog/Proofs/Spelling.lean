import ReadingLog.Proofs.ReadBack

/-!
# Candidates and spellings

For layouts of fixed width: a text that has the shape of the layout is read as a date exactly when it is the spelling of
that date, and the year has four digits.
-/

namespace ReadingLog.Text

/-- What is read off the front of a text leaves the rest of whatever begins the text and is as long. -/
theorem exists_unread {read left owed behind : Text} (same : read ++ left = owed ++ behind)
    (short : read.length ≤ owed.length) : ∃ unread, owed = read ++ unread ∧ left = unread ++ behind := by
  obtain ⟨unread, rfl⟩ := List.prefix_of_prefix_length_le (same ▸ List.prefix_append read left)
    (List.prefix_append owed behind) short
  rw [List.append_assoc] at same
  exact ⟨unread, rfl, List.append_cancel_left same⟩

/-- What is unread before a text that is read, and after it when as much has been read, are the same turned around. -/
theorem perm_of_turned {unread unread' read : Text} (turned : unread ++ read = read ++ unread') : unread.Perm unread' :=
  (List.perm_append_left_iff read).1 (List.perm_append_comm.trans (turned ▸ List.Perm.refl _))

end ReadingLog.Text

namespace ReadingLog.DateLayout

/-! ## From the reading to the spelling -/

/-- The reader may fall behind the pieces of a shape, with some characters `unread` that are white space nowhere and signs
    nowhere. It never catches up, so if it gets to the end it has always read exactly the pieces. -/
theorem Token.spelled_of_readAll? {tokens : List Token} (fixed : ∀ t ∈ tokens, t.IsFixed) {d : Date}
    {piece unread rest : Text} {found found' : Findings} (shaped : Shaped tokens piece)
    (left : rest.solid = unread ++ piece.solid) (unsigned : ∀ c ∈ unread, ¬ IsSign c)
    (read : readAll? tokens found rest = some found') (fits : found'.Fits d) :
    unread = [] ∧ piece = tokens.flatMap (format d) ∧ (.field .year ∈ tokens → d.HasPlainYear) ∧ found.Fits d := by
  induction tokens generalizing piece unread rest found with
  | nil =>
    obtain rfl : piece = [] := shaped
    simp only [readAll?] at read
    split at read
    · next empty =>
      obtain rfl := List.isEmpty_iff.1 empty
      obtain rfl := Option.some.inj read
      have nothing : unread = [] := (List.append_eq_nil_iff.1 left.symm).1
      exact ⟨nothing, rfl, by simp, fits⟩
    · cases read
  | cons token tokens ih =>
    obtain ⟨first, others⟩ := isFixed_of_cons fixed
    simp only [readAll?, Option.bind_eq_bind, Option.bind_eq_some_iff] at read
    obtain ⟨⟨found₁, after⟩, read, later⟩ := read
    cases token with
    | literal text =>
      obtain ⟨piece, rfl, shaped⟩ := shaped
      obtain ⟨after', literal, same⟩ := Option.map_eq_some_iff.1 read
      cases same
      rw [solid_of_readLiteral? literal, Text.solid_append, ← List.append_assoc] at left
      obtain ⟨unread', turned, left⟩ := Text.exists_unread left (by simp)
      have perm := Text.perm_of_turned turned
      obtain ⟨rfl, rfl, year, fits⟩ :=
        ih others shaped left (fun c member => unsigned c (perm.mem_iff.2 member)) later
      exact ⟨perm.eq_nil, rfl, by simpa using year, fits⟩
    | field f =>
      obtain ⟨digits, piece, rfl, width, all, shaped⟩ := shaped
      have bare : ∀ c ∈ digits, ¬ Text.isBlank c := fun c member => Text.not_isBlank_of_isScriptDigit (all c member)
      have unsigned' : ∀ c ∈ unread ++ digits, ¬ IsSign c := by
        intro c member
        rcases List.mem_append.1 member with behind | here
        · exact unsigned c behind
        · exact not_isSign_of_isScriptDigit (all c here)
      rw [Text.solid_append, Text.solid_eq_self bare, ← List.append_assoc] at left
      have start : ∀ c, rest.trimStart.head? = some c → ¬ IsSign c := by
        intro c head
        have some_digit : unread ++ digits ≠ [] :=
          List.append_ne_nil_of_right_ne_nil _ (List.ne_nil_of_length_pos (width ▸ f.width_pos))
        rw [Text.head?_trimStart, left, List.head?_append_of_ne_nil _ some_digit] at head
        exact unsigned' c (List.mem_of_mem_head? head)
      obtain ⟨numeral, starts, short, numeric, spells⟩ := read?_fixed_eq_some (first f rfl) start read
      have bare' : ∀ c ∈ numeral, ¬ Text.isBlank c := fun c member =>
        Text.not_isBlank_of_isScriptDigit (Text.isScriptDigit_of_isDigit (numeric c member))
      rw [← Text.solid_trimStart, starts, Text.solid_append, Text.solid_eq_self bare'] at left
      obtain ⟨unread', split, left⟩ := Text.exists_unread left (by rw [List.length_append]; omega)
      have unsigned'' : ∀ c ∈ unread', ¬ IsSign c := fun c member => unsigned' c (split ▸ List.mem_append_right _ member)
      obtain ⟨rfl, rfl, year, fits⟩ := ih others shaped left unsigned'' later
      rw [List.append_nil] at split
      have lengths := congrArg List.length split
      rw [List.length_append] at lengths
      obtain rfl : unread = [] := List.eq_nil_of_length_eq_zero (by omega)
      rw [List.nil_append] at split
      obtain rfl := split
      obtain ⟨spelled, plain⟩ := spells d fits
      refine ⟨rfl, ?_, ?_, fits_of_read? (first f rfl) read fits⟩
      · rw [List.flatMap_cons, format, spelled, ← width, Text.padded_value numeric (width ▸ f.width_pos)]
      · intro member
        rcases List.mem_cons.1 member with same | inner
        · cases same
          exact plain rfl
        · exact year inner

/-! ## From the spelling to the reading -/

section

variable {d : Date}

theorem Field.IsFixed.digits_format {f : Field} (fixed : f.IsFixed) (plain : d.HasPlainYear) :
    (f.format d).length = f.width ∧ ∀ c ∈ f.format d, c.isDigit := by
  obtain ⟨-, months, -⟩ := d.isDay
  have longest := d.day_le
  have padded : ∃ n, n < 10 ^ f.width ∧ f.format d = Text.padded f.width n := by
    rcases fixed with rfl | rfl | rfl
    · have small : d.year.natAbs < 10 ^ 4 := by
        obtain ⟨least, most⟩ := plain
        omega
      exact ⟨d.year.natAbs, small, plain.yearText_eq⟩
    · exact ⟨d.month, by simp only [width]; omega, rfl⟩
    · exact ⟨d.day, by simp only [width]; omega, rfl⟩
  obtain ⟨n, small, spelled⟩ := padded
  rw [spelled]
  exact ⟨Text.length_padded f.width_pos small, fun _ => Text.isDigit_of_mem_padded⟩

theorem Token.shaped_spelling {tokens : List Token} (fixed : ∀ t ∈ tokens, t.IsFixed) (plain : d.HasPlainYear) :
    Shaped tokens (tokens.flatMap (format d)) := by
  induction tokens with
  | nil => rfl
  | cons token tokens ih =>
    obtain ⟨first, others⟩ := isFixed_of_cons fixed
    cases token with
    | literal text => exact ⟨_, List.flatMap_cons, ih others⟩
    | field f =>
      obtain ⟨width, all⟩ := (first f rfl).digits_format plain
      exact ⟨_, _, List.flatMap_cons, width, fun c member => Text.isScriptDigit_of_isDigit (all c member), ih others⟩

/-- Tokens of fixed width are no unpadded numbers. -/
theorem fieldsApart_of_isFixed {tokens : List Token} (fixed : ∀ t ∈ tokens, t.IsFixed) : FieldsApart d tokens := by
  induction tokens with
  | nil => trivial
  | cons token tokens ih =>
    obtain ⟨first, others⟩ := Token.isFixed_of_cons fixed
    cases token with
    | literal => exact ih others
    | field f =>
      refine ⟨fun unpadded => ?_, ih others⟩
      rcases first f rfl with rfl | rfl | rfl <;> simp at unpadded

/-- In a layout of fixed width, `YYYY`, `MM` and `DD` all occur. -/
theorem fields_of_areComplete {tokens : List Token} (fixed : ∀ t ∈ tokens, t.IsFixed) (complete : Token.areComplete tokens) :
    .field .year ∈ tokens ∧ .field .paddedMonth ∈ tokens ∧ .field .paddedDay ∈ tokens := by
  simp only [Token.areComplete, Bool.and_eq_true, Token.anyField_iff] at complete
  obtain ⟨⟨⟨f, year, isYear⟩, g, month, isMonth⟩, h, day, isDay⟩ := complete
  rcases fixed _ year f rfl with rfl | rfl | rfl <;> try cases isYear
  rcases fixed _ month g rfl with rfl | rfl | rfl <;> try cases isMonth
  rcases fixed _ day h rfl with rfl | rfl | rfl <;> try cases isDay
  exact ⟨year, month, day⟩

end

end ReadingLog.DateLayout
