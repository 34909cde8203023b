import ReadingLog.Proofs.QuotedStrings
import ReadingLog.Toml.Document

/-!
# Documents are read back

A document that is written has the statements it was written from: `parse?_render`.
-/

namespace ReadingLog.Toml

/-- The place that a statement is about. -/
def Statement.key {α : Type} : Statement α → Key
  | header key => key
  | element key => key
  | assign key _ => key

namespace Document

variable {c : Char} {rest s : Text} {name : Text} {key : Key}

/-! ## The first characters -/

/-- A character that a statement can begin with. -/
def isOpening (c : Char) : Bool := isBare c || c = '"' || c = '['

theorem ne_of_isOpening {d : Char} (opening : isOpening c) (other : isOpening d = false) : c ≠ d := by
  rintro rfl
  exact absurd opening (by simp [other])

theorem renderName_eq_cons (name : Text) : ∃ c t, renderName name = c :: t ∧ (isBare c ∨ c = '"') := by
  unfold renderName
  split
  · next bare =>
    simp only [Bool.and_eq_true, Bool.not_eq_true', List.all_eq_true] at bare
    cases name with
    | nil => exact absurd bare.1 (by simp)
    | cons c t => exact ⟨c, t, rfl, .inl (bare.2 c List.mem_cons_self)⟩
  · exact ⟨'"', _, rfl, .inr rfl⟩

theorem dropSpace_cons (solid : ¬ isSpace c) : dropSpace (c :: s) = c :: s := List.dropWhile_cons_of_neg solid

theorem not_isSpace_of_isOpening (opening : isOpening c) : ¬ isSpace c := by
  have space : c ≠ ' ' := ne_of_isOpening opening (by decide)
  have tab : c ≠ '\t' := ne_of_isOpening opening (by decide)
  simp [isSpace, space, tab]

theorem dropSpace_renderName : dropSpace (renderName name ++ rest) = renderName name ++ rest := by
  obtain ⟨c, t, whole, starts⟩ := renderName_eq_cons name
  have opening : isOpening c := by
    rcases starts with bare | rfl
    · simp [isOpening, bare]
    · decide
  rw [whole, List.cons_append, dropSpace_cons (not_isSpace_of_isOpening opening)]

/-! ## Keys -/

theorem name?_renderName (ends : ∀ c ∈ rest.head?, ¬ isBare c) : name? (renderName name ++ rest) = some (name, rest) := by
  unfold renderName
  split
  · next bare =>
    simp only [Bool.and_eq_true, Bool.not_eq_true', List.all_eq_true, List.isEmpty_eq_false_iff] at bare
    obtain ⟨nonempty, all⟩ := bare
    have taken : (name ++ rest).takeWhile isBare = name := Text.takeWhile_append_of_ends all ends
    have left : (name ++ rest).dropWhile isBare = rest := Text.dropWhile_append_of_ends all ends
    have unquoted (quote : Char) (special : isBare quote = false) (after : Text) : name ++ rest ≠ quote :: after := by
      intro starts
      cases name with
      | nil => exact nonempty rfl
      | cons c name =>
        obtain rfl : c = quote := (List.cons.inj starts).1
        exact absurd (all c List.mem_cons_self) (by simp [special])
    rw [name?.eq_def]
    split
    · next after starts => exact absurd starts (unquoted '"' (by decide) after)
    · next after starts => exact absurd starts (unquoted '\'' (by decide) after)
    · simp only [taken, left, List.isEmpty_eq_false_iff.2 nonempty]
      rfl
  · rw [List.cons_append, List.cons_append, List.append_assoc, name?, List.singleton_append, Quoted.basic?_basicBody]

theorem names?_render {names : List Text} {budget : Nat} (some_name : names ≠ []) (few : names.length ≤ budget)
    (ends : ∀ c ∈ rest.head?, ¬ isBare c) (undotted : (dropSpace rest).head? ≠ some '.') :
    names? budget (['.'].intercalate (names.map renderName) ++ rest) = some (names, dropSpace rest) := by
  induction names generalizing budget with
  | nil => contradiction
  | cons name names ih =>
    obtain ⟨budget, rfl⟩ : ∃ n, budget = n + 1 := ⟨budget - 1, by simp at few; omega⟩
    cases names with
    | nil =>
      rw [List.map_singleton, List.intercalate_singleton, names?, dropSpace_renderName, name?_renderName ends]
      simp only [Option.bind_eq_bind, Option.bind_some]
      split
      · next after spelled => exact absurd (by rw [spelled]; rfl) undotted
      · rfl
    | cons next names =>
      have shape : ['.'].intercalate ((name :: next :: names).map renderName) ++ rest =
          renderName name ++ '.' :: (['.'].intercalate ((next :: names).map renderName) ++ rest) := by
        rw [List.map_cons, List.map_cons, List.intercalate_cons_cons]
        simp
      have dot : ∀ c ∈ ('.' :: (['.'].intercalate ((next :: names).map renderName) ++ rest)).head?, ¬ isBare c := by
        intro c first
        obtain rfl : '.' = c := Option.some.inj first
        decide
      have others := @ih budget (List.cons_ne_nil _ _) (by simpa using few)
      rw [shape, names?, dropSpace_renderName, name?_renderName dot]
      simp only [Option.bind_eq_bind, Option.bind_some, dropSpace_cons (c := '.') (by decide), others]
      rfl

theorem key?_renderKey (shallow : key.tables.length < deepest) (ends : ∀ c ∈ rest.head?, ¬ isBare c)
    (undotted : (dropSpace rest).head? ≠ some '.') : key? (renderKey key ++ rest) = some (key, dropSpace rest) := by
  have few : (key.tables ++ [key.name]).length ≤ deepest := by
    rw [List.length_append, List.length_singleton]
    exact shallow
  rw [key?, renderKey, names?_render (by simp) few ends undotted]
  simp

/-! ## Statements -/

theorem value?_render (ends : ∀ c ∈ rest.head?, c ≠ '"' ∧ c ≠ '\'') (text : Text) :
    value? deepest (Quoted.render text ++ rest) = some (.string text, rest) := by
  have read := Quoted.read?_render ends text
  obtain ⟨c, t, whole, quote⟩ := Quoted.render_eq_cons text
  have scalar : value? deepest (c :: (t ++ rest)) =
      (Quoted.read? (c :: (t ++ rest))).map fun found => (.string found.1, found.2) := by
    rcases quote with rfl | rfl <;> rfl
  rw [whole, List.cons_append] at read ⊢
  rw [scalar, read]
  rfl

theorem renderKey_eq_cons (key : Key) : ∃ c t, renderKey key = c :: t ∧ (isBare c ∨ c = '"') := by
  obtain ⟨first, others, names⟩ : ∃ first others, key.tables ++ [key.name] = first :: others :=
    List.exists_cons_of_ne_nil (by simp)
  obtain ⟨c, t, whole, starts⟩ := renderName_eq_cons first
  rw [renderKey, names]
  cases others with
  | nil => exact ⟨c, t, by rw [List.map_singleton, List.intercalate_singleton, whole], starts⟩
  | cons next others =>
    rw [List.map_cons, List.map_cons, List.intercalate_cons_cons, whole]
    exact ⟨c, _, rfl, starts⟩

theorem renderKey_ne_bracket (s after : Text) : renderKey key ++ s ≠ '[' :: after := by
  obtain ⟨c, t, whole, starts⟩ := renderKey_eq_cons key
  rw [whole, List.cons_append]
  intro same
  obtain rfl : c = '[' := (List.cons.inj same).1
  exact absurd starts (by decide)

theorem statement?_renderStatement {st : Statement Text} (shallow : st.key.tables.length < deepest) (rest : Text) :
    statement? (renderStatement st ++ rest) = some (st.map Value.string, '\n' :: rest) := by
  have closed (after : Text) (key : Key) (shallow : key.tables.length < deepest) :
      key? (renderKey key ++ ']' :: after) = some (key, ']' :: after) :=
    key?_renderKey shallow (by simp [isBare]) (by simp [dropSpace, isSpace])
  cases st with
  | header key =>
    have shape : renderStatement (.header key) ++ rest = '[' :: (renderKey key ++ ']' :: '\n' :: rest) := by
      simp [renderStatement]
    rw [shape, statement?, closed _ key shallow]
    · rfl
    · exact fun after => renderKey_ne_bracket _ after
  | element key =>
    have shape : renderStatement (.element key) ++ rest = '[' :: '[' :: (renderKey key ++ ']' :: ']' :: '\n' :: rest) := by
      simp [renderStatement]
    rw [shape, statement?, closed _ key shallow]
    rfl
  | assign key text =>
    have shape : renderStatement (.assign key text) ++ rest =
        renderKey key ++ ' ' :: '=' :: ' ' :: (Quoted.render text ++ '\n' :: rest) := by
      simp [renderStatement]
    have named : key? (renderKey key ++ ' ' :: '=' :: ' ' :: (Quoted.render text ++ '\n' :: rest)) =
        some (key, '=' :: ' ' :: (Quoted.render text ++ '\n' :: rest)) :=
      key?_renderKey shallow (by simp [isBare]) (by simp [dropSpace, isSpace])
    have spaced : dropSpace (' ' :: (Quoted.render text ++ '\n' :: rest)) = Quoted.render text ++ '\n' :: rest := by
      obtain ⟨c, t, whole, quote⟩ := Quoted.render_eq_cons text
      rw [whole]
      rcases quote with rfl | rfl <;> rfl
    have valued : value? deepest (Quoted.render text ++ '\n' :: rest) = some (.string text, '\n' :: rest) :=
      value?_render (by simp) text
    have assigned : assignment? (value? deepest) (renderKey key ++ ' ' :: '=' :: ' ' :: (Quoted.render text ++ '\n' :: rest)) =
        some ((key, .string text), '\n' :: rest) := by
      simp only [assignment?, named, Option.bind_eq_bind, Option.bind_some, spaced, valued]
      rfl
    rw [shape, statement?, assigned]
    · rfl
    · exact fun after => renderKey_ne_bracket _ _
    · exact fun after => renderKey_ne_bracket _ _

theorem renderStatement_eq_cons (st : Statement Text) : ∃ c t, renderStatement st = c :: t ∧ isOpening c := by
  cases st with
  | header key => exact ⟨'[', _, rfl, by decide⟩
  | element key => exact ⟨'[', _, rfl, by decide⟩
  | assign key text =>
    obtain ⟨c, t, whole, starts⟩ := renderKey_eq_cons key
    have opening : isOpening c := by
      rcases starts with bare | rfl
      · simp [isOpening, bare]
      · decide
    refine ⟨c, t ++ [' ', '=', ' '] ++ Quoted.render text ++ ['\n'], ?_, opening⟩
    rw [renderStatement, whole]
    rfl

/-! ## Documents -/

theorem statements?_newline (fuel : Nat) (rest : Text) : statements? (fuel + 1) ('\n' :: rest) = statements? fuel rest := rfl

theorem statements?_renderStatement {st : Statement Text} (shallow : st.key.tables.length < deepest) (fuel : Nat) (rest : Text) :
    statements? (fuel + 1) (renderStatement st ++ rest) = (statements? fuel rest).map (st.map Value.string :: ·) := by
  have read := statement?_renderStatement shallow rest
  obtain ⟨c, t, whole, opening⟩ := renderStatement_eq_cons st
  rw [whole, List.cons_append] at read ⊢
  have start : dropSpace (c :: (t ++ rest)) = c :: (t ++ rest) := dropSpace_cons (not_isSpace_of_isOpening opening)
  have differs (d : Char) (other : isOpening d = false) (after : Text) : c :: (t ++ rest) ≠ d :: after :=
    fun same => ne_of_isOpening opening other (List.cons.inj same).1
  have uncommented : dropComment (c :: (t ++ rest)) = c :: (t ++ rest) := by
    rw [dropComment]
    exact differs '#' (by decide)
  have unended : Quoted.dropLineEnd? (c :: (t ++ rest)) = none := by
    rw [Quoted.dropLineEnd?]
    · exact differs '\n' (by decide)
    · exact fun _ => differs '\r' (by decide) _
  have same_line : dropLineEnd? (c :: (t ++ rest)) = none := by
    rw [dropLineEnd?, start, uncommented]
    exact unended
  have next_line : dropLineEnd? ('\n' :: rest) = some rest := rfl
  rw [statements?, start]
  simp only [same_line, read, next_line, Option.bind_eq_bind, Option.bind_some]
  cases statements? fuel rest <;> rfl

theorem statements?_renderAfter {statements : List (Statement Text)}
    (shallow : ∀ st ∈ statements, st.key.tables.length < deepest) {fuel : Nat}
    (enough : (renderAfter statements).length < fuel) :
    statements? fuel (renderAfter statements) = some (statements.map (Statement.map Value.string)) := by
  -- Along the statements; each of them uses up no more of the bound than it has characters.
  induction statements generalizing fuel with
  | nil =>
    obtain ⟨fuel, rfl⟩ : ∃ n, fuel = n + 1 := ⟨fuel - 1, by omega⟩
    rfl
  | cons st statements ih =>
    have here := shallow st List.mem_cons_self
    have later {fuel : Nat} (enough : (renderAfter statements).length < fuel) :=
      ih (fun other member => shallow other (List.mem_cons_of_mem _ member)) enough
    obtain ⟨c, t, whole, -⟩ := renderStatement_eq_cons st
    have some_text : 0 < (renderStatement st).length := by rw [whole]; exact Nat.succ_pos _
    -- A header has an empty line before it, an assignment has none.
    have shape : renderAfter (st :: statements) = renderStatement st ++ renderAfter statements ∨
        renderAfter (st :: statements) = '\n' :: (renderStatement st ++ renderAfter statements) := by
      cases st with
      | assign => exact .inl rfl
      | header | element => exact .inr rfl
    rcases shape with shape | shape <;> rw [shape] at enough ⊢
    · rw [List.length_append] at enough
      obtain ⟨fuel, rfl⟩ : ∃ n, fuel = n + 1 := ⟨fuel - 1, by omega⟩
      rw [statements?_renderStatement here, later (by omega)]
      rfl
    · rw [List.length_cons, List.length_append] at enough
      obtain ⟨fuel, rfl⟩ : ∃ n, fuel = n + 2 := ⟨fuel - 2, by omega⟩
      rw [statements?_newline, statements?_renderStatement here, later (by omega)]
      rfl

/-- A document is read as the statements that it was written from. -/
theorem parse?_render {statements : List (Statement Text)} (shallow : ∀ st ∈ statements, st.key.tables.length < deepest) :
    parse? (render statements) = some (statements.map (Statement.map Value.string)) := by
  cases statements with
  | nil => rfl
  | cons st statements =>
    obtain ⟨c, t, whole, opening⟩ := renderStatement_eq_cons st
    have unmarked : (render (st :: statements)).head? ≠ some '\uFEFF' := by
      rw [render, whole]
      exact fun same => ne_of_isOpening opening (by decide) (Option.some.inj same)
    have some_text : 0 < (renderStatement st).length := by rw [whole]; exact Nat.succ_pos _
    have later : statements? (render (st :: statements)).length (renderAfter statements) =
        some (statements.map (Statement.map Value.string)) := by
      refine statements?_renderAfter (fun other member => shallow other (List.mem_cons_of_mem _ member)) ?_
      rw [render, List.length_append]
      omega
    have read := statements?_renderStatement (shallow st List.mem_cons_self) (render (st :: statements)).length
      (renderAfter statements)
    rw [later] at read
    rw [parse?, if_neg unmarked]
    exact read

end Document
end ReadingLog.Toml
