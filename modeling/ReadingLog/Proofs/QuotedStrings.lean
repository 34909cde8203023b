import ReadingLog.Proofs.Trimming
import ReadingLog.Toml.Quoted

/-!
# Quoted strings are read back

Whatever quotes are chosen for a text, the text is read back from between them: `read?_render`.
-/

namespace ReadingLog.Toml.Quoted

variable {c : Char} {piece code rest s t : Text}

/-! ## Characters -/

/-- A code means a character after a backslash, whatever follows it. It does not end the line. -/
structure IsCode (c : Char) (code : Text) : Prop where
  means : ∀ rest, escape? (code ++ rest) = some (c, code.length)
  goes_on : ∀ rest, dropContinuation? (code ++ rest) = none

/-- A piece stands for a character in a basic string: the character itself, or a backslash and a code. -/
inductive Stands (c : Char) : Text → Prop
  | itself : isPlain c → c ≠ '"' → c ≠ '\\' → Stands c [c]
  | code {code : Text} : IsCode c code → Stands c ('\\' :: code)

theorem isCode_quote : IsCode '"' ['"'] := ⟨fun _ => rfl, fun _ => rfl⟩

theorem isCode_newline : IsCode '\n' ['n'] := ⟨fun _ => rfl, fun _ => rfl⟩

theorem isCode_control (control : isControl c) :
    IsCode c ['u', '0', '0', hexDigit (c.toNat / 16), hexDigit (c.toNat % 16)] where
  means rest := by
    have hex : ∀ n < 128, scalar? 4 ['0', '0', hexDigit (n / 16), hexDigit (n % 16)] = some (Char.ofNat n) := by
      decide +kernel
    have small : c.toNat < 128 := by
      simp only [isControl, Bool.and_eq_true, Bool.or_eq_true, decide_eq_true_eq] at control
      omega
    have read := hex c.toNat small
    rw [Char.ofNat_toNat] at read
    simp [escape?, read]
  goes_on _ := rfl

theorem stands_escaped (unquoted : c ≠ '"') (unbroken : c ≠ '\n') : Stands c (escaped c) := by
  unfold escaped
  split
  · next backslash =>
    subst backslash
    exact .code ⟨fun _ => rfl, fun _ => rfl⟩
  split
  · next tab =>
    subst tab
    exact .code ⟨fun _ => rfl, fun _ => rfl⟩
  split
  · next backspace =>
    obtain rfl : c = '\x08' := Char.toNat_inj.1 backspace
    exact .code ⟨fun _ => rfl, fun _ => rfl⟩
  split
  · next formFeed =>
    obtain rfl : c = '\x0c' := Char.toNat_inj.1 formFeed
    exact .code ⟨fun _ => rfl, fun _ => rfl⟩
  split
  · next carriageReturn =>
    subst carriageReturn
    exact .code ⟨fun _ => rfl, fun _ => rfl⟩
  split
  · next control => exact .code (isCode_control control)
  · next backslash tab _ _ _ control =>
    refine .itself ?_ unquoted backslash
    simp only [isControl, tab, unbroken, bne_iff_ne, ne_eq, not_false_eq_true, Bool.and_eq_true, Bool.or_eq_true,
      decide_eq_true_eq, true_and, not_or] at control
    simp only [isPlain, bne_iff_ne, Bool.or_eq_true, Bool.and_eq_true, decide_eq_true_eq]
    omega

/-! ## Basic strings -/

theorem basic?_stands (stands : Stands c piece) (rest : Text) : basic? (piece ++ rest) = (basic? rest).map (prepend c) := by
  cases stands with
  | itself plain unquoted unescaped =>
    rw [List.singleton_append, basic?]
    · exact if_pos plain
    · exact unquoted
    · exact unescaped
  | code isCode =>
    rw [List.cons_append, basic?, isCode.means]
    simp only [List.drop_left]

theorem stands_basic : Stands c (if c = '"' then ['\\', '"'] else if c = '\n' then ['\\', 'n'] else escaped c) := by
  split
  · next quote =>
    subst quote
    exact .code isCode_quote
  split
  · next newline =>
    subst newline
    exact .code isCode_newline
  · next unquoted unbroken => exact stands_escaped unquoted unbroken

theorem basic?_basicBody (s rest : Text) : basic? (basicBody s ++ '"' :: rest) = some (s, rest) := by
  induction s with
  | nil => rw [basicBody, List.flatMap_nil, List.nil_append, basic?]
  | cons c s ih =>
    rw [basicBody, List.flatMap_cons, List.append_assoc, basic?_stands stands_basic, ← basicBody, ih]
    rfl

/-! ## Basic strings over several lines -/

theorem ne_newline_of_isPlain (plain : isPlain c) : c ≠ '\n' := by
  rintro rfl
  exact absurd plain (by decide)

theorem ne_return_of_isPlain (plain : isPlain c) : c ≠ '\r' := by
  rintro rfl
  exact absurd plain (by decide)

theorem basicLines?_plain (plain : isPlain c) (unescaped : c ≠ '\\') (inner : c = '"' → ¬ ['"', '"'] <+: rest) :
    basicLines? (c :: rest) = (basicLines? rest).map (prepend c) := by
  rw [basicLines?]
  · exact if_pos plain
  · rintro after quote rfl
    exact inner quote (List.prefix_append ['"', '"'] after)
  · exact fun _ same _ => ne_return_of_isPlain plain same
  · exact ne_newline_of_isPlain plain
  · exact unescaped

theorem basicLines?_stands (stands : Stands c piece) (rest : Text) :
    basicLines? (piece ++ rest) = (basicLines? rest).map (prepend c) := by
  cases stands with
  | itself plain unquoted unescaped => exact basicLines?_plain plain unescaped fun quote => absurd quote unquoted
  | code isCode =>
    rw [List.cons_append, basicLines?]
    split
    · next after found => exact absurd (found.symm.trans (isCode.goes_on rest)) (by simp)
    · simp only [isCode.means, List.drop_left]

/-- Up to two quotes before the closing ones are taken along. -/
theorem closing_replicate {quote : Char} {n : Nat} (few : n ≤ 2) (ends : rest.head? ≠ some quote) :
    closing quote (List.replicate n quote ++ rest) = (List.replicate n quote, rest) := by
  have stops (m : Nat) : (rest.take m).takeWhile (· = quote) = [] := by
    cases rest with
    | nil => simp
    | cons c rest => cases m <;> simp_all
  match n, few with
  | 0, _ => simp [closing, stops]
  | 1, _ => simp [closing, stops]
  | 2, _ => simp [closing]

theorem head?_of_stands (stands : Stands c piece) : ∃ d, (piece ++ t).head? = some d ∧ isPlain d ∧ d ≠ '"' := by
  cases stands with
  | itself plain unquoted _ => exact ⟨c, rfl, plain, unquoted⟩
  | code _ => exact ⟨'\\', rfl, by decide, by decide⟩

theorem head?_basicLinesBody {quotes : Nat} (marked : c = '"' → 2 ≤ quotes) :
    (basicLinesBody quotes (c :: s) ++ t).head? ≠ some '"' := by
  rw [basicLinesBody]
  split
  · next quote =>
    rw [if_neg (Nat.not_lt.2 (marked quote))]
    simp
  split
  · next newline => simp [newline]
  · next unquoted unbroken =>
    obtain ⟨d, first, -, unquoted⟩ := head?_of_stands (t := basicLinesBody 0 s ++ t) (stands_escaped unquoted unbroken)
    rw [List.append_assoc, first]
    simpa using unquoted

/-- After a quote, two more that are not escaped are the closing ones, or the last of the text and the first of these. -/
theorem run_of_prefix {quotes : Nat} (some_quote : 1 ≤ quotes) (inner : ['"', '"'] <+: basicLinesBody quotes s ++ t) :
    s = [] ∨ s = ['"'] ∧ quotes = 1 := by
  have starts {u : Text} (run : ['"'] <+: u) : u.head? = some '"' := List.singleton_prefix_iff_head?_eq_some.1 run
  cases s with
  | nil => exact .inl rfl
  | cons c s =>
    have first := starts ((List.prefix_append ['"'] ['"']).trans inner)
    by_cases marked : c = '"' → 2 ≤ quotes
    · exact absurd first (head?_basicLinesBody marked)
    · obtain ⟨rfl, fewer⟩ := Classical.not_imp.1 marked
      rw [basicLinesBody, if_pos rfl, if_pos (Nat.lt_of_not_le fewer), List.cons_append, List.cons_prefix_cons] at inner
      have second := starts inner.2
      cases s with
      | nil => exact .inr ⟨rfl, by omega⟩
      | cons d s => exact absurd second (head?_basicLinesBody fun _ => by omega)

theorem basicLines?_basicLinesBody {quotes : Nat} (few : quotes ≤ 2) (ends : rest.head? ≠ some '"') (s : Text) :
    basicLines? (basicLinesBody quotes s ++ '"' :: '"' :: '"' :: rest) = some (s, rest) := by
  have closed (n : Nat) (few : n ≤ 2) : closing '"' (List.replicate n '"' ++ rest) = (List.replicate n '"', rest) :=
    closing_replicate few ends
  -- Along the text; `quotes` counts the quotes in a row that were left as they are, of which there are never three.
  induction s generalizing quotes with
  | nil =>
    rw [basicLinesBody, List.nil_append, basicLines?]
    exact congrArg some (closed 0 (by decide))
  | cons c s ih =>
    rw [basicLinesBody]
    split
    · next quote =>
      subst quote
      split
      · next fewer =>
        by_cases inner : ['"', '"'] <+: basicLinesBody (quotes + 1) s ++ '"' :: '"' :: '"' :: rest
        · -- The last quotes of the text are read together with the closing ones.
          rcases run_of_prefix (by omega) inner with rfl | ⟨rfl, single⟩
          · rw [basicLinesBody, List.singleton_append, basicLines?]
            exact congrArg some (closed 1 (by decide))
          · rw [single, basicLinesBody, if_pos rfl, if_pos (by decide), basicLinesBody]
            rw [List.cons_append, List.singleton_append, basicLines?]
            exact congrArg some (closed 2 (by decide))
        · rw [List.cons_append, basicLines?_plain (by decide) (by decide) fun _ => inner, ih (by omega)]
          rfl
      · have escapes := basicLines?_stands (.code isCode_quote) (basicLinesBody 0 s ++ '"' :: '"' :: '"' :: rest)
        rw [ih (by omega)] at escapes
        exact escapes
    split
    · next newline =>
      rw [newline, List.cons_append, basicLines?, ih (by omega)]
      rfl
    · next unquoted unbroken =>
      rw [List.append_assoc, basicLines?_stands (stands_escaped unquoted unbroken), ih (by omega)]
      rfl

/-! ## Literal strings -/

theorem isPlain_of_not_isControl (free : isControl c = false) (unbroken : c ≠ '\n') : isPlain c := by
  by_cases tab : c = '\t'
  · simp [isPlain, tab]
  · simp only [isControl, tab, unbroken, Bool.and_eq_false_iff, Bool.or_eq_false_iff, decide_eq_false_iff_not,
      bne_eq_false_iff_eq, false_or] at free
    simp only [isPlain, bne_iff_ne, Bool.or_eq_true, Bool.and_eq_true, decide_eq_true_eq]
    omega

theorem literal?_append (plain : ∀ c ∈ s, isPlain c) (unquoted : '\'' ∉ s) (rest : Text) :
    literal? (s ++ '\'' :: rest) = some (s, rest) := by
  induction s with
  | nil => rfl
  | cons c s ih =>
    have other : c ≠ '\'' := fun same => unquoted (same ▸ List.mem_cons_self)
    rw [List.cons_append, literal?]
    · rw [if_pos (plain c List.mem_cons_self), ih (fun d member => plain d (List.mem_cons_of_mem c member))
        (fun member => unquoted (List.mem_cons_of_mem c member))]
      rfl
    · exact other

theorem literalLines?_plain (plain : isPlain c) (inner : c = '\'' → ¬ ['\'', '\''] <+: rest) :
    literalLines? (c :: rest) = (literalLines? rest).map (prepend c) := by
  rw [literalLines?]
  · exact if_pos plain
  · rintro after quote rfl
    exact inner quote (List.prefix_append ['\'', '\''] after)
  · exact fun _ same _ => ne_return_of_isPlain plain same
  · exact ne_newline_of_isPlain plain

theorem literalLines?_append (clean : ∀ c ∈ s, isControl c = false) (no_row : ¬ ['\'', '\'', '\''] <:+: s)
    (ends : rest.head? ≠ some '\'') : literalLines? (s ++ '\'' :: '\'' :: '\'' :: rest) = some (s, rest) := by
  have closed (n : Nat) (few : n ≤ 2) : closing '\'' (List.replicate n '\'' ++ rest) = (List.replicate n '\'', rest) :=
    closing_replicate few ends
  induction s with
  | nil => exact congrArg some (closed 0 (by decide))
  | cons c s ih =>
    have read := ih (fun d member => clean d (List.mem_cons_of_mem c member))
      (fun row => no_row (row.trans (List.suffix_cons c s).isInfix))
    by_cases newline : c = '\n'
    · rw [newline, List.cons_append, literalLines?, read]
      rfl
    have plain : isPlain c := isPlain_of_not_isControl (clean c List.mem_cons_self) newline
    by_cases inner : c = '\'' ∧ ['\'', '\''] <+: s ++ '\'' :: '\'' :: '\'' :: rest
    · -- Without three in a row, these are the last apostrophes of the text.
      obtain ⟨rfl, inner⟩ := inner
      match s, inner with
      | [], _ => exact congrArg some (closed 1 (by decide))
      | [d], inner =>
        obtain rfl : '\'' = d := (List.cons_prefix_cons.1 inner).1
        exact congrArg some (closed 2 (by decide))
      | d :: e :: s, inner =>
        obtain ⟨second, later⟩ := List.cons_prefix_cons.1 inner
        obtain ⟨third, -⟩ := List.cons_prefix_cons.1 later
        subst second third
        exact absurd (List.prefix_append ['\'', '\'', '\''] s).isInfix no_row
    · rw [List.cons_append, literalLines?_plain plain (fun quote run => inner ⟨quote, run⟩), read]
      rfl

/-! ## Quoted texts -/

theorem style_literal (chosen : style s = .literal) : (∀ c ∈ s, isPlain c) ∧ '\'' ∉ s := by
  simp only [style] at chosen
  split at chosen
  · contradiction
  split at chosen
  · next free =>
    simp only [Bool.and_eq_true, Bool.not_eq_true', List.any_eq_false, decide_eq_false_iff_not, Bool.not_eq_true] at free
    obtain ⟨⟨clean, unquoted⟩, unbroken⟩ := free
    exact ⟨fun c member => isPlain_of_not_isControl (clean c member) fun same => unbroken (same ▸ member), unquoted⟩
  split at chosen
  · contradiction
  split at chosen
  · contradiction
  split at chosen <;> contradiction

theorem style_literalLines (chosen : style s = .literalLines) :
    (∀ c ∈ s, isControl c = false) ∧ ¬ ['\'', '\'', '\''] <:+: s := by
  simp only [style] at chosen
  split at chosen
  · contradiction
  split at chosen
  · contradiction
  split at chosen
  · contradiction
  split at chosen
  · next free =>
    simp only [Bool.and_eq_true, Bool.not_eq_true', List.any_eq_false, Bool.not_eq_true] at free
    refine ⟨free.1, fun row => ?_⟩
    rw [Text.contains_iff.2 row] at free
    exact Bool.noConfusion free.2
  split at chosen <;> contradiction

/-- The line end that opens several lines is not one of the text. -/
theorem afterOpening_eq (begins : '\n' ∉ s → t.head? ≠ some '\n' ∧ t.head? ≠ some '\r') :
    afterOpening ((if '\n' ∈ s then ['\n'] else []) ++ t) = t := by
  split
  · rfl
  · next unbroken =>
    obtain ⟨no_newline, no_return⟩ := begins unbroken
    rw [List.nil_append, afterOpening, dropLineEnd?.eq_def]
    split
    · exact absurd List.head?_cons no_newline
    · exact absurd List.head?_cons no_return
    · rfl

theorem read?_basic (inner : ¬ ['"', '"'] <+: t) : read? ('"' :: t) = basic? t := by
  rw [read?]
  rintro after rfl
  exact inner (List.prefix_append ['"', '"'] after)

theorem read?_literal (inner : ¬ ['\'', '\''] <+: t) : read? ('\'' :: t) = literal? t := by
  rw [read?]
  rintro after rfl
  exact inner (List.prefix_append ['\'', '\''] after)

theorem read?_basicBody (ends : rest.head? ≠ some '"') (s : Text) :
    read? ('"' :: (basicBody s ++ '"' :: rest)) = some (s, rest) := by
  have inner : ¬ ['"', '"'] <+: basicBody s ++ '"' :: rest := by
    intro run
    cases s with
    | nil => exact ends (List.singleton_prefix_iff_head?_eq_some.1 (List.cons_prefix_cons.1 run).2)
    | cons c s =>
      rw [basicBody, List.flatMap_cons, List.append_assoc] at run
      have quote := List.singleton_prefix_iff_head?_eq_some.1 ((List.prefix_append ['"'] ['"']).trans run)
      obtain ⟨d, first, -, unquoted⟩ := head?_of_stands stands_basic
      exact unquoted (Option.some.inj (first.symm.trans quote))
  rw [read?_basic inner, basic?_basicBody]

theorem read?_literalBody (plain : ∀ c ∈ s, isPlain c) (unquoted : '\'' ∉ s) (ends : rest.head? ≠ some '\'') :
    read? ('\'' :: (s ++ '\'' :: rest)) = some (s, rest) := by
  have inner : ¬ ['\'', '\''] <+: s ++ '\'' :: rest := by
    intro run
    cases s with
    | nil => exact ends (List.singleton_prefix_iff_head?_eq_some.1 (List.cons_prefix_cons.1 run).2)
    | cons c s =>
      obtain ⟨quote, -⟩ := List.cons_prefix_cons.1 run
      exact unquoted (quote ▸ List.mem_cons_self)
  rw [read?_literal inner, literal?_append plain unquoted]

theorem read?_overLines_basic (ends : rest.head? ≠ some '"') (s : Text) :
    read? (overLines '"' s (basicLinesBody 0 s) ++ rest) = some (s, rest) := by
  have opens : afterOpening ((if '\n' ∈ s then ['\n'] else []) ++ (basicLinesBody 0 s ++ '"' :: '"' :: '"' :: rest)) =
      basicLinesBody 0 s ++ '"' :: '"' :: '"' :: rest := by
    refine afterOpening_eq fun unbroken => ?_
    cases s with
    | nil => exact ⟨by simp [basicLinesBody], by simp [basicLinesBody]⟩
    | cons c s =>
      have plain : ∃ d, (basicLinesBody 0 (c :: s) ++ '"' :: '"' :: '"' :: rest).head? = some d ∧ isPlain d := by
        rw [basicLinesBody]
        split
        · next quote => exact ⟨c, rfl, quote ▸ by decide⟩
        split
        · next newline => exact absurd (newline ▸ List.mem_cons_self) unbroken
        · next unquoted unbroken =>
          obtain ⟨d, first, plain, -⟩ := head?_of_stands (stands_escaped unquoted unbroken)
          exact ⟨d, (List.append_assoc ..).symm ▸ first, plain⟩
      obtain ⟨d, first, plain⟩ := plain
      rw [first]
      exact ⟨by simpa using ne_newline_of_isPlain plain, by simpa using ne_return_of_isPlain plain⟩
  have whole : overLines '"' s (basicLinesBody 0 s) ++ rest =
      '"' :: '"' :: '"' :: ((if '\n' ∈ s then ['\n'] else []) ++ (basicLinesBody 0 s ++ '"' :: '"' :: '"' :: rest)) := by
    simp [overLines]
  rw [whole, read?, opens, basicLines?_basicLinesBody (by decide) ends]

theorem read?_overLines_literal (clean : ∀ c ∈ s, isControl c = false) (no_row : ¬ ['\'', '\'', '\''] <:+: s)
    (ends : rest.head? ≠ some '\'') : read? (overLines '\'' s s ++ rest) = some (s, rest) := by
  have opens : afterOpening ((if '\n' ∈ s then ['\n'] else []) ++ (s ++ '\'' :: '\'' :: '\'' :: rest)) =
      s ++ '\'' :: '\'' :: '\'' :: rest := by
    refine afterOpening_eq fun unbroken => ?_
    cases s with
    | nil => exact ⟨by simp, by simp⟩
    | cons c s =>
      have plain := isPlain_of_not_isControl (clean c List.mem_cons_self) fun same => unbroken (same ▸ List.mem_cons_self)
      exact ⟨by simpa using ne_newline_of_isPlain plain, by simpa using ne_return_of_isPlain plain⟩
  have whole : overLines '\'' s s ++ rest =
      '\'' :: '\'' :: '\'' :: ((if '\n' ∈ s then ['\n'] else []) ++ (s ++ '\'' :: '\'' :: '\'' :: rest)) := by
    simp [overLines]
  rw [whole, read?, opens, literalLines?_append clean no_row ends]

theorem render_eq_cons (s : Text) : ∃ c t, render s = c :: t ∧ (c = '"' ∨ c = '\'') := by
  unfold render
  split
  · exact ⟨'"', _, rfl, .inl rfl⟩
  · exact ⟨'\'', _, rfl, .inr rfl⟩
  · exact ⟨'"', _, rfl, .inl rfl⟩
  · exact ⟨'\'', _, rfl, .inr rfl⟩

theorem read?_render (ends : ∀ c ∈ rest.head?, c ≠ '"' ∧ c ≠ '\'') (s : Text) : read? (render s ++ rest) = some (s, rest) := by
  have no_quote : rest.head? ≠ some '"' := fun first => (ends '"' first).1 rfl
  have no_apostrophe : rest.head? ≠ some '\'' := fun first => (ends '\'' first).2 rfl
  unfold render
  cases chosen : style s with
  | basic =>
    simp only [List.cons_append, List.append_assoc]
    exact read?_basicBody no_quote s
  | literal =>
    simp only [List.cons_append, List.append_assoc]
    obtain ⟨plain, unquoted⟩ := style_literal chosen
    exact read?_literalBody plain unquoted no_apostrophe
  | basicLines => exact read?_overLines_basic no_quote s
  | literalLines =>
    obtain ⟨clean, no_row⟩ := style_literalLines chosen
    exact read?_overLines_literal clean no_row no_apostrophe

end ReadingLog.Toml.Quoted
