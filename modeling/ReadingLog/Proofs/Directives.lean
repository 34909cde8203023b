import Mathlib.Data.List.Forall2
import ReadingLog.DateLayout.Directives
import ReadingLog.Proofs.Trimming

/-!
# What directives say

A layout that is written out as directives is taken apart into its tokens again, whatever its literals hold: each field is one
item, and each literal comes in pieces of text. So dates are printed and read by the directives as they are by the tokens.
-/

namespace ReadingLog.DateLayout

/-! ## Literals between fields -/

/-- No literal follows another. -/
def Token.LiteralsApart : List Token → Prop
  | [] => True
  | .field _ :: tokens => LiteralsApart tokens
  | .literal _ :: tokens => (∀ text, tokens.head? ≠ some (.literal text)) ∧ LiteralsApart tokens

theorem Token.literalsApart_prependLiteral {tokens : List Token} (apart : LiteralsApart tokens) (text : Text) :
    LiteralsApart (prependLiteral text tokens) := by
  cases tokens with
  | nil => exact ⟨nofun, apart⟩
  | cons token tokens =>
    cases token with
    | field f => exact ⟨nofun, apart⟩
    | literal later => exact apart

theorem Token.literalsApart_ofPattern (pattern : Text) : LiteralsApart (ofPattern pattern) := by
  fun_induction ofPattern pattern with
  | case1 => trivial
  | case2 rest ih => exact literalsApart_prependLiteral ih _
  | case3 c rest _ f _ ih => exact ih
  | case4 c rest _ _ ih => exact literalsApart_prependLiteral ih _

/-- What follows a literal begins with a directive. -/
theorem head?_directives {tokens : List Token} (field : ∀ text, tokens.head? ≠ some (.literal text)) :
    ∀ c ∈ (tokens.flatMap Token.directives).head?, c = '%' := by
  cases tokens with
  | nil => nofun
  | cons token tokens =>
    cases token with
    | field f => simp [Token.directives]
    | literal text => exact absurd rfl (field text)

/-! ## Literals -/

theorem doubled_percent (text : Text) : doubled ('%' :: text) = '%' :: '%' :: doubled text := rfl

theorem doubled_cons {c : Char} (other : c ≠ '%') (text : Text) : doubled (c :: text) = c :: doubled text := by
  simp [doubled, other]

section

variable {rest : Text}

/-- A run of characters is the same after percent signs are doubled, and it ends where a directive begins. -/
theorem span_doubled {p : Char → Bool} (percent : p '%' = false) (starts : ∀ c ∈ rest.head?, c = '%') (text : Text) :
    (doubled text ++ rest).takeWhile p = text.takeWhile p ∧
    (doubled text ++ rest).dropWhile p = doubled (text.dropWhile p) ++ rest := by
  induction text with
  | nil =>
    cases rest with
    | nil => exact ⟨rfl, rfl⟩
    | cons c rest =>
      obtain rfl := starts c rfl
      simp [doubled, percent]
  | cons c text ih =>
    by_cases other : c = '%'
    · subst other
      simp [doubled_percent, percent]
    · rw [doubled_cons other, List.cons_append]
      by_cases inside : p c
      · simp [inside, ih]
      · simp [inside, doubled_cons other]

/-- Items that make up a text: runs of white space, and pieces without any. -/
inductive Spells : List Item → Text → Prop
  | nil : Spells [] []
  | text {items : List Item} {piece after : Text} (inked : ∀ c ∈ piece, Text.isBlank c = false) (spells : Spells items after) :
    Spells (.text piece :: items) (piece ++ after)
  | space {items : List Item} {c : Char} {more after : Text} (blank : ∀ d ∈ c :: more, Text.isBlank d) (spells : Spells items after) :
    Spells (.space (c :: more) :: items) (c :: more ++ after)

theorem Spells.ofRun {items : List Item} {c : Char} {more after : Text} (run : ∀ d ∈ more, goesOn c d)
    (spells : Spells items after) : Spells (.ofRun c more :: items) (c :: more ++ after) := by
  have alike : ∀ d ∈ c :: more, Text.isBlank d = Text.isBlank c :=
    List.forall_mem_cons.2 ⟨rfl, fun d member => by simpa using (Bool.and_eq_true_iff.1 (run d member)).2⟩
  unfold Item.ofRun
  split
  · next blank => exact .space (fun d member => (alike d member).trans blank) spells
  · next inked => exact .text (fun d member => (alike d member).trans (by simpa using inked)) spells

theorem items?_directive {letters : Text} {items : List Item} (reads : directive? (letters ++ rest) = some (items, letters.length)) :
    items? ('%' :: (letters ++ rest)) = (items? rest).map (items ++ ·) := by
  have after : (letters ++ rest).drop letters.length = rest := List.drop_left
  simp only [items?, if_true, reads, Option.bind_some, after]

/-- Doubled percent signs are read as percent signs, and all else as it stands. -/
theorem items?_doubled (starts : ∀ c ∈ rest.head?, c = '%') (text : Text) :
    ∃ items, Spells items text ∧ items? (doubled text ++ rest) = (items? rest).map (items ++ ·) := by
  match text with
  | [] => exact ⟨[], .nil, by simp [doubled]⟩
  | c :: text =>
    by_cases percent : c = '%'
    · subst percent
      obtain ⟨items, spells, read⟩ := items?_doubled starts text
      have sign : directive? (['%'] ++ (doubled text ++ rest)) = some ([.text ['%']], ['%'].length) := rfl
      refine ⟨.text ['%'] :: items, .text (List.forall_mem_singleton.2 rfl) spells, ?_⟩
      calc items? (doubled ('%' :: text) ++ rest)
        _ = (items? (doubled text ++ rest)).map ([.text ['%']] ++ ·) := items?_directive sign
        _ = (items? rest).map (.text ['%'] :: items ++ ·) := by
          rw [read, Option.map_map]
          rfl
    · obtain ⟨taken, dropped⟩ := span_doubled (p := goesOn c) rfl starts text
      obtain ⟨items, spells, read⟩ := items?_doubled starts (text.dropWhile (goesOn c))
      refine ⟨.ofRun c (text.takeWhile (goesOn c)) :: items, ?_, ?_⟩
      · have whole := spells.ofRun (c := c) fun d => List.mem_takeWhile_imp (l := text)
        rwa [List.cons_append, List.takeWhile_append_dropWhile] at whole
      · rw [doubled_cons percent, List.cons_append, items?, if_neg percent, taken, dropped, read, Option.map_map]
        rfl
termination_by text.length
decreasing_by
  · simp
  · have := (List.dropWhile_sublist (goesOn c) (l := text)).length_le
    simp only [List.length_cons]
    omega

end

/-! ## Tokens -/

/-- The item that a field asks for. -/
def Field.item : Field → Item
  | year => .number .year .zeros
  | shortYear => .number .shortYear .zeros
  | monthName => .monthName
  | monthAbbreviation => .monthAbbreviation
  | paddedMonth => .number .month .zeros
  | month => .number .month .nothing
  | paddedDay => .number .day .zeros
  | day => .number .day .nothing
  | weekdayName => .weekdayName
  | weekdayAbbreviation => .weekdayAbbreviation

theorem directive?_letters (f : Field) (rest : Text) :
    directive? (f.letters ++ rest) = some ([f.item], f.letters.length) := by
  cases f <;> rfl

/-- The items say what the token says: a field is its own item alone, and a literal is its own text. -/
def Token.Means : Token → List Item → Prop
  | .field f, items => items = [f.item]
  | .literal text, items => Spells items text

theorem items?_tokens {tokens : List Token} (apart : Token.LiteralsApart tokens) : ∃ pieces,
    items? (tokens.flatMap Token.directives) = some pieces.flatten ∧ List.Forall₂ Token.Means tokens pieces := by
  induction tokens with
  | nil => exact ⟨[], by simp [items?], .nil⟩
  | cons token tokens ih =>
    cases token with
    | field f =>
      obtain ⟨pieces, read, means⟩ := ih apart
      refine ⟨[f.item] :: pieces, ?_, .cons rfl means⟩
      rw [List.flatMap_cons, Token.directives, List.cons_append, items?_directive (directive?_letters f _), read]
      rfl
    | literal text =>
      obtain ⟨field, apart⟩ := apart
      obtain ⟨pieces, read, means⟩ := ih apart
      obtain ⟨items, spells, whole⟩ := items?_doubled (head?_directives field) text
      refine ⟨items :: pieces, ?_, .cons spells means⟩
      rw [List.flatMap_cons, Token.directives, whole, read]
      rfl

/-! ## Printing -/

section

variable {foreign : Foreign → Date → Option Text} {d : Date}

theorem Item.formatAll?_append {items later : List Item} {s t : Text} (first : formatAll? foreign d items = some s)
    (second : formatAll? foreign d later = some t) : formatAll? foreign d (items ++ later) = some (s ++ t) := by
  induction items generalizing s with
  | nil =>
    obtain rfl := Option.some.inj first
    exact second
  | cons item items ih =>
    obtain ⟨here, printed, inner⟩ := Option.bind_eq_some_iff.1 first
    obtain ⟨after, rest, same⟩ := Option.bind_eq_some_iff.1 inner
    obtain rfl := Option.some.inj same
    rw [List.cons_append, formatAll?, printed, ih rest, List.append_assoc]
    rfl

theorem Spells.formatAll? {items : List Item} {text : Text} (spells : Spells items text) :
    Item.formatAll? foreign d items = some text := by
  induction spells with
  | nil => rfl
  | text _ _ ih | space _ _ ih =>
    rw [Item.formatAll?, ih]
    rfl

theorem Filling.year_zeros (year : Int) : zeros.year year = Date.yearText year := by
  unfold Filling.year Date.yearText
  split
  · next four =>
    rw [if_neg (by omega), if_neg (by omega)]
    rfl
  · next other =>
    split
    · rfl
    · rw [if_pos (by omega)]
      rfl

theorem Field.format?_item (f : Field) : f.item.format? foreign d = some (f.format d) := by
  cases f with
  | year => exact congrArg some (Filling.year_zeros d.year)
  | _ => rfl

theorem Token.Means.formatAll? {token : Token} {items : List Item} (means : token.Means items) :
    Item.formatAll? foreign d items = some (token.format d) := by
  cases token with
  | field f =>
    obtain rfl := means
    rw [Item.formatAll?, f.format?_item, Item.formatAll?, Token.format]
    simp
  | literal text => exact Spells.formatAll? means

theorem formatAll?_flatten {tokens : List Token} {pieces : List (List Item)} (means : List.Forall₂ Token.Means tokens pieces) :
    Item.formatAll? foreign d pieces.flatten = some (tokens.flatMap (Token.format d)) := by
  induction means with
  | nil => rfl
  | cons here _ ih => exact Item.formatAll?_append here.formatAll? ih

end

/-! ## Reading -/

section

theorem readLiteral?_text_append (text later s : Text) :
    readLiteral? (text ++ later) s = (readLiteral? text s).bind (readLiteral? later) := by
  fun_induction readLiteral? text s with
  | case1 => rfl
  | case2 s c text blank ih => simp [readLiteral?, blank, ih]
  | case3 text d rest inked ih => simp [readLiteral?, inked, ih]
  | case4 c text inked d rest other => simp [readLiteral?, inked, other]
  | case5 c text inked => simp [readLiteral?, inked]

theorem readLiteral?_inked {text : Text} (inked : ∀ c ∈ text, Text.isBlank c = false) (s : Text) :
    readLiteral? text s = text.isPrefixOf? s := by
  induction text generalizing s with
  | nil => cases s <;> rfl
  | cons c text ih =>
    obtain ⟨here, later⟩ := List.forall_mem_cons.1 inked
    cases s with
    | nil => simp [readLiteral?, here, List.isPrefixOf?]
    | cons d rest => simp [readLiteral?, here, List.isPrefixOf?, ih later]

theorem readLiteral?_blanks {c : Char} {more : Text} (blank : ∀ d ∈ c :: more, Text.isBlank d) (s : Text) :
    readLiteral? (c :: more) s = some s.trimStart := by
  induction more generalizing c s with
  | nil => simp [readLiteral?, blank c]
  | cons d more ih =>
    obtain ⟨here, later⟩ := List.forall_mem_cons.1 blank
    rw [← Text.trimStart_trimStart s, ← ih later]
    simp [readLiteral?, here]

variable {foreign : Foreign → Findings → Text → Option (Findings × Text)} {items : List Item}

theorem Spells.readAll? {text : Text} (spells : Spells items text) (later : List Item) (found : Findings) (s : Text) :
    Item.readAll? foreign (items ++ later) found s = (readLiteral? text s).bind (Item.readAll? foreign later found) := by
  induction spells generalizing s with
  | nil => rfl
  | @text _ piece _ inked _ ih =>
    rw [readLiteral?_text_append, readLiteral?_inked inked, List.cons_append, Item.readAll?, Item.read?]
    cases piece.isPrefixOf? s with
    | none => rfl
    | some rest => exact ih rest
  | space blank _ ih =>
    rw [readLiteral?_text_append, readLiteral?_blanks blank, List.cons_append, Item.readAll?, Item.read?]
    exact ih s.trimStart

theorem Field.read?_item (f : Field) (found : Findings) (s : Text) : f.item.read? foreign found s = f.read? found s := by
  cases f <;> rfl

theorem Token.Means.readAll? {token : Token} (means : token.Means items) (later : List Item) (found : Findings) (s : Text) :
    Item.readAll? foreign (items ++ later) found s =
      (token.read? found s).bind fun (found, rest) => Item.readAll? foreign later found rest := by
  cases token with
  | field f =>
    obtain rfl := means
    rw [List.singleton_append, Item.readAll?, f.read?_item]
    rfl
  | literal text =>
    rw [Spells.readAll? means, Token.read?, Option.bind_map]
    rfl

theorem readAll?_flatten {tokens : List Token} {pieces : List (List Item)} (means : List.Forall₂ Token.Means tokens pieces)
    (found : Findings) (s : Text) : Item.readAll? foreign pieces.flatten found s = Token.readAll? tokens found s := by
  induction means generalizing found s with
  | nil => rfl
  | cons here _ ih =>
    rw [List.flatten_cons, here.readAll?, Token.readAll?]
    simp only [ih]
    rfl

end

/-- A text is read by the directives of a layout as it is by the tokens. -/
theorem parseByDirectives?_eq (layout : DateLayout) (foreign : Foreign → Findings → Text → Option (Findings × Text)) (s : Text) :
    layout.parseByDirectives? foreign s = layout.parse? s := by
  obtain ⟨pieces, read, means⟩ := items?_tokens (Token.literalsApart_ofPattern layout.pattern.toList)
  rw [parseByDirectives?, directives, tokens, read]
  simp only [Option.bind_eq_bind, Option.bind_some, readAll?_flatten means]
  rfl

/-- A pattern that is written out as directives is taken apart into its tokens again, each field as its item alone and each literal
as its own text; so every date is printed in every layout, and as the tokens spell it. -/
theorem directives_tell_tokens :
    (∀ pattern : Text, ∃ pieces, items? ((Token.ofPattern pattern).flatMap Token.directives) = some pieces.flatten ∧
      List.Forall₂ Token.Means (Token.ofPattern pattern) pieces) ∧
    ∀ (layout : DateLayout) (foreign : Foreign → Date → Option Text) (d : Date),
      layout.formatByDirectives? foreign d = some (layout.tokens.flatMap (Token.format d)) := by
  refine ⟨fun pattern => items?_tokens (Token.literalsApart_ofPattern pattern), fun layout foreign d => ?_⟩
  obtain ⟨pieces, read, means⟩ := items?_tokens (Token.literalsApart_ofPattern layout.pattern.toList)
  rw [formatByDirectives?, directives, tokens, read]
  exact formatAll?_flatten means

example : (Token.ofPattern "[%Y]%YYYY-M[%-]D".toList).flatMap Token.directives = "%%Y%%%Y-%-m%%-%-d".toList := by
  decide +kernel

end ReadingLog.DateLayout
