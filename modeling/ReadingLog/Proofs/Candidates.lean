import Mathlib.Data.List.Forall2
import ReadingLog.Proofs.NoteDate
import ReadingLog.Proofs.Splits

/-!
# Candidates

Which pieces of a text have the shape of a layout is said without searching: `Begins` asks for pieces that fit the tokens one
by one. The scan finds one candidate wherever such pieces begin, with each field from the left as long as the rest allows, and
goes on one character after the start of what it found.
-/

namespace ReadingLog.DateLayout

variable {tokens : List Token} {s piece : Text} {pieces other : List Text} {i n start : Nat}

/-! ## Shapes -/

/-- A piece of text looks like a field: it has the digits or letters that the field may have. -/
def Field.Fits (piece : Text) : Field → Prop
  | .year => piece.length = 4 ∧ ∀ c ∈ piece, Text.isScriptDigit c
  | .shortYear | .paddedMonth | .paddedDay => piece.length = 2 ∧ ∀ c ∈ piece, Text.isScriptDigit c
  | .month | .day => (piece.length = 2 ∨ piece.length = 1) ∧ ∀ c ∈ piece, Text.isScriptDigit c
  | .monthName | .weekdayName => 1 ≤ piece.length ∧ ∀ c ∈ piece, isLetter c
  | .monthAbbreviation | .weekdayAbbreviation => piece.length = 3 ∧ ∀ c ∈ piece, isLetter c

namespace Token

/-- A piece of text looks like a token: like its field, or it is its literal text. -/
def Fits : Token → Text → Prop
  | field f, piece => f.Fits piece
  | literal text, piece => piece = text

/-- The piece is made of pieces that fit the tokens one by one. -/
def HasShape (tokens : List Token) (piece : Text) : Prop :=
  ∃ pieces, List.Forall₂ Fits tokens pieces ∧ pieces.flatten = piece

/-- The text begins with pieces that fit the tokens one by one. -/
def Begins (tokens : List Token) (s : Text) (pieces : List Text) : Prop :=
  List.Forall₂ Fits tokens pieces ∧ pieces.flatten <+: s

/-- At the first place where they differ, the first pieces have the longer one. -/
inductive GoesFurther : List Text → List Text → Prop
  | here {piece piece' : Text} {pieces pieces' : List Text} :
    piece'.length < piece.length → GoesFurther (piece :: pieces) (piece' :: pieces')
  | later {piece : Text} {pieces pieces' : List Text} :
    GoesFurther pieces pieces' → GoesFurther (piece :: pieces) (piece :: pieces')

/-- Of all pieces that fit the tokens and begin the text, these go furthest. -/
def IsPreferred (tokens : List Token) (s : Text) (pieces : List Text) : Prop :=
  Begins tokens s pieces ∧ ∀ other, Begins tokens s other → other = pieces ∨ GoesFurther pieces other

/-! ## Lengths -/

/-- The lengths that a token can take of a text, the preferred one first. -/
def lengths (s : Text) : Token → List Nat
  | field f => f.lengths s
  | literal text => if text.isPrefixOf s then [text.length] else []

end Token

theorem mem_exactly_iff {width : Nat} {p : Char → Bool} (inside : n ≤ s.length) :
    n ∈ exactly width p s ↔ (s.take n).length = width ∧ ∀ c ∈ s.take n, p c := by
  rw [List.length_take_of_le inside, exactly]
  constructor
  · intro member
    split at member
    · next all =>
      obtain rfl := List.mem_singleton.1 member
      exact ⟨rfl, List.all_eq_true.1 all.2⟩
    · cases member
  · rintro ⟨rfl, all⟩
    rw [if_pos ⟨List.length_take_of_le inside, List.all_eq_true.2 all⟩]
    exact List.mem_singleton_self n

theorem le_length_of_mem_exactly {width : Nat} {p : Char → Bool} (member : n ∈ exactly width p s) : n ≤ s.length := by
  rw [exactly] at member
  split at member
  · next all =>
    obtain rfl := List.mem_singleton.1 member
    rw [← all.1]
    exact List.length_take_le' ..
  · cases member

/-- The lengths of a field are those of the pieces at the start of the text that look like it. -/
theorem Field.mem_lengths_iff {f : Field} : n ∈ f.lengths s ↔ n ≤ s.length ∧ f.Fits (s.take n) := by
  have letters : (s.takeWhile isLetter).length ≤ s.length := (List.takeWhile_prefix _).length_le
  by_cases inside : n ≤ s.length
  · simp only [inside, true_and]
    cases f with
    | year | shortYear | paddedMonth | paddedDay | monthAbbreviation | weekdayAbbreviation => exact mem_exactly_iff inside
    | month | day =>
      simp only [lengths, Fits, List.mem_append, mem_exactly_iff inside]
      exact or_and_right.symm
    | monthName | weekdayName =>
      rw [lengths, Template.Segment.mem_lengthsDown, Fits, Template.Segment.all_take_iff inside,
        List.length_take_of_le inside]
  · simp only [inside, false_and, iff_false]
    intro member
    apply inside
    cases f with
    | year | shortYear | paddedMonth | paddedDay | monthAbbreviation | weekdayAbbreviation =>
      exact le_length_of_mem_exactly member
    | month | day => exact (List.mem_append.1 member).elim le_length_of_mem_exactly le_length_of_mem_exactly
    | monthName | weekdayName =>
      rw [lengths, Template.Segment.mem_lengthsDown] at member
      omega

theorem exactly_ordered (width : Nat) (p : Char → Bool) (s : Text) : (exactly width p s).Pairwise (· > ·) := by
  rw [exactly]
  split
  · exact List.pairwise_singleton ..
  · exact List.Pairwise.nil

/-- Longer pieces are preferred. -/
theorem Field.lengths_ordered (f : Field) (s : Text) : (f.lengths s).Pairwise (· > ·) := by
  cases f with
  | year | shortYear | paddedMonth | paddedDay | monthAbbreviation | weekdayAbbreviation => exact exactly_ordered ..
  | month | day =>
    refine List.pairwise_append.2 ⟨exactly_ordered .., exactly_ordered .., fun m first n second => ?_⟩
    have double := ((mem_exactly_iff (le_length_of_mem_exactly first)).1 first).1
    have single := ((mem_exactly_iff (le_length_of_mem_exactly second)).1 second).1
    rw [List.length_take] at double single
    omega
  | monthName | weekdayName => exact Template.Segment.lengthsDown_ordered _

namespace Token

theorem mem_lengths_iff {token : Token} : n ∈ token.lengths s ↔ n ≤ s.length ∧ token.Fits (s.take n) := by
  cases token with
  | field f => exact Field.mem_lengths_iff
  | literal text =>
    simp only [lengths, Fits]
    constructor
    · intro member
      split at member
      · next starts =>
        obtain rfl := List.mem_singleton.1 member
        rw [List.isPrefixOf_iff_prefix] at starts
        exact ⟨starts.length_le, (List.prefix_iff_eq_take.1 starts).symm⟩
      · cases member
    · rintro ⟨inside, rfl⟩
      rw [if_pos (List.isPrefixOf_iff_prefix.2 (List.take_prefix n s)), List.length_take_of_le inside]
      exact List.mem_singleton_self n

theorem lengths_ordered (token : Token) (s : Text) : (token.lengths s).Pairwise (· > ·) := by
  cases token with
  | field f => exact f.lengths_ordered s
  | literal text =>
    rw [lengths]
    split
    · exact List.pairwise_singleton ..
    · exact List.Pairwise.nil

theorem shape?_cons (token : Token) (tokens : List Token) (s : Text) :
    shape? (token :: tokens) s = (token.lengths s).findSome? fun n => (shape? tokens (s.drop n)).map (n + ·) := by
  cases token with
  | field f => rfl
  | literal text =>
    rw [shape?, lengths]
    split <;> simp

/-! ## The search for a shape -/

theorem begins_nil_iff : Begins [] s pieces ↔ pieces = [] := by
  rw [Begins, List.forall₂_nil_left_iff]
  constructor
  · exact And.left
  · rintro rfl
    exact ⟨rfl, List.nil_prefix⟩

/-- The first piece begins the text, and the others begin what follows it. -/
theorem begins_cons_iff {token : Token} : Begins (token :: tokens) s pieces ↔
    ∃ n ∈ token.lengths s, ∃ rest, Begins tokens (s.drop n) rest ∧ pieces = s.take n :: rest := by
  simp only [mem_lengths_iff]
  constructor
  · rintro ⟨fitting, starts⟩
    obtain ⟨piece, rest, fits, others, rfl⟩ := List.forall₂_cons_left_iff.1 fitting
    obtain ⟨behind, rfl⟩ := starts
    rw [List.flatten_cons, List.append_assoc]
    refine ⟨piece.length, ⟨by simp, by rwa [List.take_left]⟩, rest, ⟨others, ?_⟩, by rw [List.take_left]⟩
    rw [List.drop_left]
    exact List.prefix_append ..
  · rintro ⟨n, ⟨-, fits⟩, rest, ⟨others, starts⟩, rfl⟩
    refine ⟨.cons fits others, ?_⟩
    rw [List.flatten_cons]
    calc s.take n ++ rest.flatten <+: s.take n ++ s.drop n := (List.prefix_append_right_inj _).2 starts
      _ = s := List.take_append_drop n s

/-- The search fails just where no pieces begin the text. -/
theorem shape?_eq_none_iff : shape? tokens s = none ↔ ∀ pieces, ¬ Begins tokens s pieces := by
  induction tokens generalizing s with
  | nil => simp [shape?, begins_nil_iff]
  | cons token tokens ih =>
    simp only [shape?_cons, begins_cons_iff, List.findSome?_eq_none_iff, Option.map_eq_none_iff, ih]
    constructor
    · rintro none _ ⟨n, member, rest, others, -⟩
      exact none n member rest others
    · intro none n member rest others
      exact none _ ⟨n, member, rest, others, rfl⟩

/-- The search finds the pieces that are preferred. -/
theorem exists_preferred_of_shape? (found : shape? tokens s = some n) :
    ∃ pieces, IsPreferred tokens s pieces ∧ s.take n = pieces.flatten := by
  induction tokens generalizing s n with
  | nil =>
    obtain rfl := Option.some.inj found
    exact ⟨[], ⟨begins_nil_iff.2 rfl, fun other begins => .inl (begins_nil_iff.1 begins)⟩, rfl⟩
  | cons token tokens ih =>
    rw [shape?_cons] at found
    obtain ⟨before, first, after, all, taken, refused⟩ := List.findSome?_eq_some_iff.1 found
    obtain ⟨m, later, rfl⟩ := Option.map_eq_some_iff.1 taken
    obtain ⟨rest, ⟨begins, furthest⟩, spelled⟩ := ih later
    have member : first ∈ token.lengths s := by simp [all]
    have inside : first ≤ s.length := (mem_lengths_iff.1 member).1
    refine ⟨s.take first :: rest, ⟨begins_cons_iff.2 ⟨first, member, rest, begins, rfl⟩, fun other begun => ?_⟩, ?_⟩
    · obtain ⟨first', member', rest', begins', rfl⟩ := begins_cons_iff.1 begun
      have ordered := token.lengths_ordered s
      have inside' : first' ≤ s.length := (mem_lengths_iff.1 member').1
      rw [all] at ordered member'
      -- With the lengths before the one taken nothing follows, so the other pieces take that one or a later one.
      rcases List.mem_append.1 member' with early | late
      · have nothing := Option.map_eq_none_iff.1 (refused first' early)
        exact absurd begins' (shape?_eq_none_iff.1 nothing rest')
      rcases List.mem_cons.1 late with rfl | later
      · rcases furthest rest' begins' with rfl | further
        · exact .inl rfl
        · exact .inr (.later further)
      · have shorter := (List.pairwise_cons.1 (List.pairwise_append.1 ordered).2.1).1 first' later
        refine .inr (.here ?_)
        rwa [List.length_take_of_le inside, List.length_take_of_le inside']
    · rw [List.take_add, spelled, List.flatten_cons]

/-! ## The scan -/

/-- What a scan finds from a place on: the first place where pieces that fit the tokens begin, with the pieces preferred there,
and then what it finds from the next character on. -/
inductive Scans (tokens : List Token) (s : Text) : Nat → List (Nat × Text) → Prop
  | nothing {start : Nat} : (∀ i, start ≤ i → ∀ pieces, ¬ Begins tokens (s.drop i) pieces) → Scans tokens s start []
  | found {start i : Nat} {pieces : List Text} {later : List (Nat × Text)} :
    start ≤ i → (∀ j, start ≤ j → j < i → ∀ other, ¬ Begins tokens (s.drop j) other) → IsPreferred tokens (s.drop i) pieces →
    Scans tokens s (i + 1) later → Scans tokens s start ((i, pieces.flatten) :: later)

variable {found : List (Nat × Text)}

/-- A place where nothing begins can be scanned too. -/
theorem Scans.from_earlier (scans : Scans tokens s (start + 1) found) (nothing : ∀ pieces, ¬ Begins tokens (s.drop start) pieces) :
    Scans tokens s start found := by
  have here {i : Nat} (not_later : ¬ start + 1 ≤ i) (from_start : start ≤ i) : i = start := by omega
  cases scans with
  | nothing none =>
    refine .nothing fun i from_start => ?_
    by_cases later : start + 1 ≤ i
    · exact none i later
    · rwa [here later from_start]
  | found after none preferred scans =>
    refine .found (by omega) (fun j from_start before => ?_) preferred scans
    by_cases later : start + 1 ≤ j
    · exact none j later before
    · rwa [here later from_start]

/-- All places found are at the start of the scan or behind it, and in order. -/
theorem Scans.ordered (scans : Scans tokens s start found) :
    (∀ i ∈ found.map Prod.fst, start ≤ i) ∧ (found.map Prod.fst).Pairwise (· < ·) := by
  induction scans with
  | nothing => exact ⟨by simp, List.Pairwise.nil⟩
  | @found start i pieces later after none preferred scans ih =>
    obtain ⟨behind, ordered⟩ := ih
    refine ⟨fun j member => ?_, List.pairwise_cons.2 ⟨fun j member => behind j member, ordered⟩⟩
    rcases List.mem_cons.1 member with rfl | member
    · exact after
    · have := behind j member
      omega

/-- A scan finds every place from its start on where pieces begin. -/
theorem Scans.mem_iff (scans : Scans tokens s start found) :
    i ∈ found.map Prod.fst ↔ start ≤ i ∧ ∃ pieces, Begins tokens (s.drop i) pieces := by
  induction scans with
  | nothing none =>
    simp only [List.map_nil, List.not_mem_nil, false_iff, not_and, not_exists]
    exact none i
  | @found start j pieces later after none preferred scans ih =>
    rw [List.map_cons, List.mem_cons, ih]
    constructor
    · rintro (rfl | ⟨behind, begins⟩)
      · exact ⟨after, pieces, preferred.1⟩
      · exact ⟨by omega, begins⟩
    · rintro ⟨from_start, other, begins⟩
      by_cases here : i = j
      · exact .inl here
      · refine .inr ⟨?_, other, begins⟩
        by_contra before
        exact none i from_start (by omega) other begins

theorem Scans.preferred_of_mem (scans : Scans tokens s start found) (member : (i, piece) ∈ found) :
    ∃ pieces, IsPreferred tokens (s.drop i) pieces ∧ piece = pieces.flatten := by
  induction scans with
  | nothing => cases member
  | found after none preferred scans ih =>
    rcases List.mem_cons.1 member with same | later
    · cases same
      exact ⟨_, preferred, rfl⟩
    · exact ih later

theorem fits_nil_of_begins (begins : Begins tokens [] pieces) : ∀ token ∈ tokens, token.Fits [] := by
  induction tokens generalizing pieces with
  | nil => simp
  | cons token tokens ih =>
    obtain ⟨n, member, rest, others, -⟩ := begins_cons_iff.1 begins
    rw [List.drop_nil] at others
    have fits := (mem_lengths_iff.1 member).2
    rw [List.take_nil] at fits
    exact List.forall_mem_cons.2 ⟨fits, ih others⟩

/-- Tokens that fix a date have a year, which is spelled by digits. -/
theorem ne_nil_of_begins (complete : areComplete tokens) (begins : Begins tokens s pieces) : s ≠ [] := by
  rintro rfl
  simp only [areComplete, Bool.and_eq_true, anyField_iff] at complete
  obtain ⟨⟨⟨f, member, year⟩, -⟩, -⟩ := complete
  have fits : f.Fits [] := fits_nil_of_begins begins _ member
  cases f <;> simp [Field.isYear, Field.Fits] at year fits

/-- The candidates are what a scan finds. -/
theorem exists_scans (complete : areComplete tokens) (s : Text) (start : Nat) :
    ∃ found, Scans tokens s start found ∧ candidates tokens (s.drop start) = found.map Prod.snd := by
  generalize rest : s.drop start = behind
  induction behind generalizing start with
  | nil =>
    refine ⟨[], .nothing fun i after pieces begins => ne_nil_of_begins complete begins ?_, rfl⟩
    rw [List.drop_eq_nil_iff] at rest ⊢
    omega
  | cons c behind ih =>
    have next : s.drop (start + 1) = behind := by
      rw [← List.drop_drop, rest]
      rfl
    obtain ⟨found, scans, same⟩ := ih (start + 1) next
    cases here : shape? tokens (c :: behind) with
    | none =>
      refine ⟨found, scans.from_earlier ?_, by simp only [candidates, here, same]⟩
      rw [rest]
      exact shape?_eq_none_iff.1 here
    | some n =>
      obtain ⟨pieces, preferred, spelled⟩ := exists_preferred_of_shape? here
      refine ⟨(start, pieces.flatten) :: found, .found (Nat.le_refl start) (by omega) (rest ▸ preferred) scans, ?_⟩
      simp only [candidates, here, same, spelled, List.map_cons]

end Token

open Text (OccursAt)

/-- The candidates are what the scan finds from the start of the text on, at ever later places: one at every place where a
piece has the shape of the layout, the preferred one. -/
theorem candidates_scanned (layout : DateLayout) (s : Text) : ∃ found : List (Nat × Text),
    layout.candidates s = found.map Prod.snd ∧ Token.Scans layout.tokens s 0 found ∧
    (found.map Prod.fst).Pairwise (· < ·) ∧
    (∀ i, i ∈ found.map Prod.fst ↔ ∃ piece, Token.HasShape layout.tokens piece ∧ OccursAt piece s i) ∧
    ∀ i candidate, (i, candidate) ∈ found →
      ∃ pieces, Token.IsPreferred layout.tokens (s.drop i) pieces ∧ candidate = pieces.flatten := by
  obtain ⟨found, scans, same⟩ := Token.exists_scans layout.complete s 0
  refine ⟨found, same, scans, scans.ordered.2, fun i => ?_, fun i candidate => scans.preferred_of_mem⟩
  rw [scans.mem_iff]
  constructor
  · rintro ⟨-, pieces, fitting, begins⟩
    exact ⟨pieces.flatten, ⟨pieces, fitting, rfl⟩, begins⟩
  · rintro ⟨_, ⟨pieces, fitting, rfl⟩, begins⟩
    exact ⟨Nat.zero_le i, pieces, fitting, begins⟩

end ReadingLog.DateLayout
