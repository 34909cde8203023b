import Mathlib.Data.List.Chain
import Mathlib.Data.List.DropRight
import Mathlib.Data.List.Infix
import ReadingLog.Proofs.Matching

/-!
# Templates with their numbers apart

A line can often be split by a template in several ways. Where literal text keeps the numbers of a template from other
placeholders and from digits there is at most one: what stands before the subject is found from the start of the line, what
stands after it from its end, and the subject is the rest.
-/

namespace ReadingLog

/-- The placeholder stands for a number. -/
def Placeholder.isNumber : Placeholder → Bool
  | startPage | endPage | finish => true
  | date | book | anything => false

namespace Template.Segment

/-- Neighbours can be told apart: a number has literal text beside it, and that touches it with no digit. -/
def Apart : Segment → Segment → Prop
  | literal text, slot p => p.isNumber → ∃ c ∈ text.getLast?, ¬ Text.isScriptDigit c
  | slot p, literal text => p.isNumber → ∃ c ∈ text.head?, ¬ Text.isScriptDigit c
  | slot p, slot q => ¬ p.isNumber ∧ ¬ q.isNumber
  | literal _, literal _ => True

/-- The first segment shows where a number begins that comes after it: it is literal text, and it ends in no digit. -/
def ShowsStart : Segment → Segment → Prop
  | literal text, slot p => p.isNumber → ∃ c ∈ text.getLast?, ¬ Text.isScriptDigit c
  | slot _, slot q => ¬ q.isNumber
  | _, literal _ => True

theorem Apart.showsStart {first second : Segment} (apart : Apart first second) : ShowsStart first second := by
  cases first with
  | literal text =>
    cases second with
    | literal => trivial
    | slot p => exact apart
  | slot p =>
    cases second with
    | literal => trivial
    | slot q => exact apart.2

instance : DecidableRel ShowsStart
  | literal text, slot p =>
    have : Decidable (∃ c ∈ text.getLast?, ¬ Text.isScriptDigit c) := Option.decidableExistsMem _
    inferInstanceAs (Decidable (p.isNumber → ∃ c ∈ text.getLast?, ¬ Text.isScriptDigit c))
  | slot _, slot q => inferInstanceAs (Decidable (¬ q.isNumber))
  | literal _, literal _ | slot _, literal _ => .isTrue trivial

instance : DecidableRel Apart
  | literal text, slot p =>
    have : Decidable (∃ c ∈ text.getLast?, ¬ Text.isScriptDigit c) := Option.decidableExistsMem _
    inferInstanceAs (Decidable (p.isNumber → ∃ c ∈ text.getLast?, ¬ Text.isScriptDigit c))
  | slot p, literal text =>
    have : Decidable (∃ c ∈ text.head?, ¬ Text.isScriptDigit c) := Option.decidableExistsMem _
    inferInstanceAs (Decidable (p.isNumber → ∃ c ∈ text.head?, ¬ Text.isScriptDigit c))
  | slot p, slot q => inferInstanceAs (Decidable (¬ p.isNumber ∧ ¬ q.isNumber))
  | literal _, literal _ => .isTrue trivial

/-- The numbers of a template stand apart from all else, and no share before the subject has a percent sign after it that may
    be its own or the template's. -/
structure HaveNumbersApart (segments : List Segment) : Prop where
  definite : slot .anything ∉ segments
  apart : segments.IsChain Apart
  unsigned : ∀ before text after, segments = before ++ slot .finish :: literal text :: after →
    slot .book ∈ after ∨ slot .date ∈ after → text.head? ≠ some '%'

/-- The segments do not begin with a share before the subject and a percent sign after it. -/
def beginsUnsigned : List Segment → Bool
  | slot .finish :: literal text :: after => !(after.contains (slot .book) || after.contains (slot .date)) || text.head? != some '%'
  | _ => true

theorem all_beginsUnsigned_iff {segments : List Segment} : segments.tails.all beginsUnsigned ↔
    ∀ before text after, segments = before ++ slot .finish :: literal text :: after →
      slot .book ∈ after ∨ slot .date ∈ after → text.head? ≠ some '%' := by
  simp only [List.all_eq_true, List.mem_tails]
  constructor
  · rintro all before text after rfl later
    have here := all _ (List.suffix_append before _)
    rcases later with later | later <;> simpa [beginsUnsigned, later] using here
  · rintro all _ ⟨before, rfl⟩
    unfold beginsUnsigned
    split
    · next text after =>
      have here := all before text after rfl
      by_cases later : slot .book ∈ after ∨ slot .date ∈ after <;> simp_all
    · rfl

instance (segments : List Segment) : Decidable (HaveNumbersApart segments) :=
  decidable_of_iff (slot .anything ∉ segments ∧ segments.IsChain Apart ∧ segments.tails.all beginsUnsigned)
    ⟨fun ⟨definite, apart, unsigned⟩ => ⟨definite, apart, all_beginsUnsigned_iff.1 unsigned⟩,
      fun ⟨definite, apart, unsigned⟩ => ⟨definite, apart, all_beginsUnsigned_iff.2 unsigned⟩⟩

/-! ## One number -/

variable {p : Placeholder} {digits before before' after after' piece piece' : Text} {c c' : Char}

theorem rtakeWhile_numeral (numeral : IsNumeral digits) (begins : ¬ Text.isScriptDigit c) :
    (before ++ c :: digits).rtakeWhile Text.isScriptDigit = digits := by
  have turned : IsNumeral digits.reverse :=
    ⟨by simpa using numeral.1, fun digit member => numeral.2 digit (List.mem_reverse.1 member)⟩
  have line : (before ++ c :: digits).reverse = digits.reverse ++ c :: before.reverse := by simp
  rw [List.rtakeWhile, line, takeWhile_numeral turned begins, List.reverse_reverse]

/-- A number is the run of digits that the text begins with, or for a share that run and a percent sign. -/
theorem eq_run_of_number (number : p.isNumber) (fits : Fits (slot p) piece) (ends : ¬ Text.isScriptDigit c) (after : Text) :
    piece = (piece ++ c :: after).takeWhile Text.isScriptDigit ∨
      p = .finish ∧ piece = (piece ++ c :: after).takeWhile Text.isScriptDigit ++ ['%'] := by
  cases p with
  | date | book | anything => contradiction
  | startPage | endPage => exact .inl (takeWhile_numeral fits ends).symm
  | finish =>
    rcases fits with numeral | ⟨digits, numeral, rfl⟩
    · exact .inl (takeWhile_numeral numeral ends).symm
    · rw [List.append_assoc, List.singleton_append, takeWhile_numeral numeral not_isScriptDigit_percent]
      exact .inr ⟨rfl, rfl⟩

/-- A number is found from the start of a line by what follows it. -/
theorem number_unique_of_next (number : p.isNumber) (fits : Fits (slot p) piece) (fits' : Fits (slot p) piece')
    (ends : ¬ Text.isScriptDigit c) (unsigned : p = .finish → c ≠ '%') (same : piece ++ c :: after = piece' ++ c :: after') :
    piece = piece' := by
  have run := eq_run_of_number number fits ends after
  have run' := eq_run_of_number number fits' ends after'
  rw [← same] at run'
  generalize (piece ++ c :: after).takeWhile Text.isScriptDigit = digits at run run'
  rcases run with rfl | ⟨share, rfl⟩ <;> rcases run' with rfl | ⟨share', rfl⟩
  · rfl
  · rw [List.append_assoc] at same
    exact absurd (List.cons.inj (List.append_cancel_left same)).1 (unsigned share')
  · rw [List.append_assoc] at same
    exact absurd (List.cons.inj (List.append_cancel_left same)).1.symm (unsigned share)
  · rfl

theorem fits_finish_of_number (number : p.isNumber) (fits : Fits (slot p) piece) : Fits (slot .finish) piece := by
  cases p with
  | date | book | anything => contradiction
  | startPage | endPage => exact .inl fits
  | finish => exact fits

/-- A number is found from the end of a line by what precedes it. -/
theorem number_unique_of_previous (number : p.isNumber) (fits : Fits (slot p) piece) (fits' : Fits (slot p) piece')
    (begins : ¬ Text.isScriptDigit c) (same : before ++ c :: piece = before' ++ c :: piece') : piece = piece' := by
  have run := congrArg (List.rtakeWhile Text.isScriptDigit) same
  have signed (before digits : Text) : (before ++ c :: (digits ++ ['%'])).rtakeWhile Text.isScriptDigit = [] := by
    rw [← List.cons_append, ← List.append_assoc]
    exact List.rtakeWhile_concat_neg _ _ _ not_isScriptDigit_percent
  rcases fits_finish_of_number number fits with numeral | ⟨digits, numeral, rfl⟩ <;>
    rcases fits_finish_of_number number fits' with numeral' | ⟨digits', numeral', rfl⟩
  · rwa [rtakeWhile_numeral numeral begins, rtakeWhile_numeral numeral' begins] at run
  · rw [rtakeWhile_numeral numeral begins, signed] at run
    exact absurd run numeral.1
  · rw [rtakeWhile_numeral numeral' begins, signed] at run
    exact absurd run.symm numeral'.1
  · simp only [← List.cons_append, ← List.append_assoc, List.append_cancel_right_eq] at same
    have run := congrArg (List.rtakeWhile Text.isScriptDigit) same
    rw [rtakeWhile_numeral numeral begins, rtakeWhile_numeral numeral' begins] at run
    rw [run]

/-! ## Around the subject -/

variable {segments left right : List Segment} {subject : Placeholder} {pieces pieces' : List Text}

/-- Between the subject and the end of a template there are literals and numbers. -/
def AreRigid (segments : List Segment) : Prop := ∀ p, slot p ∈ segments → p.isNumber

theorem areRigid_of_definite (numbers : ∀ p, slot p ∈ segments → p ≠ .anything → p.isNumber)
    (definite : slot .anything ∉ segments) : AreRigid segments := by
  intro p member
  refine numbers p member ?_
  rintro rfl
  exact definite member

theorem date_notMem_of_numbers (numbers : ∀ p, slot p ∈ segments → p ≠ .anything → p.isNumber) : slot .date ∉ segments :=
  fun member => Bool.false_ne_true (numbers .date member (by decide))

/-- The pieces before the subject are found from the start of the line. -/
theorem pieces_unique_of_left (rigid : AreRigid left) (apart : (left ++ slot subject :: right).IsChain Apart)
    (unsigned : ∀ before text after, left = before ++ slot .finish :: literal text :: after → text.head? ≠ some '%')
    (fits : List.Forall₂ Fits left pieces) (fits' : List.Forall₂ Fits left pieces')
    (same : pieces.flatten ++ after = pieces'.flatten ++ after') : pieces = pieces' := by
  induction fits generalizing pieces' with
  | nil => exact (List.forall₂_nil_left_iff.1 fits').symm
  | @cons segment piece left pieces here others ih =>
    -- The literal that follows a number shows where it ends, and the two splits go on alike from there.
    obtain ⟨piece', pieces', here', others', rfl⟩ := List.forall₂_cons_left_iff.1 fits'
    have rest := ih (fun p member => rigid p (List.mem_cons_of_mem _ member)) apart.tail
      (fun before text after split => unsigned (segment :: before) text after (by rw [split, List.cons_append])) others'
    simp only [List.flatten_cons, List.append_assoc] at same
    have first : piece = piece' := by
      cases segment with
      | literal text => exact here.trans here'.symm
      | slot p =>
        have number := rigid p List.mem_cons_self
        cases left with
        | nil => exact absurd number (List.isChain_cons_cons.1 apart).1.1
        | cons next left =>
          cases next with
          | slot q => exact absurd number (List.isChain_cons_cons.1 apart).1.1
          | literal text =>
            obtain ⟨c, touches, ends⟩ := (List.isChain_cons_cons.1 apart).1 number
            obtain ⟨tail, rfl⟩ := List.head?_eq_some_iff.1 touches
            obtain ⟨_, _, rfl, _, rfl⟩ := List.forall₂_cons_left_iff.1 others
            obtain ⟨_, _, rfl, _, rfl⟩ := List.forall₂_cons_left_iff.1 others'
            have sign : p = .finish → c ≠ '%' := by
              rintro rfl rfl
              exact unsigned [] _ left rfl rfl
            simp only [List.flatten_cons, List.append_assoc, List.cons_append] at same
            exact number_unique_of_next number here here' ends sign same
    subst first
    rw [rest (List.append_cancel_left same)]

theorem forall₂_append_left_iff {α β : Type} {R : α → β → Prop} {l l' : List α} {k : List β} :
    List.Forall₂ R (l ++ l') k ↔ ∃ m m', List.Forall₂ R l m ∧ List.Forall₂ R l' m' ∧ k = m ++ m' := by
  constructor
  · intro all
    induction l generalizing k with
    | nil => exact ⟨[], k, .nil, all, rfl⟩
    | cons a l ih =>
      obtain ⟨b, k, first, others, rfl⟩ := List.forall₂_cons_left_iff.1 all
      obtain ⟨m, m', fits, fits', rfl⟩ := ih others
      exact ⟨b :: m, m', .cons first fits, fits', rfl⟩
  · rintro ⟨m, m', fits, fits', rfl⟩
    exact List.rel_append fits fits'

theorem forall₂_concat_left_iff {α β : Type} {R : α → β → Prop} {l : List α} {a : α} {k : List β} :
    List.Forall₂ R (l ++ [a]) k ↔ ∃ init b, List.Forall₂ R l init ∧ R a b ∧ k = init ++ [b] := by
  rw [forall₂_append_left_iff]
  constructor
  · rintro ⟨init, _, others, end_fits, rfl⟩
    obtain ⟨b, _, last, nothing, rfl⟩ := List.forall₂_cons_left_iff.1 end_fits
    obtain rfl := List.forall₂_nil_left_iff.1 nothing
    exact ⟨init, b, others, last, rfl⟩
  · rintro ⟨init, b, others, last, rfl⟩
    exact ⟨init, [b], others, .cons last .nil, rfl⟩

/-- The pieces after the subject are found from the end of the line. -/
theorem pieces_unique_of_right (rigid : AreRigid right) (shown : (slot subject :: right).IsChain ShowsStart)
    (fits : List.Forall₂ Fits right pieces) (fits' : List.Forall₂ Fits right pieces')
    (same : before ++ pieces.flatten = before' ++ pieces'.flatten) : pieces = pieces' := by
  -- From the last segment on: what precedes it is then the same in both splits.
  induction right using List.reverseRecOn generalizing pieces pieces' with
  | nil => rw [List.forall₂_nil_left_iff.1 fits, List.forall₂_nil_left_iff.1 fits']
  | append_singleton right segment ih =>
    obtain ⟨pieces, piece, others, here, rfl⟩ := forall₂_concat_left_iff.1 fits
    obtain ⟨pieces', piece', others', here', rfl⟩ := forall₂_concat_left_iff.1 fits'
    have rest := ih (fun p member => rigid p (List.mem_append_left _ member)) (List.IsChain.left_of_append shown) others others'
    simp only [List.flatten_append, List.flatten_singleton] at same
    have last : piece = piece' := by
      cases segment with
      | literal text => exact here.trans here'.symm
      | slot p =>
        have number := rigid p (by simp)
        rcases List.eq_nil_or_concat' right with rfl | ⟨right, previous, rfl⟩
        · exact absurd number (List.isChain_pair.1 shown)
        · rw [List.append_assoc, ← List.cons_append] at shown
          have touching := (List.isChain_append_cons_cons.1 shown).2.1
          cases previous with
          | slot q => exact absurd number touching
          | literal text =>
            obtain ⟨c, touches, begins⟩ := touching number
            obtain ⟨init, rfl⟩ := List.getLast?_eq_some_iff.1 touches
            obtain ⟨pieces, _, _, rfl, rfl⟩ := forall₂_concat_left_iff.1 others
            obtain ⟨pieces', _, _, rfl, rfl⟩ := forall₂_concat_left_iff.1 others'
            have line : before ++ pieces.flatten ++ init ++ c :: piece = before' ++ pieces'.flatten ++ init ++ c :: piece' := by
              simpa using same
            exact number_unique_of_previous number here here' begins line
    subst last
    rw [← List.append_assoc, ← List.append_assoc] at same
    rw [rest (List.append_cancel_right same)]

theorem pieces_unique (rigid : AreRigid left) (rigid' : AreRigid right)
    (apart : (left ++ slot subject :: right).IsChain Apart)
    (unsigned : ∀ before text after, left = before ++ slot .finish :: literal text :: after → text.head? ≠ some '%')
    {line : Text} (splits : Splits (left ++ slot subject :: right) line pieces)
    (splits' : Splits (left ++ slot subject :: right) line pieces') : pieces' = pieces := by
  obtain ⟨fits, rfl⟩ := splits
  obtain ⟨fits', same⟩ := splits'
  obtain ⟨early, _, early_fits, rest_fits, rfl⟩ := forall₂_append_left_iff.1 fits
  obtain ⟨piece, late, -, late_fits, rfl⟩ := List.forall₂_cons_left_iff.1 rest_fits
  obtain ⟨early', _, early_fits', rest_fits', rfl⟩ := forall₂_append_left_iff.1 fits'
  obtain ⟨piece', late', -, late_fits', rfl⟩ := List.forall₂_cons_left_iff.1 rest_fits'
  simp only [List.flatten_append, List.flatten_cons] at same
  obtain rfl : early' = early := pieces_unique_of_left rigid apart unsigned early_fits' early_fits same
  have rest := List.append_cancel_left same
  obtain rfl : late' = late := pieces_unique_of_right rigid' (apart.right_of_append.imp fun _ _ => Apart.showsStart) late_fits' late_fits rest
  rw [List.append_cancel_right rest]

end Template.Segment

namespace Pattern

open Template Segment

variable {p : Pattern} {line : Text} {pieces pieces' : List Text}

/-- Apart from its subject and slots for anything, a pattern has slots for numbers only. -/
theorem isNumber_of_mem {q : Placeholder} (member : .slot q ∈ p.segments) (definite : q ≠ .anything)
    (other : q ≠ Kind.subject p.kind.log) : q.isNumber := by
  have accepted : p.kind.accepts q := accepts_of_mem_ofTemplate member
  cases q with
  | startPage | endPage | finish => rfl
  | anything => exact absurd rfl definite
  | date | book =>
    cases log : p.kind.log <;> cases purpose : p.kind.purpose <;>
      simp [Kind.accepts, Kind.required, Kind.subject, log, purpose] at accepted other

/-- The subject stands in a template once, so that the slots before and after it are for numbers or for anything. -/
theorem isNumber_of_parts {left right : List Segment} (parts : p.segments = left ++ .slot (Kind.subject p.kind.log) :: right) :
    (∀ q, .slot q ∈ left → q ≠ .anything → q.isNumber) ∧ (∀ q, .slot q ∈ right → q ≠ .anything → q.isNumber) := by
  have definite : Kind.subject p.kind.log ≠ .anything := by cases p.kind.log <;> nofun
  have once := p.count_of_required List.mem_cons_self definite
  rw [parts, count, List.count_append, List.count_cons_self] at once
  have absent : .slot (Kind.subject p.kind.log) ∉ left := List.count_eq_zero.1 (by omega)
  have absent' : .slot (Kind.subject p.kind.log) ∉ right := List.count_eq_zero.1 (by omega)
  constructor
  · intro q member definite
    refine isNumber_of_mem (p := p) (by simp [parts, member]) definite ?_
    rintro rfl
    exact absent member
  · intro q member definite
    refine isNumber_of_mem (p := p) (by simp [parts, member]) definite ?_
    rintro rfl
    exact absent' member

/-- A line can be split in at most one way by a template with its numbers apart. -/
theorem splits_unique (apart : HaveNumbersApart p.segments) (splits : Splits p.segments line pieces)
    (splits' : Splits p.segments line pieces') : pieces' = pieces := by
  obtain ⟨left, right, parts⟩ := List.append_of_mem (p.mem_of_required (q := Kind.subject p.kind.log) List.mem_cons_self)
  obtain ⟨numbers, numbers'⟩ := isNumber_of_parts parts
  have definite := apart.definite
  have unsigned : ∀ before text after, left = before ++ .slot .finish :: .literal text :: after → text.head? ≠ some '%' := by
    rintro before text after rfl
    refine apart.unsigned before text (after ++ .slot (Kind.subject p.kind.log) :: right) (by simp [parts]) ?_
    cases p.kind.log <;> simp [Kind.subject]
  rw [parts] at splits splits' definite
  simp only [List.mem_append, List.mem_cons, not_or] at definite
  exact pieces_unique (areRigid_of_definite numbers definite.1) (areRigid_of_definite numbers' definite.2.2)
    (parts ▸ apart.apart) unsigned splits splits'

end Pattern
end ReadingLog
