import ReadingLog.Proofs.FilledTemplates
import ReadingLog.Proofs.Occurrences
import ReadingLog.Proofs.Spelling

/-!
# Dates before a slot for anything

The slot for the date takes as little text as it can too. Where anything may follow the literal after the date, the date ends
where that literal first stands, be it within the date that was written: `5 March 2024` before a space is read as `5`, which is
no date. A date that the literal does not cut short is read.
-/

namespace ReadingLog

open Template

namespace Template.Segment

variable {f : Figures} {subject : Text} {segments : List Segment} {pieces found : List Text}

/-! ## Literals after a slot for anything -/

/-- In pieces for the segments, a literal that more slots for anything come after stands nowhere earlier in what the slots for
    anything before it stand for, `loose` at first. -/
def LiteralsStandFirst : Text → List Segment → List Text → Prop
  | loose, slot .anything :: segments, piece :: pieces => LiteralsStandFirst (loose ++ piece) segments pieces
  | loose, literal text :: segments, _ :: pieces =>
    (slot .anything ∈ segments → Text.StandsFirstBehind text loose) ∧ LiteralsStandFirst [] segments pieces
  | _, slot _ :: segments, _ :: pieces => LiteralsStandFirst [] segments pieces
  | _, _, _ => True

/-- What may follow the date in a template: numbers that stand apart, the last of them a share if there is one, literals and slots
    for anything. -/
structure IsEnding (previous : Segment) (segments : List Segment) : Prop where
  apart : (previous :: segments).IsChain Apart
  numbers : ∀ p, slot p ∈ segments → p ≠ .anything → p.isNumber
  last : ∀ before after, segments = before ++ slot .finish :: after → ∀ p, slot p ∈ after → p = .anything

namespace IsEnding

variable {previous segment : Segment}

theorem tail (ending : IsEnding previous (segment :: segments)) : IsEnding segment segments where
  apart := ending.apart.tail
  numbers p member := ending.numbers p (List.mem_cons_of_mem _ member)
  last before after parts := ending.last (segment :: before) after (by rw [parts, List.cons_append])

/-- A number in an ending is found as it was written, save that a share may get a percent sign that was not meant for it. -/
theorem exists_after_of_split? {p : Placeholder} {piece : Text} (ending : IsEnding previous (slot p :: segments)) (number : p.isNumber)
    (more : segments ≠ []) (here : Writes f subject (slot p) piece) (fits : Fits (slot p) piece)
    (others : List.Forall₂ Fits segments pieces) (split : split? (slot p :: segments) (piece ++ pieces.flatten) = some found) :
    ∃ taken after rest, Writes f subject (slot p) taken ∧ split? segments after = some rest ∧ found = taken :: rest ∧
      (p ≠ .finish → after = pieces.flatten) := by
  obtain ⟨taken, after, rest, parts, taken_fits, later, rfl⟩ := split?_cons split
  cases segments with
  | nil => exact absurd rfl more
  | cons next segments =>
    cases next with
    | slot q => exact absurd number (List.isChain_cons_cons.1 ending.apart.tail).1.1
    | literal text =>
      obtain ⟨c, touches, ends⟩ := (List.isChain_cons_cons.1 ending.apart.tail).1 number
      obtain ⟨tail, rfl⟩ := List.head?_eq_some_iff.1 touches
      obtain ⟨_, pieces, rfl, -, rfl⟩ := List.forall₂_cons_left_iff.1 others
      obtain ⟨_, behind, _, rfl, rfl, -⟩ := split?_cons later
      rw [List.flatten_cons, List.cons_append, List.cons_append] at parts
      by_cases share : p = .finish
      · subst share
        have run : (piece ++ c :: (tail ++ pieces.flatten)).takeWhile Text.isScriptDigit = f.share.digits := by
          rcases here with rfl | rfl
          · exact takeWhile_numeral f.share.isNumeral_digits ends
          · rw [List.append_assoc, List.singleton_append]
            exact takeWhile_numeral f.share.isNumeral_digits not_isScriptDigit_percent
        have spelled := eq_run_of_number number taken_fits ends (tail ++ behind)
        rw [← parts, run] at spelled
        exact ⟨taken, _, rest, spelled.imp_right And.right, later, rfl, absurd rfl⟩
      · obtain rfl : piece = taken := number_unique_of_next number fits taken_fits ends (fun same => absurd same share) parts
        exact ⟨piece, _, rest, here, later, rfl, fun _ => (List.append_cancel_left parts).symm⟩

/-- What is found for an ending is what was written, up to where the slots for anything end. The search may be behind with some of
    their text, `moved`, but no further than its next literal. -/
theorem writes_of_split? (nonempty : subject ≠ []) (within : '\n' ∉ subject) {loose moved : Text}
    (ending : IsEnding previous segments) (more : slot .anything ∈ segments) (unbroken : '\n' ∉ loose) (behind : moved <:+ loose)
    (opened : loose ≠ [] → previous = slot .anything) (first : LiteralsStandFirst loose segments pieces)
    (writes : List.Forall₂ (Writes f subject) segments pieces) (split : split? segments (moved ++ pieces.flatten) = some found) :
    List.Forall₂ (Writes f subject) segments found := by
  induction writes generalizing previous loose moved found with
  | nil => cases more
  | @cons segment piece segments pieces here others ih =>
    have fits := others.imp fun _ _ => Writes.fits nonempty within
    rw [List.flatten_cons] at split
    cases segment with
    | literal text =>
      have more' : slot .anything ∈ segments := by simpa using more
      obtain rfl : piece = text := here
      obtain ⟨_, after, rest, parts, rfl, later, rfl⟩ := split?_cons split
      -- If the search were behind, the literal would stand too early.
      obtain rfl : moved = [] := (first.1 more').eq_nil_of_suffix behind ⟨after, parts.symm⟩
      obtain rfl : pieces.flatten = after := List.append_cancel_left parts
      exact .cons rfl (ih ending.tail more' List.not_mem_nil (List.suffix_refl []) (absurd rfl) first.2 later)
    | slot p =>
      by_cases anything : p = .anything
      · subst anything
        have behind' : moved ++ piece <:+ loose ++ piece := by
          obtain ⟨front, rfl⟩ := behind
          exact ⟨front, (List.append_assoc ..).symm⟩
        have unbroken' : '\n' ∉ loose ++ piece := fun member => (List.mem_append.1 member).elim unbroken here
        have unbroken'' : '\n' ∉ moved ++ piece := fun member => unbroken' (behind'.mem member)
        rw [← List.append_assoc] at split
        obtain ⟨taken, left, rest, parts, later, rfl⟩ := exists_left_of_split? unbroken'' ⟨fits, rfl⟩ split
        have written : Writes f subject (slot .anything) taken := fun member =>
          unbroken'' (parts ▸ List.mem_append_left left member)
        refine .cons written ?_
        by_cases more' : slot .anything ∈ segments
        · have behind'' : left <:+ loose ++ piece := List.IsSuffix.trans ⟨taken, parts.symm⟩ behind'
          exact ih ending.tail more' unbroken' behind'' (fun _ => rfl) first later
        · -- After the last slot for anything, the pieces are found from the end of the line.
          have rigid := areRigid_of_definite ending.tail.numbers more'
          obtain ⟨rest_fits, same⟩ := splits_of_split? later
          have shown := ending.tail.apart.imp fun _ _ => Apart.showsStart
          obtain rfl : rest = pieces := pieces_unique_of_right rigid shown rest_fits fits ((List.nil_append _).trans same)
          exact others
      · have number := ending.numbers p List.mem_cons_self anything
        have more' : slot .anything ∈ segments := by
          rcases List.mem_cons.1 more with same | later
          · exact absurd (Segment.slot.inj same).symm anything
          · exact later
        have alone : loose = [] := by
          by_contra some_text
          obtain rfl := opened some_text
          exact (List.isChain_cons_cons.1 ending.apart).1.2 number
        subst alone
        obtain rfl := List.suffix_nil.1 behind
        have first' : LiteralsStandFirst [] segments pieces := by
          cases p <;> first | exact first | contradiction
        obtain ⟨taken, after, rest, written, later, rfl, same⟩ := exists_after_of_split? ending number
          (List.ne_nil_of_mem more') here (here.fits nonempty within) fits split
        refine .cons written ?_
        by_cases share : p = .finish
        · subst share
          exact writes_of_loose (ending.last [] segments rfl) (splits_of_split? later).1
        · rw [same share] at later
          exact ih ending.tail more' List.not_mem_nil (List.suffix_refl []) (absurd rfl) first' later

end IsEnding

/-! ## The date before it -/

/-- Before a literal and a slot for anything, the date gets what precedes the first place of the literal. -/
theorem date_eq_upTo {right : List Segment} {mark spelling text : Text} {after : List Text} (nonempty : spelling ≠ [])
    (unbroken : '\n' ∉ spelling) (within : '\n' ∉ text) (fits : List.Forall₂ Fits right after)
    (split : split? (slot .date :: literal mark :: slot .anything :: right) (spelling ++ (mark ++ (text ++ after.flatten))) =
      some found) : ∃ behind rest, spelling ++ (mark ++ (text ++ after.flatten)) = Text.upTo mark spelling ++ (mark ++ behind) ∧
        split? (slot .anything :: right) behind = some rest ∧ found = Text.upTo mark spelling :: mark :: rest := by
  obtain ⟨piece, _, _, parts, piece_fits, later, rfl⟩ := split?_cons split
  obtain ⟨here, behind, rest, rfl, fits_here, last, rfl⟩ := split?_cons later
  obtain rfl : mark = here := Eq.symm fits_here
  obtain ⟨hidden, cut, moved, turned⟩ := Text.exists_hidden mark spelling
  -- What the literal hides of the date goes to the slot for anything.
  have unbroken' : '\n' ∉ moved ++ text := by
    intro member
    rcases List.mem_append.1 member with early | late
    · exact unbroken (cut ▸ List.mem_append_right _ ((Text.perm_of_turned turned.symm).mem_iff.2 early))
    · exact within late
  have cut_fits : Fits (slot .date) (Text.upTo mark spelling) :=
    ⟨Text.upTo_ne_nil nonempty, fun member => unbroken (cut ▸ List.mem_append_left _ member)⟩
  have splits : Splits (slot .date :: literal mark :: slot .anything :: right) (spelling ++ (mark ++ (text ++ after.flatten)))
      (Text.upTo mark spelling :: mark :: (moved ++ text) :: after) := by
    refine ⟨.cons cut_fits (.cons rfl (.cons unbroken' fits)), ?_⟩
    calc Text.upTo mark spelling ++ (mark ++ (moved ++ text ++ after.flatten))
      _ = Text.upTo mark spelling ++ ((mark ++ moved) ++ (text ++ after.flatten)) := by simp
      _ = (Text.upTo mark spelling ++ hidden) ++ (mark ++ (text ++ after.flatten)) := by simp [turned]
      _ = spelling ++ (mark ++ (text ++ after.flatten)) := by rw [← cut]
  have short := isPrefix_of_split? (fun _ _ => Nat.le_of_lt) split splits
  obtain rfl := Text.eq_upTo_of_prefix piece_fits.1 short parts
  exact ⟨behind, rest, parts, last, rfl⟩

end Template.Segment

namespace Pattern

open Segment

variable {p : Pattern} {left right : List Segment} {d : Date} {mark text line : Text}

/-- No number comes after a share. -/
theorem not_isNumber_after_finish {before after : List Segment} (parts : p.segments = before ++ .slot .finish :: after)
    {q : Placeholder} (member : .slot q ∈ after) : ¬ q.isNumber := by
  have accepted : p.kind.accepts .finish := accepts_of_mem_ofTemplate (parts ▸ List.mem_append_right _ List.mem_cons_self)
  have accepted' : p.kind.accepts q :=
    accepts_of_mem_ofTemplate (parts ▸ List.mem_append_right _ (List.mem_cons_of_mem _ member))
  cases q with
  | date | book | anything => exact Bool.false_ne_true
  | startPage | endPage =>
    cases log : p.kind.log <;> cases purpose : p.kind.purpose <;>
      simp [Kind.accepts, Kind.required, Kind.subject, log, purpose] at accepted accepted'
  | finish =>
    have once := p.count_le_one (q := .finish) (by decide)
    have later := List.count_pos_iff.2 member
    rw [parts, count, List.count_append, List.count_cons_self] at once
    omega

/-- What follows the date and a literal ends the template. -/
theorem isEnding_of_parts (book : p.kind.log = .book)
    (parts : p.segments = left ++ .slot .date :: .literal mark :: .slot .anything :: right) (apart : p.segments.IsChain Apart) :
    IsEnding (.literal mark) (.slot .anything :: right) := by
  have numbers : ∀ q, .slot q ∈ .slot .anything :: right → q ≠ .anything → q.isNumber := fun q member =>
    (isNumber_of_parts (by rwa [book])).2 q (List.mem_cons_of_mem (.literal mark) member)
  refine ⟨?_, numbers, ?_⟩
  · rw [parts] at apart
    exact apart.right_of_append.tail
  · intro before after cut q member
    by_contra definite
    have whole : p.segments = (left ++ .slot .date :: .literal mark :: before) ++ .slot .finish :: after := by
      rw [parts, cut, List.append_assoc]
      rfl
    exact not_isNumber_after_finish whole member
      (numbers q (cut ▸ List.mem_append_right _ (List.mem_cons_of_mem _ member)) definite)

/-- Where there is no slot for anything before the date, a line that matches has the date that is read off its piece. -/
theorem exists_date_of_match? (book : p.kind.log = .book) (parts : p.segments = left ++ .slot .date :: right)
    (definite : .slot .anything ∉ left) {before rest : List Text} {piece : Text} (same : left.length = before.length)
    (found : split? p.segments line = some (before ++ piece :: rest)) {m : Match} (hit : p.match? line = some m) :
    ∃ date, m.date = some date ∧ p.layout.parse? piece.trim = some date := by
  have records := ((match?_eq_some_iff found).1 hit).2
  rw [book] at records
  obtain ⟨-, piece', date, gives, tells, dated⟩ := records
  have gives' : Gives p.segments (before ++ piece :: rest) .date piece := by
    rw [Gives, parts, List.zip_append same]
    exact List.mem_append_right _ List.mem_cons_self
  obtain rfl := gives_unique (p.count_le_one (q := .date) (by decide)) gives gives'
  have alone : ¬ DateAfterAnything p.segments := by
    rw [parts, dateAfterAnything_iff (date_notMem_of_numbers (isNumber_of_parts (by rwa [book])).2)]
    exact definite
  exact ⟨date, dated, tells.resolve_right fun late => alone late.2.1⟩

/-- Before a literal and a slot for anything, the date is read off what precedes the first place of the literal. Where that is the
    whole date, the line is matched as what was written. -/
theorem match?_dateBeforeAnything (book : p.kind.log = .book)
    (parts : p.segments = left ++ .slot .date :: .literal mark :: .slot .anything :: right)
    (definite : .slot .anything ∉ left) (apart : p.segments.IsChain Apart)
    (unsigned : ∀ before text after, left = before ++ .slot .finish :: .literal text :: after → text.head? ≠ some '%')
    (f : Figures) (unbroken : '\n' ∉ p.layout.format d) (dated : p.layout.parse? (p.layout.format d).trim = some d)
    {before after : List Text} (early : List.Forall₂ (Writes f (p.layout.format d)) left before) (within : '\n' ∉ text)
    (late : List.Forall₂ (Writes f (p.layout.format d)) right after)
    (written : line = before.flatten ++ (p.layout.format d ++ (mark ++ (text ++ after.flatten)))) :
    (∀ m, p.match? line = some m →
      ∃ date, m.date = some date ∧ p.layout.parse? (Text.upTo mark (p.layout.format d)).trim = some date) ∧
    (Text.upTo mark (p.layout.format d) = p.layout.format d → LiteralsStandFirst text right after →
      p.match? line = some ⟨p.actionOf f, none, some d⟩) := by
  have nonempty := p.layout.format_ne_nil d
  generalize p.layout.format d = spelling at *
  have fits {segment : Segment} {piece : Text} : Writes f spelling segment piece → Fits segment piece :=
    Writes.fits nonempty unbroken
  have early_fits := early.imp fun _ _ => fits
  have late_fits := late.imp fun _ _ => fits
  have splits : Splits p.segments line (before ++ spelling :: mark :: text :: after) :=
    ⟨parts ▸ List.rel_append early_fits (.cons ⟨nonempty, unbroken⟩ (.cons rfl (.cons within late_fits))), by simp [written]⟩
  obtain ⟨pieces, found⟩ := exists_split? splits
  -- What precedes the date is found from the start of the line.
  obtain ⟨taken, behind, rest, cut, taken_fits, split, rfl⟩ := split?_append (parts ▸ found)
  have rigid := areRigid_of_definite (isNumber_of_parts (by rwa [book])).1 definite
  rw [written] at cut
  obtain rfl := pieces_unique_of_left rigid (parts ▸ apart) unsigned early_fits taken_fits cut
  obtain rfl := List.append_cancel_left cut
  obtain ⟨behind, rest, cut', split', rfl⟩ := date_eq_upTo nonempty unbroken within late_fits split
  constructor
  · intro m hit
    exact exists_date_of_match? book parts definite early.length_eq found hit
  · intro whole first
    rw [whole] at cut' found
    obtain rfl := List.append_cancel_left (List.append_cancel_left cut')
    have first' : LiteralsStandFirst [] (.slot .anything :: right) (text :: after) := first
    have writes : List.Forall₂ (Writes f spelling) (.slot .anything :: right) rest :=
      (isEnding_of_parts book parts apart).writes_of_split? nonempty unbroken List.mem_cons_self List.not_mem_nil
        (List.suffix_refl []) (absurd rfl) first' (.cons within late) split'
    have all : List.Forall₂ (Writes f spelling) p.segments (before ++ spelling :: mark :: rest) :=
      parts ▸ List.rel_append early (.cons rfl (.cons rfl writes))
    exact (match?_eq_some_iff found).2 (records_of_writes book all (.inl dated))

/-- A layout with spaces between its fields. -/
def spaced : DateLayout := ⟨"D MMMM YYYY", by decide +kernel⟩

/-- A template for pages with remarks after the date and at the end. -/
def ofPagesAmongRemarks : Pattern :=
  ⟨⟨.book, .progress⟩, "\x7bstartPage\x7d, \x7bdate\x7d - \x7b*\x7d p.\x7bendPage\x7d \x7b*\x7d", spaced, by decide +kernel⟩

/-- The remark after the date has both literals around the date in it, and part of the one behind it. -/
theorem match?_dateBeforeAnything_remarks :
    ofPagesAmongRemarks.match? "007, 29 February 2024 - from 3, - on p p.4294967295 or p.5".toList =
      some ⟨.progress (some (.page 7)) (.page 4294967295), none, some DateLayout.leapDay⟩ := by
  have parts : ofPagesAmongRemarks.segments = [.slot .startPage, .literal ", ".toList] ++
      .slot .date :: .literal " - ".toList :: .slot .anything ::
        [.literal " p.".toList, .slot .endPage, .literal " ".toList, .slot .anything] := by decide +kernel
  have shares : .slot .finish ∉ [Segment.slot .startPage, .literal ", ".toList] := by decide
  have early : List.Forall₂ (Writes extremes (ofPagesAmongRemarks.layout.format DateLayout.leapDay))
      [.slot .startPage, .literal ", ".toList] ["007".toList, ", ".toList] := by decide +kernel
  have late : List.Forall₂ (Writes extremes (ofPagesAmongRemarks.layout.format DateLayout.leapDay))
      [.literal " p.".toList, .slot .endPage, .literal " ".toList, .slot .anything]
      [" p.".toList, "4294967295".toList, " ".toList, "or p.5".toList] := by decide +kernel
  have written : "007, 29 February 2024 - from 3, - on p p.4294967295 or p.5".toList =
      ["007".toList, ", ".toList].flatten ++ (ofPagesAmongRemarks.layout.format DateLayout.leapDay ++ (" - ".toList ++
        ("from 3, - on p".toList ++ [" p.".toList, "4294967295".toList, " ".toList, "or p.5".toList].flatten))) := by
    decide +kernel
  have said : ofPagesAmongRemarks.actionOf extremes = .progress (some (.page 7)) (.page 4294967295) := by decide +kernel
  have found := (match?_dateBeforeAnything rfl parts (by simp) (by decide +kernel)
    (fun before text after cut => absurd (cut ▸ List.mem_append_right before List.mem_cons_self) shares) extremes
    (by decide +kernel) (by decide +kernel) early (by decide +kernel) late written).2 (by decide +kernel)
    ⟨fun _ => by decide +kernel, fun _ => by decide +kernel, trivial⟩
  rwa [said] at found

/-- A template with a remark after the date. -/
def ofStartAndRemark : Pattern := ⟨⟨.book, .started⟩, "\x7bdate\x7d \x7b*\x7d", spaced, by decide +kernel⟩

/-- The date is cut short by the space in it, and nothing is read off what is left. -/
theorem ofStartAndRemark_cut_short :
    ofStartAndRemark.segments = [.slot .date, .literal " ".toList, .slot .anything] ∧
    ofStartAndRemark.layout.parse? (ofStartAndRemark.layout.format DateLayout.leapDay) = some DateLayout.leapDay ∧
    (ofStartAndRemark.layout.format DateLayout.leapDay).trim = ofStartAndRemark.layout.format DateLayout.leapDay ∧
    '\n' ∉ ofStartAndRemark.layout.format DateLayout.leapDay ∧
    ofStartAndRemark.match? (ofStartAndRemark.layout.format DateLayout.leapDay ++ (" ".toList ++ "after work".toList)) = none := by
  decide +kernel

end Pattern
end ReadingLog
