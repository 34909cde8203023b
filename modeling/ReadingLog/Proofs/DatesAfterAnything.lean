import ReadingLog.Proofs.FilledTemplates
import ReadingLog.Proofs.IsoDates

/-!
# Dates after a slot for anything

A slot for anything takes as little text as it can, so a literal may be found too early and the slot for the date that comes
next gets the end of the other's text too. A date with hyphens is found at the end of what its slot gets all the same.
-/

namespace ReadingLog

open Template

namespace Template.Segment

variable {segments left : List Segment} {text after : Text} {pieces before written : List Text}

/-! ## What the date gets -/

/-- Literals and slots for anything take no more than was written for them. What is left is within a line. -/
theorem exists_left_of_loose (loose : ∀ p, slot p ∈ left → p = .anything) (text : Text) (unbroken : '\n' ∉ text)
    (fits : List.Forall₂ Fits left before) (later : Splits segments after written)
    (found : split? (left ++ segments) (text ++ (before.flatten ++ after)) = some pieces) : ∃ early moved rest,
      List.Forall₂ Fits left early ∧ '\n' ∉ moved ∧ early.flatten ++ moved = text ++ before.flatten ∧
        split? segments (moved ++ after) = some rest ∧ pieces = early ++ rest := by
  induction fits generalizing text pieces with
  | nil => exact ⟨[], text, pieces, .nil, unbroken, by simp, found, rfl⟩
  | @cons segment piece left before here others ih =>
    have loose' : ∀ p, slot p ∈ left → p = .anything := fun p member => loose p (List.mem_cons_of_mem _ member)
    cases segment with
    | literal word =>
      -- The word is found at once. What was unread before it stays unread, turned around the word.
      obtain rfl : piece = word := here
      obtain ⟨_, behind, rest, parts, rfl, found', rfl⟩ := split?_cons found
      rw [List.flatten_cons, List.append_assoc, ← List.append_assoc] at parts
      obtain ⟨moved, turned, rfl⟩ := Text.exists_unread parts.symm (by simp)
      have unbroken' : '\n' ∉ moved := fun member => unbroken ((Text.perm_of_turned turned).mem_iff.2 member)
      obtain ⟨early, moved', rest, fits, bare, same, found'', rfl⟩ := ih loose' moved unbroken' found'
      refine ⟨_ :: early, moved', rest, .cons rfl fits, bare, ?_, found'', rfl⟩
      rw [List.flatten_cons, List.append_assoc, same, ← List.append_assoc, ← turned, List.flatten_cons, List.append_assoc]
    | slot p =>
      obtain rfl := loose p List.mem_cons_self
      have unbroken' : '\n' ∉ text ++ piece := fun member => (List.mem_append.1 member).elim unbroken here
      have later' : Splits (left ++ segments) (before.flatten ++ after) (before ++ written) :=
        ⟨List.rel_append others later.1, by rw [List.flatten_append, later.2]⟩
      rw [List.flatten_cons, List.append_assoc, ← List.append_assoc] at found
      obtain ⟨taken, text', rest, parts, found', rfl⟩ := exists_left_of_split? unbroken' later' found
      have unbroken'' : '\n' ∉ text' := fun member => unbroken' (parts ▸ List.mem_append_right _ member)
      obtain ⟨early, moved, rest, fits, bare, same, found'', rfl⟩ := ih loose' text' unbroken'' found'
      have taken_fits : '\n' ∉ taken := fun member => unbroken' (parts ▸ List.mem_append_left _ member)
      refine ⟨taken :: early, moved, rest, .cons taken_fits fits, bare, ?_, found'', rfl⟩
      rw [List.flatten_cons, List.append_assoc, same, ← List.append_assoc, ← parts, List.flatten_cons, List.append_assoc]

end Template.Segment

namespace Pattern

open Segment

variable {p : Pattern} {left right : List Segment} {d : Date}

/-! ## The date in it -/

/-- After a slot for anything, a date with hyphens is told by a text that it ends, if no sign and digits stand right before it. -/
theorem tellsDate_append_iso (iso : p.layout = .iso) (loose : DateAfterAnything p.segments) (plain : d.HasPlainYear)
    {before : Text} (unsigned : ¬ DateLayout.EndsSigned before) :
    p.TellsDate (before ++ d.isoText) d := by
  have reads := DateLayout.parse?_isoText plain
  have spells : DateLayout.iso.format d = d.isoText := DateLayout.format_iso
  rw [TellsDate, iso, Date.trim_append_isoText plain]
  by_cases blank : before.trimStart = []
  · rw [blank]
    exact .inl reads
  -- The text is no date as a whole, so its candidates are looked at. The date is the only one of them at its end.
  refine .inr ⟨?_, loose, ?_⟩
  · rw [Option.eq_none_iff_forall_ne_some]
    intro other read
    rw [← spells] at read
    rcases DateLayout.signed_of_parse?_append plain (Text.trimStart_trimStart before) read with empty | signed
    · exact blank empty
    · exact unsigned ⟨_, Text.trimStart_suffix before, signed⟩
  · have fixed := DateLayout.isFixed_of_mem_iso
    have ends : d.isoText <:+ before.trimStart ++ d.isoText := List.suffix_append ..
    have shaped := DateLayout.Token.shaped_spelling fixed plain
    rw [← DateLayout.format, spells] at shaped
    have member : d.isoText ∈ DateLayout.iso.candidates (before.trimStart ++ d.isoText) :=
      (DateLayout.mem_candidates_iff fixed).2 ⟨shaped, ends.isInfix⟩
    obtain ⟨early, late, all, absent⟩ := List.eq_append_cons_of_mem member
    refine ⟨early, d.isoText, late, all, ⟨ends, iso ▸ reads, iso ▸ spells⟩, ?_⟩
    rintro candidate inside other ⟨ends', -⟩
    have same := DateLayout.eq_format_of_mem_candidates fixed plain (all ▸ List.mem_append_left _ inside) ends' (spells ▸ ends)
    exact absent (spells ▸ same ▸ inside)

/-- The date after a slot for anything is read whatever that slot stands for, a sign and digits right before the date apart. -/
theorem match?_dateAfterAnything (book : p.kind.log = .book) (iso : p.layout = .iso)
    (parts : p.segments = left ++ .slot .date :: right) (loose : ∀ q, .slot q ∈ left → q = .anything)
    (anything : .slot .anything ∈ left) (definite : .slot .anything ∉ right)
    (shown : (.slot .date :: right).IsChain ShowsStart) (f : Figures) (plain : d.HasPlainYear) {before after : List Text}
    (early : List.Forall₂ (Writes f d.isoText) left before) (late : List.Forall₂ (Writes f d.isoText) right after)
    (unsigned : ¬ DateLayout.EndsSigned before.flatten) :
    p.match? (before.flatten ++ (p.layout.format d ++ after.flatten)) = some ⟨p.actionOf f, none, some d⟩ := by
  have nonempty : d.isoText ≠ [] := by simp [Date.isoText]
  have fits {segment : Segment} {piece : Text} : Writes f d.isoText segment piece → Fits segment piece :=
    Writes.fits nonempty (Date.newline_notMem_isoText plain)
  have right_fits := late.imp fun _ _ => fits
  have numbers : ∀ q, .slot q ∈ right → q ≠ .anything → q.isNumber := (isNumber_of_parts (by rwa [book])).2
  have rigid : AreRigid right := areRigid_of_definite numbers definite
  have later : Splits (.slot .date :: right) (d.isoText ++ after.flatten) (d.isoText :: after) :=
    ⟨.cons ⟨nonempty, Date.newline_notMem_isoText plain⟩ right_fits, rfl⟩
  have splits : Splits p.segments (before.flatten ++ (d.isoText ++ after.flatten)) (before ++ d.isoText :: after) :=
    ⟨parts ▸ List.rel_append (early.imp fun _ _ => fits) later.1, by simp⟩
  obtain ⟨pieces, found⟩ := exists_split? splits
  have split := parts ▸ found
  obtain ⟨taken, moved, _, taken_fits, -, same, date_split, rfl⟩ :=
    exists_left_of_loose loose [] List.not_mem_nil (early.imp fun _ _ => fits) later split
  obtain ⟨piece, behind, last, cut, -, last_split, rfl⟩ := split?_cons date_split
  -- The pieces after the date are found from the end of the line, and the date gets all that is left before them.
  obtain ⟨last_fits, rfl⟩ := splits_of_split? last_split
  rw [← List.append_assoc] at cut
  obtain rfl : after = last := pieces_unique_of_right rigid shown right_fits last_fits cut
  obtain rfl : moved ++ d.isoText = piece := List.append_cancel_right cut
  have written : List.Forall₂ (Writes f (moved ++ d.isoText)) p.segments (taken ++ (moved ++ d.isoText) :: after) :=
    parts ▸ List.rel_append (writes_of_loose loose taken_fits) (.cons rfl (writes_of_rigid rigid _ late))
  have unsigned' : ¬ DateLayout.EndsSigned moved := by
    rintro ⟨text, ends, signed⟩
    exact unsigned ⟨text, ends.trans ⟨taken.flatten, same⟩, signed⟩
  have follows : DateAfterAnything p.segments := parts ▸ (dateAfterAnything_iff (date_notMem_of_numbers numbers)).2 anything
  have tells := tellsDate_append_iso iso follows plain unsigned'
  rw [iso, DateLayout.format_iso]
  exact (match?_eq_some_iff found).2 (records_of_writes book written tells)

/-- A template with anything right before the date, and pages after it. -/
def ofAnyPages : Pattern :=
  ⟨⟨.book, .progress⟩, "\x7b*\x7d, \x7b*\x7d\x7bdate\x7d: \x7bstartPage\x7d-\x7bendPage\x7d", .iso, by decide +kernel⟩

/-- Another date and a digit stand before the date of this line. -/
theorem match?_dateAfterAnything_pages :
    ofAnyPages.match? "2023-01-01, p. 12024-02-29: 007-4294967295".toList =
      some ⟨.progress (some (.page 7)) (.page 4294967295), none, some DateLayout.leapDay⟩ := by
  have parts : ofAnyPages.segments = [.slot .anything, .literal ", ".toList, .slot .anything] ++
      .slot .date :: [.literal ": ".toList, .slot .startPage, .literal "-".toList, .slot .endPage] := by decide +kernel
  have early : List.Forall₂ (Writes extremes DateLayout.leapDay.isoText)
      [.slot .anything, .literal ", ".toList, .slot .anything] ["2023-01-01".toList, ", ".toList, "p. 1".toList] := by
    decide +kernel
  have late : List.Forall₂ (Writes extremes DateLayout.leapDay.isoText)
      [.literal ": ".toList, .slot .startPage, .literal "-".toList, .slot .endPage]
      [": ".toList, "007".toList, "-".toList, "4294967295".toList] := by decide +kernel
  have found := match?_dateAfterAnything rfl rfl parts (by simp) (by simp) (by simp) (by decide +kernel) extremes (by decide)
    early late (by decide +kernel)
  have written : ["2023-01-01".toList, ", ".toList, "p. 1".toList].flatten ++
      (ofAnyPages.layout.format DateLayout.leapDay ++ [": ".toList, "007".toList, "-".toList, "4294967295".toList].flatten) =
        "2023-01-01, p. 12024-02-29: 007-4294967295".toList := by decide +kernel
  have said : ofAnyPages.actionOf extremes = .progress (some (.page 7)) (.page 4294967295) := by decide +kernel
  rwa [written, said] at found

end Pattern
end ReadingLog
