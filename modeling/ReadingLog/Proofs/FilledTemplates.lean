import ReadingLog.Proofs.NewTemplates
import ReadingLog.Proofs.NumbersApart
import ReadingLog.Proofs.Positions
import ReadingLog.Proofs.ReadBack
import ReadingLog.Proofs.UseOfPlaceholders

/-!
# Templates filled in

Whoever writes text for every placeholder of a template gets a line. Where the template has its numbers apart, the line is
matched as what was written, however much of the template the subject repeats.
-/

namespace ReadingLog

open Template

/-! ## Numerals -/

/-- ASCII digits for a number up to a bound, with any number of zeros in front. -/
structure Numeral (bound : Nat) where
  digits : Text
  nonempty : digits ≠ []
  decimal : ∀ c ∈ digits, c.isDigit
  value_le : Text.value digits ≤ bound

namespace Numeral

variable {bound : Nat} (n : Numeral bound)

/-- The number that is meant. -/
def value : Nat := Text.value n.digits

theorem isDecimal_digits : Text.IsDecimal n.digits := ⟨n.nonempty, n.decimal⟩

theorem isNumeral_digits : Segment.IsNumeral n.digits :=
  ⟨n.nonempty, fun c member => Text.isScriptDigit_of_isDigit (n.decimal c member)⟩

/-- A number by its shortest numeral. -/
def ofNat (number : Nat) (inside : number ≤ bound) : Numeral bound where
  digits := Text.ofNat number
  nonempty := by
    rw [← Text.padded_one]
    exact Text.padded_ne_nil 1 number
  decimal := by
    rw [← Text.padded_one]
    exact fun _ => Text.isDigit_of_mem_padded
  value_le := by rwa [← Text.padded_one, Text.value_padded]

@[simp] theorem value_ofNat (number : Nat) (inside : number ≤ bound) : (ofNat number inside).value = number :=
  Text.value_ofNat number

def zero : Numeral bound := ofNat 0 (Nat.zero_le _)

end Numeral

namespace Position

theorem page?_digits (n : Numeral lastPage) : page? n.digits = some (.page (UInt32.ofNat n.value)) := by
  have inside : n.value < UInt32.size := Nat.lt_succ_of_le n.value_le
  exact page?_eq_some_iff.2 ⟨n.isDecimal_digits, n.value_le, _, rfl, UInt32.toNat_ofNat_of_lt' inside⟩

/-- A share is read with its percent sign and without. -/
theorem percent?_digits (n : Numeral 100) (signed : Bool) :
    percent? (if signed then n.digits ++ ['%'] else n.digits) = some (.percent (UInt8.ofNat n.value)) := by
  have inside : n.value < UInt8.size := Nat.lt_of_le_of_lt n.value_le (by decide)
  refine percent?_eq_some_iff.2 ⟨n.digits, ?_, n.isDecimal_digits, n.value_le, _, rfl, UInt8.toNat_ofNat_of_lt' inside⟩
  cases signed with
  | true => exact .inr rfl
  | false => exact .inl rfl

end Position

/-! ## Filling in -/

/-- The segment with a text for its placeholder. -/
def Template.Segment.fill (piece : Placeholder → Text) : Segment → Text
  | literal text => text
  | slot p => piece p

theorem Template.Segment.flatMap_fill_prependChar (piece : Placeholder → Text) (c : Char) (segments : List Segment) :
    (prependChar c segments).flatMap (Segment.fill piece) = c :: segments.flatMap (Segment.fill piece) := by
  cases segments with
  | nil => rfl
  | cons segment segments => cases segment <;> rfl

/-- The segments of a template with the tokens of its placeholders are the template. -/
theorem Template.Segment.flatMap_fill_ofTemplate (kind : Kind) (template : Text) :
    (ofTemplate kind template).flatMap (Segment.fill Placeholder.token) = template := by
  refine ofTemplate_induction
    (motive := fun template segments => segments.flatMap (Segment.fill Placeholder.token) = template) rfl ?_ ?_ template
  · intro p rest segments _ later
    rw [List.flatMap_cons, later, Segment.fill]
  · intro c rest segments _ later
    rw [flatMap_fill_prependChar, later]

/-- The numbers that are written into a template, the share with a percent sign or without. -/
structure Figures where
  startPage : Numeral Position.lastPage
  endPage : Numeral Position.lastPage
  share : Numeral 100
  signed : Bool

/-- What is written for each placeholder. -/
def Figures.piece (f : Figures) (subject : Text) : Placeholder → Text
  | .date | .book => subject
  | .startPage => f.startPage.digits
  | .endPage => f.endPage.digits
  | .finish => if f.signed then f.share.digits ++ ['%'] else f.share.digits
  | .anything => []

namespace Template.Segment

/-- What is written for a segment: a literal as it is, for anything some text within a line, and for any other placeholder what
    the figures and the subject say, a share with a percent sign or without. -/
def Writes (f : Figures) (subject : Text) : Segment → Text → Prop
  | literal text, piece => piece = text
  | slot .anything, piece => '\n' ∉ piece
  | slot .date, piece | slot .book, piece => piece = subject
  | slot .startPage, piece => piece = f.startPage.digits
  | slot .endPage, piece => piece = f.endPage.digits
  | slot .finish, piece => piece = f.share.digits ∨ piece = f.share.digits ++ ['%']

instance (f : Figures) (subject : Text) : (segment : Segment) → (piece : Text) → Decidable (Writes f subject segment piece)
  | literal text, piece => inferInstanceAs (Decidable (piece = text))
  | slot .anything, piece => inferInstanceAs (Decidable ('\n' ∉ piece))
  | slot .date, piece | slot .book, piece => inferInstanceAs (Decidable (piece = subject))
  | slot .startPage, piece => inferInstanceAs (Decidable (piece = f.startPage.digits))
  | slot .endPage, piece => inferInstanceAs (Decidable (piece = f.endPage.digits))
  | slot .finish, piece => inferInstanceAs (Decidable (piece = f.share.digits ∨ piece = f.share.digits ++ ['%']))

variable {f : Figures} {subject piece : Text}

theorem Writes.fits {segment : Segment} (nonempty : subject ≠ []) (unbroken : '\n' ∉ subject)
    (writes : Writes f subject segment piece) : Fits segment piece := by
  cases segment with
  | literal text => exact writes
  | slot p =>
    cases p with
    | anything => exact writes
    | date | book =>
      obtain rfl : piece = subject := writes
      exact ⟨nonempty, unbroken⟩
    | startPage =>
      obtain rfl : piece = f.startPage.digits := writes
      exact f.startPage.isNumeral_digits
    | endPage =>
      obtain rfl : piece = f.endPage.digits := writes
      exact f.endPage.isNumeral_digits
    | finish =>
      rcases writes with rfl | rfl
      · exact .inl f.share.isNumeral_digits
      · exact .inr ⟨_, f.share.isNumeral_digits, rfl⟩

/-- What the figures and the subject say may be written. -/
theorem writes_fill (segment : Segment) : Writes f subject segment (segment.fill (f.piece subject)) := by
  cases segment with
  | literal text => rfl
  | slot p =>
    cases p with
    | anything => exact List.not_mem_nil
    | date | book | startPage | endPage => rfl
    | finish =>
      simp only [Writes, fill, Figures.piece]
      cases f.signed with
      | true => exact .inr rfl
      | false => exact .inl rfl

theorem forall₂_imp_of_mem {α β : Type} {R S : α → β → Prop} {l : List α} {k : List β} (all : List.Forall₂ R l k)
    (imp : ∀ a ∈ l, ∀ b, R a b → S a b) : List.Forall₂ S l k := by
  rw [List.forall₂_iff_zip] at all ⊢
  exact ⟨all.1, fun pair => imp _ (List.of_mem_zip pair).1 _ (all.2 pair)⟩

/-- What is written for literals and numbers has nothing to do with the subject. -/
theorem writes_of_rigid {segments : List Segment} {pieces : List Text} (rigid : AreRigid segments) (other : Text)
    (writes : List.Forall₂ (Writes f subject) segments pieces) : List.Forall₂ (Writes f other) segments pieces := by
  refine forall₂_imp_of_mem writes fun segment member piece here => ?_
  cases segment with
  | literal text => exact here
  | slot p => cases p <;> first | exact here | cases rigid _ member

/-- Whatever fits literals and slots for anything is written for them. -/
theorem writes_of_loose {segments : List Segment} {pieces : List Text} (loose : ∀ p, slot p ∈ segments → p = .anything)
    (fits : List.Forall₂ Fits segments pieces) : List.Forall₂ (Writes f subject) segments pieces := by
  refine forall₂_imp_of_mem fits fun segment member piece here => ?_
  cases segment with
  | literal text => exact here
  | slot p =>
    obtain rfl := loose p member
    exact here

end Template.Segment

namespace Pattern

open Segment

/-- The template with a text for each of its placeholders. -/
def fill (p : Pattern) (piece : Placeholder → Text) : Text := p.segments.flatMap (Segment.fill piece)

/-- What the template records when these numbers are written into it. -/
def actionOf (p : Pattern) (f : Figures) : Action :=
  match p.kind.purpose with
  | .started => .started
  | .finished => .finished
  | .abandoned => .abandoned
  | .progress =>
    .progress (if .slot .startPage ∈ p.segments then some (.page (UInt32.ofNat f.startPage.value)) else none)
      (.page (UInt32.ofNat f.endPage.value))
  | .relativeProgress => .progress none (.percent (UInt8.ofNat f.share.value))

variable {p : Pattern} {f : Figures} {subject : Text}

/-- Where something is written for every segment, a slot gets what is written for it. -/
theorem exists_gives_of_writes {segments : List Segment} {pieces : List Text}
    (writes : List.Forall₂ (Writes f subject) segments pieces) {q : Placeholder} (member : .slot q ∈ segments) :
    ∃ piece, Gives segments pieces q piece ∧ Writes f subject (.slot q) piece := by
  obtain ⟨piece, gives⟩ := (exists_gives_iff writes.length_eq).2 member
  exact ⟨piece, gives, (List.forall₂_iff_zip.1 writes).2 gives⟩

theorem givesAction_of_writes {pieces : List Text} (writes : List.Forall₂ (Writes f subject) p.segments pieces) :
    p.GivesAction pieces (p.actionOf f) := by
  unfold GivesAction actionOf
  cases purpose : p.kind.purpose with
  | started | finished | abandoned => rfl
  | progress =>
    obtain ⟨_, ends, rfl⟩ := exists_gives_of_writes writes (q := .endPage) (p.mem_of_required (by simp [Kind.required, purpose]))
    refine ⟨_, _, ?_, ⟨_, ends, Position.page?_digits f.endPage⟩, rfl⟩
    by_cases member : .slot .startPage ∈ p.segments
    · obtain ⟨_, begins, rfl⟩ := exists_gives_of_writes writes member
      rw [if_pos member]
      exact ⟨_, begins, Position.page?_digits f.startPage⟩
    · rwa [if_neg member]
  | relativeProgress =>
    obtain ⟨_, ends, rfl | rfl⟩ :=
      exists_gives_of_writes writes (q := .finish) (p.mem_of_required (by simp [Kind.required, purpose]))
    · exact ⟨_, ⟨_, ends, Position.percent?_digits f.share false⟩, rfl⟩
    · exact ⟨_, ⟨_, ends, Position.percent?_digits f.share true⟩, rfl⟩

/-- Pieces that are written into a template of a book's log record what was written, if the subject tells a date. -/
theorem records_of_writes (book : p.kind.log = .book) {pieces : List Text} {date : Date}
    (writes : List.Forall₂ (Writes f subject) p.segments pieces) (tells : p.TellsDate subject date) :
    p.Records pieces ⟨p.actionOf f, none, some date⟩ := by
  have member : .slot .date ∈ p.segments := p.mem_of_required (by simp [Kind.required, Kind.subject, book])
  obtain ⟨_, gives, rfl⟩ := exists_gives_of_writes writes member
  refine ⟨givesAction_of_writes writes, ?_⟩
  rw [book]
  exact ⟨rfl, _, date, gives, tells, rfl⟩

/-- The template filled in is written by the figures and the subject. -/
theorem forall₂_writes_fill (p : Pattern) (f : Figures) (subject : Text) :
    List.Forall₂ (Writes f subject) p.segments (p.segments.map (Segment.fill (f.piece subject))) :=
  List.forall₂_map_right_iff.2 (List.forall₂_same.2 fun segment _ => writes_fill segment)

theorem splits_fill (nonempty : subject ≠ []) (unbroken : '\n' ∉ subject) :
    Splits p.segments (p.fill (f.piece subject)) (p.segments.map (Segment.fill (f.piece subject))) :=
  ⟨(p.forall₂_writes_fill f subject).imp fun _ _ => Writes.fits nonempty unbroken, List.flatMap_def.symm⟩

theorem match?_of_records_fill (apart : HaveNumbersApart p.segments) (nonempty : subject ≠ []) (unbroken : '\n' ∉ subject)
    {m : Match} (records : p.Records (p.segments.map (Segment.fill (f.piece subject))) m) :
    p.match? (p.fill (f.piece subject)) = some m :=
  have splits := splits_fill nonempty unbroken
  match?_of_only_split splits (fun _ other => splits_unique apart splits other) records

theorem match?_fill_day (apart : HaveNumbersApart p.segments) (day : p.kind.log = .day) (nonempty : subject ≠ [])
    (unbroken : '\n' ∉ subject) : p.match? (p.fill (f.piece subject)) = some ⟨p.actionOf f, some subject.trim, none⟩ := by
  have member : .slot .book ∈ p.segments := p.mem_of_required (by simp [Kind.required, Kind.subject, day])
  have writes := p.forall₂_writes_fill f subject
  obtain ⟨piece, gives, same⟩ := exists_gives_of_writes writes member
  refine match?_of_records_fill apart nonempty unbroken ⟨givesAction_of_writes writes, ?_⟩
  rw [day]
  exact ⟨rfl, piece, gives, by rw [show piece = subject from same]⟩

theorem match?_fill_book (apart : HaveNumbersApart p.segments) (book : p.kind.log = .book) (nonempty : subject ≠ [])
    (unbroken : '\n' ∉ subject) {date : Date} (dated : p.layout.parse? subject.trim = some date) :
    p.match? (p.fill (f.piece subject)) = some ⟨p.actionOf f, none, some date⟩ :=
  match?_of_records_fill apart nonempty unbroken (records_of_writes book (p.forall₂_writes_fill f subject) (.inl dated))

/-- A template that is filled with the tokens of its placeholders is left as it is. -/
theorem fill_token (p : Pattern) : p.fill Placeholder.token = p.template.toList := Segment.flatMap_fill_ofTemplate p.kind _

/-- A line that is written by a template with its numbers apart, with text for the tokens in it, is matched as what was written:
    the action of the template with the positions that the numbers mean, and the book in a day's log or the date in a book's. -/
theorem match?_fill (p : Pattern) (apart : HaveNumbersApart p.segments) (f : Figures) :
    p.fill Placeholder.token = p.template.toList ∧
    (p.kind.log = .day → ∀ book : Text, book ≠ [] → book.trim = book → '\n' ∉ book →
      p.match? (p.fill (f.piece book)) = some ⟨p.actionOf f, some book, none⟩) ∧
    (p.kind.log = .book → ∀ date : Date, '\n' ∉ p.layout.format date →
      p.layout.parse? (p.layout.format date).trim = some date →
      p.match? (p.fill (f.piece (p.layout.format date))) = some ⟨p.actionOf f, none, some date⟩) := by
  refine ⟨p.fill_token, ?_, ?_⟩
  · intro day book nonempty trimmed unbroken
    have found := match?_fill_day apart day nonempty unbroken (f := f)
    rwa [trimmed] at found
  · intro book date unbroken dated
    exact match?_fill_book apart book (p.layout.format_ne_nil date) unbroken dated

/-- A template for pages, of a day's log. -/
def ofPages : Pattern :=
  ⟨⟨.day, .progress⟩, "\x7bstartPage\x7d%-\x7bendPage\x7d: \x7bbook\x7d 7", .iso, by decide +kernel⟩

/-- A template for a share, of a book's log, that has a percent sign of its own. -/
def ofShare : Pattern := ⟨⟨.book, .relativeProgress⟩, "\x7bdate\x7d \x7bend\x7d%", .iso, by decide +kernel⟩

/-- Numbers at their bounds, and one with zeros in front. -/
def extremes : Figures where
  startPage := ⟨"007".toList, by decide, List.all_eq_true.1 (by decide), by decide +kernel⟩
  endPage := .ofNat Position.lastPage (Nat.le_refl _)
  share := .ofNat 100 (Nat.le_refl _)
  signed := true

theorem match?_fill_extremes :
    ofPages.match? "007%-4294967295: 5%-6: Dune 7: 8 7".toList =
      some ⟨.progress (some (.page 7)) (.page 4294967295), some "5%-6: Dune 7: 8".toList, none⟩ ∧
    ofShare.match? "2024-02-29 100%%".toList = some ⟨.progress none (.percent 100), none, some DateLayout.leapDay⟩ := by
  have pages := (match?_fill ofPages (by decide +kernel) extremes).2.1 rfl "5%-6: Dune 7: 8".toList (by decide)
    (by decide +kernel) (by decide)
  have share := (match?_fill ofShare (by decide +kernel) extremes).2.2 rfl DateLayout.leapDay (by decide +kernel)
    (by decide +kernel)
  have written : ofPages.fill (extremes.piece "5%-6: Dune 7: 8".toList) = "007%-4294967295: 5%-6: Dune 7: 8 7".toList ∧
      ofShare.fill (extremes.piece (ofShare.layout.format DateLayout.leapDay)) = "2024-02-29 100%%".toList := by
    decide +kernel
  have said : ofPages.actionOf extremes = .progress (some (.page 7)) (.page 4294967295) ∧
      ofShare.actionOf extremes = .progress none (.percent 100) := by
    decide +kernel
  rw [written.1, said.1] at pages
  rw [written.2, said.2] at share
  exact ⟨pages, share⟩

end Pattern
end ReadingLog
