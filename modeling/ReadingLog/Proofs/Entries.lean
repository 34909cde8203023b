import ReadingLog.Proofs.FilledTemplates
import ReadingLog.Proofs.Links

/-!
# Entries of a new vault

A reader writes entries by the templates of a new vault: `Step.line` is the line for a step through a book. No line fits
two of these templates, whatever its book is called, and the one it fits can be split in one way, so that every entry is
matched as what it says.
-/

namespace ReadingLog

open Template

/-- What an entry says about a book. -/
inductive Step where
  | started
  | finished
  | abandoned
  | page (number : UInt32)
  | percent (share : Fin 101)
  deriving DecidableEq

theorem Pattern.fill_initial (log : Log) (layout : DateLayout) (purpose : Purpose) (piece : Placeholder → Text) :
    (Pattern.initial log layout purpose).fill piece =
      (opening log purpose).toList ++ (piece (Kind.subject log) ++ (ending log purpose).flatMap (Segment.fill piece)) := by
  rw [fill, segments_initial, List.flatMap_append, List.flatMap_cons, Segment.fill]
  congr 1
  by_cases bare : opening log purpose = ""
  · rw [if_pos bare, bare]
    rfl
  · rw [if_neg bare, List.flatMap_singleton]
    rfl

namespace Step

def purpose : Step → Purpose
  | started => .started
  | finished => .finished
  | abandoned => .abandoned
  | page _ => .progress
  | percent _ => .relativeProgress

def action : Step → Action
  | started => .started
  | finished => .finished
  | abandoned => .abandoned
  | page number => .progress none (.page number)
  | percent share => .progress none (.percent (UInt8.ofNat share))

/-- The line for a step, by the template of its purpose. -/
def line (subject : Text) : Log → Step → Text
  | .day, started => "Started ".toList ++ subject
  | .day, finished => "Finished ".toList ++ subject
  | .day, abandoned => "Abandoned ".toList ++ subject
  | .day, page number => "Read ".toList ++ (subject ++ (": ".toList ++ Text.ofNat number.toNat))
  | .day, percent share => "Read ".toList ++ (subject ++ (": ".toList ++ (Text.ofNat share ++ "%".toList)))
  | .book, started => subject ++ ": Started".toList
  | .book, finished => subject ++ ": Finished".toList
  | .book, abandoned => subject ++ ": Abandoned".toList
  | .book, page number => subject ++ (": ".toList ++ Text.ofNat number.toNat)
  | .book, percent share => subject ++ (": ".toList ++ (Text.ofNat share ++ "%".toList))

theorem toNat_le_lastPage (number : UInt32) : number.toNat ≤ Position.lastPage := by
  have below := number.toNat_lt
  unfold Position.lastPage
  omega

/-- The numbers in the line for a step. -/
def figures : Step → Figures
  | page number => ⟨.zero, .ofNat number.toNat (toNat_le_lastPage number), .zero, false⟩
  | percent share => ⟨.zero, .zero, .ofNat share (Nat.le_of_lt_succ share.isLt), false⟩
  | started | finished | abandoned => ⟨.zero, .zero, .zero, false⟩

/-- The line for a step is the template of its purpose filled in. -/
theorem line_eq_fill (subject : Text) (log : Log) (layout : DateLayout) (step : Step) :
    step.line subject log = (Pattern.initial log layout step.purpose).fill (step.figures.piece subject) := by
  rw [Pattern.fill_initial]
  cases log <;> cases step <;>
    simp only [purpose, ending, List.flatMap_nil, List.flatMap_cons, List.append_nil] <;> rfl

theorem actionOf_figures (log : Log) (layout : DateLayout) (step : Step) :
    (Pattern.initial log layout step.purpose).actionOf step.figures = step.action := by
  cases step with
  | started | finished | abandoned => rfl
  | page number =>
    have absent : .slot .startPage ∉ (Pattern.initial log layout .progress).segments := by
      rw [Pattern.segments_initial]
      cases log <;> decide
    show Action.progress (if .slot .startPage ∈ (Pattern.initial log layout .progress).segments then _ else none)
      (.page (UInt32.ofNat (Numeral.ofNat number.toNat (toNat_le_lastPage number)).value)) = _
    rw [if_neg absent, Numeral.value_ofNat, UInt32.ofNat_toNat]
    rfl
  | percent share =>
    show Action.progress none (.percent (UInt8.ofNat (Numeral.ofNat share (Nat.le_of_lt_succ share.isLt)).value)) = _
    rw [Numeral.value_ofNat]
    rfl

end Step

/-! ## Splits of a line -/

namespace Pattern

open Segment

variable {log : Log} {layout : DateLayout} {purpose : Purpose} {line : Text} {pieces : List Text}

theorem pieces_of_literal {text : Text} (fits : List.Forall₂ Fits [.literal text] pieces) : pieces = [text] := by
  rcases fits with _ | ⟨rfl, _ | _⟩
  rfl

/-- A line that a template of a new vault splits begins and ends as the template does. -/
theorem line_of_splits_initial (splits : Splits (Pattern.initial log layout purpose).segments line pieces) :
    ∃ subject rest, List.Forall₂ Fits (ending log purpose) rest ∧
      line = (opening log purpose).toList ++ (subject ++ rest.flatten) := by
  obtain ⟨fits, rfl⟩ := splits
  rw [segments_initial] at fits
  obtain ⟨first, _, first_fits, others, rfl⟩ := forall₂_append_left_iff.1 fits
  obtain ⟨subject, rest, -, rest_fits, rfl⟩ := List.forall₂_cons_left_iff.1 others
  refine ⟨subject, rest, rest_fits, ?_⟩
  rw [List.flatten_append, List.flatten_cons]
  congr 1
  by_cases bare : opening log purpose = ""
  · rw [if_pos bare] at first_fits
    rw [List.forall₂_nil_left_iff.1 first_fits, bare]
    rfl
  · rw [if_neg bare] at first_fits
    rw [pieces_of_literal first_fits, List.flatten_singleton]

/-! ## Telling the templates apart -/

/-- The purpose of the only template that a line may fit, by the characters that it begins or ends with. -/
def apparent : Log → Text → Purpose
  | .day, line =>
    match line.head? with
    | some 'S' => .started
    | some 'F' => .finished
    | some 'A' => .abandoned
    | _ => if line.reverse.head? = some '%' then .relativeProgress else .progress
  | .book, line =>
    match line.reverse with
    | 'd' :: 'e' :: 't' :: _ => .started
    | 'd' :: 'e' :: 'h' :: _ => .finished
    | 'd' :: 'e' :: 'n' :: _ => .abandoned
    | '%' :: _ => .relativeProgress
    | _ => .progress

theorem pieces_of_progress (fits : List.Forall₂ Fits (ending log .progress) pieces) :
    ∃ digits, IsNumeral digits ∧ pieces = [": ".toList, digits] := by
  have parts : ending log .progress = [.literal ": ".toList, .slot .endPage] := by cases log <;> rfl
  rw [parts] at fits
  rcases fits with _ | ⟨rfl, _ | ⟨numeral, _ | _⟩⟩
  exact ⟨_, numeral, rfl⟩

theorem pieces_of_relativeProgress (fits : List.Forall₂ Fits (ending log .relativeProgress) pieces) :
    ∃ share, pieces = [": ".toList, share, "%".toList] := by
  have parts : ending log .relativeProgress = [.literal ": ".toList, .slot .finish, .literal "%".toList] := by
    cases log <;> rfl
  rw [parts] at fits
  rcases fits with _ | ⟨rfl, _ | ⟨_, _ | ⟨rfl, _ | _⟩⟩⟩
  exact ⟨_, rfl⟩

theorem apparent_of_splits (splits : Splits (Pattern.initial log layout purpose).segments line pieces) :
    apparent log line = purpose := by
  obtain ⟨subject, rest, others, rfl⟩ := line_of_splits_initial splits
  -- The first and last characters are the template's own, but for the digits of a number that a template ends with.
  cases purpose with
  | started | finished | abandoned =>
    cases log with
    | day => rfl
    | book =>
      obtain rfl := pieces_of_literal others
      simp [apparent, opening]
  | progress =>
    obtain ⟨digits, numeral, rfl⟩ := pieces_of_progress others
    obtain ⟨init, c, rfl⟩ := (List.eq_nil_or_concat' digits).resolve_left numeral.1
    have digit : Text.isScriptDigit c := numeral.2 c (by simp)
    have unsigned : c ≠ '%' := by
      rintro rfl
      exact absurd digit (by decide)
    have no_letter : c ≠ 'd' := by
      rintro rfl
      exact absurd digit (by decide)
    cases log with
    | day => simp [apparent, opening, unsigned]
    | book => simp [apparent, opening, unsigned, no_letter]
  | relativeProgress =>
    obtain ⟨share, rfl⟩ := pieces_of_relativeProgress others
    cases log with
    | day => simp [apparent, opening]
    | book => simp [apparent, opening]

theorem haveNumbersApart_initial (log : Log) (layout : DateLayout) (purpose : Purpose) :
    HaveNumbersApart (Pattern.initial log layout purpose).segments := by
  rw [segments_initial]
  cases log <;> cases purpose <;> decide +kernel

end Pattern

/-! ## Reading an entry -/

namespace Step

open Segment

variable {subject : Text} {log : Log} {layout : DateLayout}

/-- What the template of its purpose matches a step as, all templates together match it as. -/
theorem match?_line (nonempty : subject ≠ []) (unbroken : '\n' ∉ subject) {step : Step} {found : Match}
    (hit : (Pattern.initial log layout step.purpose).match? (step.line subject log) = some found) :
    ((Templates.initial log).patterns log layout).match? (step.line subject log) = some found := by
  have splits := Pattern.splits_fill nonempty unbroken (p := Pattern.initial log layout step.purpose) (f := step.figures)
  rw [← line_eq_fill] at splits
  have missed (purpose : Purpose) (differs : purpose ≠ step.purpose) :
      (Pattern.initial log layout purpose).match? (step.line subject log) = none := by
    refine Pattern.match?_of_no_split fun pieces other => differs ?_
    rw [← Pattern.apparent_of_splits splits, ← Pattern.apparent_of_splits other]
  -- Whichever template of the list matches first, it is that of the step.
  rw [PatternSet.match?, Templates.patterns_initial]
  cases first : (Purpose.all.map (Pattern.initial log layout)).findSome? (·.match? (step.line subject log)) with
  | none =>
    have refused := List.findSome?_eq_none_iff.1 first _ (List.mem_map_of_mem (Purpose.mem_all step.purpose))
    exact absurd (refused.symm.trans hit) (by simp)
  | some other =>
    obtain ⟨_, member, taken⟩ := List.exists_of_findSome?_eq_some first
    obtain ⟨purpose, -, rfl⟩ := List.mem_map.1 member
    by_cases same : purpose = step.purpose
    · subst same
      exact taken.symm.trans hit
    · exact absurd ((missed purpose same).symm.trans taken) (by simp)

theorem match?_day (nonempty : subject ≠ []) (unbroken : '\n' ∉ subject) (step : Step) :
    ((Templates.initial .day).patterns .day layout).match? (step.line subject .day) =
      some ⟨step.action, some subject.trim, none⟩ := by
  refine match?_line nonempty unbroken ?_
  rw [line_eq_fill subject .day layout, ← actionOf_figures .day layout]
  exact Pattern.match?_fill_day (Pattern.haveNumbersApart_initial ..) rfl nonempty unbroken

theorem match?_book {day : Date} (nonempty : subject ≠ []) (unbroken : '\n' ∉ subject)
    (dated : layout.parse? subject.trim = some day) (step : Step) :
    ((Templates.initial .book).patterns .book layout).match? (step.line subject .book) =
      some ⟨step.action, none, some day⟩ := by
  refine match?_line nonempty unbroken ?_
  rw [line_eq_fill subject .book layout, ← actionOf_figures .book layout]
  exact Pattern.match?_fill_book (Pattern.haveNumbersApart_initial ..) rfl nonempty unbroken dated

end Step
end ReadingLog
