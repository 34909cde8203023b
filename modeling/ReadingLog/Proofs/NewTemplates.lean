import ReadingLog.Proofs.Matching
import ReadingLog.Proofs.PatternSets

/-!
# The templates of a new vault

Every template of a new vault compiles. It consists of an opening, the slot for what its log is about, and an ending, and the
patterns are tried in the order of their purposes.
-/

namespace ReadingLog

open Template

/-! ## One pattern -/

namespace Pattern

variable {p : Pattern} {line : Text} {pieces : List Text} {m : Match}

/-- What a line records by its preferred split. -/
theorem match?_eq_some_iff (found : Segment.split? p.segments line = some pieces) : p.match? line = some m ↔ p.Records pieces m := by
  rw [match?, Segment.preferred?_eq, found, Option.bind_some]
  exact matchOf?_eq_some_iff (Segment.splits_of_split? found).1.length_eq

/-- A line with a single split records what that split does. -/
theorem match?_of_only_split (splits : Segment.Splits p.segments line pieces)
    (only : ∀ other, Segment.Splits p.segments line other → other = pieces) (records : p.Records pieces m) :
    p.match? line = some m := by
  obtain ⟨best, found⟩ := Segment.exists_split? splits
  obtain rfl := only best (Segment.splits_of_split? found)
  exact (match?_eq_some_iff found).2 records

theorem match?_of_no_split (none : ∀ pieces, ¬ Segment.Splits p.segments line pieces) : p.match? line = .none := by
  rw [match?, Segment.preferred?_eq, Segment.split?_eq_none_iff.2 none, Option.bind_none]

end Pattern

/-! ## The patterns of a new vault -/

/-- The template for a purpose in a new vault. -/
def Templates.initialText (log : Log) (purpose : Purpose) : String := ((initial log).get purpose).getD ""

/-- The pattern for a purpose in a new vault. -/
def Pattern.initial (log : Log) (layout : DateLayout) (purpose : Purpose) : Pattern where
  kind := ⟨log, purpose⟩
  template := Templates.initialText log purpose
  layout := layout
  faultless := by cases log <;> cases purpose <;> decide +kernel

theorem Template.Source.pattern?_initial (log : Log) (layout : DateLayout) (purpose : Purpose) :
    Source.pattern? layout ⟨⟨log, purpose⟩, (Templates.initial log).get purpose⟩ = some (.initial log layout purpose) := by
  have given : Source.text? ⟨⟨log, purpose⟩, (Templates.initial log).get purpose⟩ = some (Templates.initialText log purpose) := by
    cases log <;> cases purpose <;> decide +kernel
  have compiles : Pattern.compile (Templates.initialText log purpose) ⟨log, purpose⟩ =
      .ok ⟨⟨log, purpose⟩, Templates.initialText log purpose, .iso, _⟩ :=
    Pattern.compile_of_faultless (Pattern.initial log layout purpose).faultless
  simp only [Source.pattern?, given, Option.bind_some, compiles]
  rfl

theorem Templates.patterns_initial (log : Log) (layout : DateLayout) :
    ((Templates.initial log).patterns log layout).patterns = Purpose.all.map (Pattern.initial log layout) := by
  have each : (Source.pattern? layout) ∘ (fun purpose => ⟨⟨log, purpose⟩, (Templates.initial log).get purpose⟩) =
      some ∘ Pattern.initial log layout := funext (Source.pattern?_initial log layout)
  rw [Templates.patterns, PatternSet.patterns_ofSources, Templates.sources, List.filterMap_map, each, List.filterMap_eq_map]

/-- What a template of a new vault begins with, before the slot for what its log is about. -/
def Template.opening : Log → Purpose → String
  | .day, .started => "Started "
  | .day, .finished => "Finished "
  | .day, .abandoned => "Abandoned "
  | .day, .progress | .day, .relativeProgress => "Read "
  | .book, _ => ""

/-- What it goes on with after that slot. -/
def Template.ending : Log → Purpose → List Segment
  | .day, .started | .day, .finished | .day, .abandoned => []
  | .book, .started => [.literal ": Started".toList]
  | .book, .finished => [.literal ": Finished".toList]
  | .book, .abandoned => [.literal ": Abandoned".toList]
  | _, .progress => [.literal ": ".toList, .slot .endPage]
  | _, .relativeProgress => [.literal ": ".toList, .slot .finish, .literal "%".toList]

theorem Pattern.segments_initial (log : Log) (layout : DateLayout) (purpose : Purpose) :
    (Pattern.initial log layout purpose).segments =
      (if opening log purpose = "" then [] else [.literal (opening log purpose).toList]) ++
        .slot (Kind.subject log) :: ending log purpose := by
  have segments : Segment.ofTemplate ⟨log, purpose⟩ (Templates.initialText log purpose).toList =
      (if opening log purpose = "" then [] else [.literal (opening log purpose).toList]) ++
        .slot (Kind.subject log) :: ending log purpose := by
    cases log <;> cases purpose <;> decide +kernel
  exact segments

end ReadingLog
