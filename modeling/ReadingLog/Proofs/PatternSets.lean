import Mathlib.Data.List.Basic
import ReadingLog.Proofs.Expressions
import ReadingLog.Proofs.Trimming
import ReadingLog.Settings

/-!
# Sets of patterns

Every template that is not blank is compiled apart from all others: it becomes a pattern with the layout of its set, or it fails
with an error of its own. Patterns and failures both keep the order of the templates.
-/

namespace ReadingLog

open Template

/-! ## One template -/

namespace Template.Source

variable {source : Source} {layout : DateLayout} {template : String} {p : Pattern} {f : Failure}

/-- The source has a template that is not blank, which is this one once the white space around it is dropped. -/
def Gives (source : Source) (template : String) : Prop :=
  ∃ text, source.text = some text ∧ (∃ c ∈ text.toList, ¬ Text.isBlank c) ∧ template = String.ofList (Text.trim text.toList)

/-- The pattern of a template, if there is a template and it compiles. -/
def pattern? (layout : DateLayout) (source : Source) : Option Pattern :=
  source.text?.bind fun template => (Pattern.compile template source.kind).toOption.map (·.withLayout layout)

/-- The failure of a template, if there is a template and it does not compile. -/
def failure? (source : Source) : Option Failure :=
  source.text?.bind fun template =>
    match Pattern.compile template source.kind with
    | .ok _ => none
    | .error error => some ⟨source.kind, error⟩

theorem text?_eq_some_iff : source.text? = some template ↔ source.Gives template := by
  simp only [text?, Gives, Option.bind_eq_bind, Option.bind_eq_some_iff]
  refine exists_congr fun text => and_congr_right fun _ => ?_
  by_cases blank : ∀ c ∈ text.toList, Text.isBlank c
  · rw [if_pos (List.isEmpty_iff.2 (Text.trim_eq_nil_iff.2 blank))]
    constructor
    · nofun
    · rintro ⟨⟨c, member, inked⟩, -⟩
      exact absurd (blank c member) inked
  · have something : ¬ (Text.trim text.toList).isEmpty := fun nothing =>
      blank (Text.trim_eq_nil_iff.1 (List.isEmpty_iff.1 nothing))
    rw [if_neg something]
    simp only [not_forall] at blank
    obtain ⟨c, member, inked⟩ := blank
    constructor
    · intro same
      exact ⟨⟨c, member, inked⟩, (Option.some.inj same).symm⟩
    · rintro ⟨-, rfl⟩
      rfl

theorem pattern?_eq_some (found : source.pattern? layout = some p) :
    p.kind = source.kind ∧ source.Gives p.template ∧ p.layout = layout := by
  obtain ⟨template, given, compiled⟩ := Option.bind_eq_some_iff.1 found
  obtain ⟨compiled, ok, rfl⟩ := Option.map_eq_some_iff.1 compiled
  obtain ⟨faultless, rfl⟩ := Pattern.compile_eq_ok_iff.1 (toOption_eq_some_iff.1 ok)
  exact ⟨rfl, text?_eq_some_iff.1 given, rfl⟩

theorem failure?_eq_some_iff : source.failure? = some f ↔
    f.kind = source.kind ∧ ∃ template, source.Gives template ∧ Pattern.compile template source.kind = .error f.error := by
  simp only [failure?, Option.bind_eq_some_iff, text?_eq_some_iff]
  constructor
  · rintro ⟨template, given, failed⟩
    split at failed
    · cases failed
    · next error compiled =>
      obtain rfl := Option.some.inj failed
      exact ⟨rfl, template, given, compiled⟩
  · rintro ⟨kind, template, given, compiled⟩
    refine ⟨template, given, ?_⟩
    rw [compiled, ← kind]

/-- A template that is not blank becomes a pattern where it does not fail. -/
theorem isSome_pattern?_iff (given : source.Gives template) : (source.pattern? layout).isSome ↔ source.failure? = none := by
  simp only [pattern?, failure?, text?_eq_some_iff.2 given, Option.bind_some]
  cases Pattern.compile template source.kind <;> simp [Except.toOption]

end Template.Source

/-! ## All templates -/

namespace PatternSet

theorem registerOptional_eq (set : PatternSet) (layout : DateLayout) (source : Source) :
    set.registerOptional layout source =
      ⟨set.patterns ++ (source.pattern? layout).toList, set.failures ++ source.failure?.toList⟩ := by
  unfold registerOptional Source.pattern? Source.failure?
  cases source.text? with
  | none => simp
  | some template =>
    simp only [register, Option.bind_some]
    cases Pattern.compile template source.kind <;> simp [Except.toOption]

/-- A set has the patterns of the templates that compile and the failures of the others, in the order of the templates. -/
theorem ofSources_eq (layout : DateLayout) (sources : List Source) :
    ofSources layout sources = ⟨sources.filterMap (·.pattern? layout), sources.filterMap (·.failure?)⟩ := by
  have grown (set : PatternSet) : sources.foldl (fun set source => set.registerOptional layout source) set =
      ⟨set.patterns ++ sources.filterMap (·.pattern? layout), set.failures ++ sources.filterMap (·.failure?)⟩ := by
    induction sources generalizing set with
    | nil => simp
    | cons source sources ih =>
      rw [List.foldl_cons, ih, registerOptional_eq]
      simp only [List.append_assoc, List.filterMap_cons]
      cases source.pattern? layout <;> cases source.failure? <;> rfl
  exact grown empty

theorem patterns_ofSources (layout : DateLayout) (sources : List Source) :
    (ofSources layout sources).patterns = sources.filterMap (·.pattern? layout) := by
  rw [ofSources_eq]

theorem failures_ofSources (layout : DateLayout) (sources : List Source) :
    (ofSources layout sources).failures = sources.filterMap (·.failure?) := by
  rw [ofSources_eq]

end PatternSet

/-! ## The templates of a log -/

theorem sublist_filterMap {α β κ : Type} {f : α → Option β} {key : α → κ} {key' : β → κ}
    (same : ∀ a b, f a = some b → key' b = key a) (l : List α) : ((l.filterMap f).map key').Sublist (l.map key) := by
  induction l with
  | nil => exact .slnil
  | cons a l ih =>
    rw [List.filterMap_cons, List.map_cons]
    cases found : f a with
    | none => exact ih.cons _
    | some b =>
      simp only [List.map_cons, same a b found]
      exact ih.cons_cons _

@[simp] theorem Template.Purpose.mem_all (purpose : Purpose) : purpose ∈ Purpose.all := by cases purpose <;> decide

namespace Templates

variable {templates : Templates} {log : Log} {layout : DateLayout} {p : Pattern} {f : Failure}

/-- The template for a purpose with its kind. -/
def source (templates : Templates) (log : Log) (purpose : Purpose) : Source := ⟨⟨log, purpose⟩, templates.get purpose⟩

/-- A set of patterns and failures comes of the templates of a log. -/
structure SortedInto (templates : Templates) (log : Log) (layout : DateLayout) (set : PatternSet) : Prop where
  patterns_ordered : (set.patterns.map Pattern.kind).Sublist (Purpose.all.map (Kind.mk log))
  failures_ordered : (set.failures.map Failure.kind).Sublist (Purpose.all.map (Kind.mk log))
  /-- Of a template that is not blank there is either a pattern or a failure. -/
  apart : ∀ purpose template, (templates.source log purpose).Gives template →
    ((∃ p ∈ set.patterns, p.kind = ⟨log, purpose⟩) ↔ ¬ ∃ f ∈ set.failures, f.kind = ⟨log, purpose⟩)
  pattern : ∀ p ∈ set.patterns, (templates.source log p.kind.purpose).Gives p.template ∧ p.layout = layout
  failure : ∀ f ∈ set.failures, ∃ template, (templates.source log f.kind.purpose).Gives template ∧
    Pattern.compile template f.kind = .error f.error

theorem mem_patterns_iff : p ∈ (templates.patterns log layout).patterns ↔
    ∃ purpose, (templates.source log purpose).pattern? layout = some p := by
  simp [patterns, PatternSet.patterns_ofSources, sources, source]

theorem mem_failures_iff : f ∈ (templates.patterns log layout).failures ↔
    ∃ purpose, (templates.source log purpose).failure? = some f := by
  simp [patterns, PatternSet.failures_ofSources, sources, source]

theorem sortedInto_patterns (templates : Templates) (log : Log) (layout : DateLayout) :
    templates.SortedInto log layout (templates.patterns log layout) := by
  have kinds : (templates.sources log).map Source.kind = Purpose.all.map (Kind.mk log) := by
    simp [sources, Function.comp_def]
  refine ⟨?patterns, ?failures, ?apart, ?pattern, ?failure⟩
  case patterns =>
    rw [patterns, PatternSet.patterns_ofSources, ← kinds]
    exact sublist_filterMap (fun _ _ found => (Source.pattern?_eq_some found).1) _
  case failures =>
    rw [patterns, PatternSet.failures_ofSources, ← kinds]
    exact sublist_filterMap (fun _ _ failed => (Source.failure?_eq_some_iff.1 failed).1) _
  case apart =>
    intro purpose template given
    constructor
    · rintro ⟨p, member, kind⟩ ⟨f, member', kind'⟩
      obtain ⟨purpose₁, found⟩ := mem_patterns_iff.1 member
      obtain ⟨purpose₂, failed⟩ := mem_failures_iff.1 member'
      obtain rfl : purpose₁ = purpose := by simpa [source] using (Source.pattern?_eq_some found).1.symm.trans kind
      obtain rfl : purpose₂ = purpose₁ := by simpa [source] using (Source.failure?_eq_some_iff.1 failed).1.symm.trans kind'
      have unfailed := (Source.isSome_pattern?_iff given).1 (Option.isSome_iff_exists.2 ⟨p, found⟩)
      exact absurd (unfailed.symm.trans failed) nofun
    · intro absent
      have unfailed : (templates.source log purpose).failure? = .none := by
        rw [Option.eq_none_iff_forall_ne_some]
        intro f failed
        exact absent ⟨f, mem_failures_iff.2 ⟨purpose, failed⟩, (Source.failure?_eq_some_iff.1 failed).1⟩
      obtain ⟨p, found⟩ := Option.isSome_iff_exists.1 ((Source.isSome_pattern?_iff given).2 unfailed)
      exact ⟨p, mem_patterns_iff.2 ⟨purpose, found⟩, (Source.pattern?_eq_some found).1⟩
  case pattern =>
    intro p member
    obtain ⟨purpose, found⟩ := mem_patterns_iff.1 member
    obtain ⟨kind, given, same⟩ := Source.pattern?_eq_some found
    rw [kind]
    exact ⟨given, same⟩
  case failure =>
    intro f member
    obtain ⟨purpose, failed⟩ := mem_failures_iff.1 member
    obtain ⟨kind, template, given, error⟩ := Source.failure?_eq_some_iff.1 failed
    rw [kind]
    exact ⟨template, given, error⟩

end Templates
end ReadingLog
