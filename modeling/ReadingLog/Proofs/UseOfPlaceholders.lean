import ReadingLog.Proofs.Expressions
import ReadingLog.Proofs.Occurrences

/-!
# The use of placeholders

Whether a template compiles, and with which error it does not, is told by its text: by where the tokens of the placeholders
stand that its kind accepts. Tokens do not overlap, so cutting the template into segments, which goes on behind each token that
it meets, passes over none of them.
-/

namespace ReadingLog

open Template Text

/-! ## Tokens -/

namespace Placeholder

variable {p q : Placeholder} {s : Text}

theorem notMem_name (p : Placeholder) : '\x7b' ∉ p.name.toList := by cases p <;> decide

/-- No token begins another one. -/
theorem eq_of_begins (start : p.token <+: q.token) : p = q := by
  cases p <;> cases q <;> first | rfl | exact absurd start (by decide)

/-- A text begins with one token at most. -/
theorem eq_of_tokens (here : p.token <+: s) (here' : q.token <+: s) : p = q := by
  rcases Nat.le_total p.token.length q.token.length with short | short
  · exact eq_of_begins (List.prefix_of_prefix_length_le here here' short)
  · exact (eq_of_begins (List.prefix_of_prefix_length_le here' here short)).symm

theorem head_of_begins {c : Char} (start : p.token <+: c :: s) : c = '\x7b' := (List.cons_prefix_cons.1 start).1.symm

theorem mem_all (p : Placeholder) : p ∈ all := by cases p <;> decide

/-- The accepted placeholder whose token a text begins with. -/
def first? (kind : Kind) (s : Text) : Option Placeholder := all.find? fun p => kind.accepts p && p.token.isPrefixOf s

theorem first?_eq_some_iff {kind : Kind} : first? kind s = some p ↔ kind.accepts p ∧ p.token <+: s := by
  constructor
  · intro found
    have matched := List.find?_some found
    rwa [Bool.and_eq_true_iff, List.isPrefixOf_iff_prefix] at matched
  · rintro ⟨accepted, here⟩
    cases found : first? kind s with
    | none =>
      have refused := List.find?_eq_none.1 found p (mem_all p)
      simp [accepted, List.isPrefixOf_iff_prefix.2 here] at refused
    | some q =>
      have matched := List.find?_some found
      rw [Bool.and_eq_true_iff, List.isPrefixOf_iff_prefix] at matched
      rw [eq_of_tokens matched.2 here]

theorem first?_eq_none_of_head {kind : Kind} {c : Char} (inner : c ≠ '\x7b') : first? kind (c :: s) = none := by
  rw [Option.eq_none_iff_forall_ne_some]
  intro p found
  exact inner (head_of_begins (first?_eq_some_iff.1 found).2)

/-- No token begins inside a text without an opening brace. -/
theorem filterMap_tails_append (kind : Kind) {inner : Text} (plain : '\x7b' ∉ inner) (s : Text) :
    (inner ++ s).tails.filterMap (first? kind) = s.tails.filterMap (first? kind) := by
  induction inner with
  | nil => rfl
  | cons c inner ih =>
    have other : c ≠ '\x7b' := fun same => plain (same ▸ List.mem_cons_self)
    rw [List.cons_append, List.tails_cons, List.filterMap_cons_none (first?_eq_none_of_head other)]
    exact ih fun member => plain (List.mem_cons_of_mem _ member)

end Placeholder

open Placeholder

namespace Template.Segment

/-- The placeholder of a slot. -/
def placeholder? : Segment → Option Placeholder
  | slot p => some p
  | literal _ => none

variable {kind : Kind} {p : Placeholder}

theorem filterMap_prependChar (c : Char) (segments : List Segment) :
    (prependChar c segments).filterMap placeholder? = segments.filterMap placeholder? := by
  cases segments with
  | nil => rfl
  | cons segment segments => cases segment <;> rfl

/-- What holds of the segments of a template is kept by each cut: by a token that its kind accepts, and by a character with
    which no such token begins. -/
theorem ofTemplate_induction {motive : Text → List Segment → Prop} (nil : motive [] [])
    (token : ∀ p rest segments, kind.accepts p → motive rest segments → motive (p.token ++ rest) (slot p :: segments))
    (char : ∀ c rest segments, first? kind (c :: rest) = none → motive rest segments →
      motive (c :: rest) (prependChar c segments)) (template : Text) : motive template (ofTemplate kind template) := by
  fun_induction ofTemplate kind template with
  | case1 => exact nil
  | case2 c rest p found ih =>
    obtain ⟨accepted, after, parts⟩ := first?_eq_some_iff.1 found
    have length : p.token.length = p.token.length - 1 + 1 := by simp [Placeholder.token]
    have behind : rest.drop (p.token.length - 1) = after := by
      have cut := congrArg (List.drop p.token.length) parts
      rw [List.drop_left, length, List.drop_succ_cons] at cut
      exact cut.symm
    rw [behind] at ih ⊢
    rw [← parts]
    exact token p after _ accepted ih
  | case3 c rest none ih => exact char c rest _ none ih

/-- The slots of a template are the tokens that stand in it, from left to right. -/
theorem slots_ofTemplate (kind : Kind) (template : Text) :
    (ofTemplate kind template).filterMap placeholder? = template.tails.filterMap (first? kind) := by
  refine ofTemplate_induction
    (motive := fun template segments => segments.filterMap placeholder? = template.tails.filterMap (first? kind))
    ?_ ?_ ?_ template
  case refine_1 =>
    have nothing : first? kind [] = none := by
      rw [Option.eq_none_iff_forall_ne_some]
      intro p found
      exact absurd (List.prefix_nil.1 (first?_eq_some_iff.1 found).2) (by simp [token])
    simp [nothing]
  case refine_2 =>
    intro p rest segments accepted later
    have inner : '\x7b' ∉ p.name.toList ++ ['\x7d'] := by simpa using p.notMem_name
    have here : first? kind (p.token ++ rest) = some p := first?_eq_some_iff.2 ⟨accepted, List.prefix_append ..⟩
    have behind := filterMap_tails_append kind inner rest
    have spelled : p.token ++ rest = '\x7b' :: (p.name.toList ++ ['\x7d'] ++ rest) := rfl
    rw [spelled] at here ⊢
    rw [List.tails_cons, List.filterMap_cons_some here, behind, ← later]
    rfl
  case refine_3 =>
    intro c rest segments none later
    rw [filterMap_prependChar, later, List.tails_cons, List.filterMap_cons_none none]

/-- A placeholder that the kind accepts is counted wherever its token stands. -/
theorem count_ofTemplate (accepted : kind.accepts p) (template : Text) :
    count p (ofTemplate kind template) = occurrences p.token template := by
  have slots (segments : List Segment) : count p segments = (segments.filterMap placeholder?).count p := by
    rw [count, List.count_filterMap, List.count]
    refine List.countP_congr fun segment _ => ?_
    cases segment <;> simp [placeholder?]
  rw [slots, slots_ofTemplate, List.count_filterMap, occurrences]
  refine List.countP_congr fun s _ => ?_
  rw [beq_iff_eq, first?_eq_some_iff, List.isPrefixOf_iff_prefix]
  simp [accepted]

/-- The first slot with a property is the first token of a placeholder with it. -/
theorem findSome?_slots {α : Type} (wanted : Placeholder → Prop) [DecidablePred wanted] (f : Placeholder → α)
    (segments : List Segment) :
    segments.findSome? (fun
      | slot p => if wanted p then some (f p) else none
      | literal _ => none) = ((segments.filterMap placeholder?).find? (wanted ·)).map f := by
  induction segments with
  | nil => rfl
  | cons segment segments ih =>
    cases segment with
    | literal text => simpa [placeholder?] using ih
    | slot p => by_cases here : wanted p <;> simp [placeholder?, here, ih]

end Template.Segment

/-! ## Compiling -/

namespace Template

/-- A placeholder is used by a template. -/
def Uses (template : String) (p : Placeholder) : Prop := 0 < occurrences p.token template.toList

/-- A placeholder is used more than once where its kind accepts it but once. -/
def Repeats (kind : Kind) (template : String) (p : Placeholder) : Prop :=
  kind.accepts p ∧ p ≠ .anything ∧ 1 < occurrences p.token template.toList

/-- The fault for which a template is refused. -/
inductive Flaw (kind : Kind) (template : String) : Error → Prop
  /-- A required placeholder is missing, the first of those that the kind requires. -/
  | missing {before after : List Placeholder} {p : Placeholder} : kind.required = before ++ p :: after →
    (∀ q ∈ before, Uses template q) → ¬ Uses template p → Flaw kind template (.missingPlaceholder template p.name)
  /-- None is missing, and of those that are repeated this one stands first in the template. -/
  | repeated {p : Placeholder} {i : Nat} : (∀ q ∈ kind.required, Uses template q) → Repeats kind template p →
    OccursAt p.token template.toList i →
    (∀ q, Repeats kind template q → ∀ j < i, ¬ OccursAt q.token template.toList j) →
    Flaw kind template (.duplicatePlaceholder template p.name)

variable {kind : Kind} {template : String}

theorem accepts_of_required {p : Placeholder} (required : p ∈ kind.required) : kind.accepts p := by
  cases p with
  | anything => rfl
  | date | book | endPage | finish => exact List.contains_iff_mem.2 required
  | startPage =>
    obtain ⟨log, purpose⟩ := kind
    cases log <;> cases purpose <;> exact absurd required (by decide)

theorem ne_anything_of_required {p : Placeholder} (required : p ∈ kind.required) : p ≠ .anything := by
  rintro rfl
  obtain ⟨log, purpose⟩ := kind
  cases log <;> cases purpose <;> exact absurd required (by decide)

/-- A kind accepts no more than it requires, but for a page to start from and anything. -/
theorem required_of_accepts {p : Placeholder} (accepted : kind.accepts p) (definite : p ≠ .anything) (other : p ≠ .startPage) :
    p ∈ kind.required := by
  cases p with
  | anything => exact absurd rfl definite
  | startPage => exact absurd rfl other
  | date | book | endPage | finish => exact List.contains_iff_mem.1 accepted

theorem count_eq_zero_iff {p : Placeholder} (accepted : kind.accepts p) :
    Segment.count p (Segment.ofTemplate kind template.toList) = 0 ↔ ¬ Uses template p := by
  rw [Segment.count_ofTemplate accepted, Uses]
  omega

theorem find?_missing_eq_some_iff {p : Placeholder} :
    kind.required.find? (fun p => Segment.count p (Segment.ofTemplate kind template.toList) = 0) = some p ↔
      ∃ before after, kind.required = before ++ p :: after ∧ (∀ q ∈ before, Uses template q) ∧ ¬ Uses template p := by
  rw [List.find?_eq_some_iff_append]
  constructor
  · rintro ⟨absent, before, after, parts, present⟩
    have accepted : ∀ q ∈ before ++ p :: after, kind.accepts q := fun q member => accepts_of_required (parts ▸ member)
    refine ⟨before, after, parts, fun q member => ?_, ?_⟩
    · by_contra unused
      have counted := (count_eq_zero_iff (accepted q (List.mem_append_left _ member))).2 unused
      simpa [counted] using present q member
    · exact (count_eq_zero_iff (accepted p (by simp))).1 (by simpa using absent)
  · rintro ⟨before, after, parts, present, absent⟩
    have accepted : ∀ q ∈ before ++ p :: after, kind.accepts q := fun q member => accepts_of_required (parts ▸ member)
    refine ⟨?_, before, after, parts, fun q member => ?_⟩
    · simpa using (count_eq_zero_iff (accepted p (by simp))).2 absent
    · simpa using mt (count_eq_zero_iff (accepted q (List.mem_append_left _ member))).1 (not_not.2 (present q member))

theorem find?_missing_eq_none_iff :
    kind.required.find? (fun p => Segment.count p (Segment.ofTemplate kind template.toList) = 0) = none ↔
      ∀ p ∈ kind.required, Uses template p := by
  simp only [List.find?_eq_none, decide_eq_true_eq]
  refine forall₂_congr fun p required => ?_
  rw [count_eq_zero_iff (accepts_of_required required), not_not]

/-- The search for a placeholder that is used twice meets the first of them in the template. -/
theorem find?_repeated_eq_some_iff {p : Placeholder} :
    (((Segment.ofTemplate kind template.toList).filterMap Segment.placeholder?).find? fun p =>
      p ≠ .anything ∧ 1 < Segment.count p (Segment.ofTemplate kind template.toList)) = some p ↔
    Repeats kind template p ∧ ∃ i, OccursAt p.token template.toList i ∧
      ∀ q, Repeats kind template q → ∀ j < i, ¬ OccursAt q.token template.toList j := by
  have repeats_iff {p : Placeholder} (accepted : kind.accepts p) :
      (p ≠ .anything ∧ 1 < Segment.count p (Segment.ofTemplate kind template.toList)) ↔ Repeats kind template p := by
    rw [Repeats, Segment.count_ofTemplate accepted]
    simp [accepted]
  simp only [Segment.slots_ofTemplate, find?_filterMap_tails, first?_eq_some_iff, decide_eq_true_eq]
  constructor
  · rintro ⟨i, ⟨accepted, here⟩, twice, first⟩
    refine ⟨(repeats_iff accepted).1 twice, i, here, fun q again j before there => ?_⟩
    exact first j before q ⟨again.1, there⟩ ((repeats_iff again.1).2 again)
  · rintro ⟨again, i, here, first⟩
    refine ⟨i, ⟨again.1, here⟩, (repeats_iff again.1).2 again, fun j before q ⟨accepted, there⟩ twice => ?_⟩
    exact first q ((repeats_iff accepted).1 twice) j before there

theorem fault?_eq_some_iff {e : Error} : fault? kind template = some e ↔ Flaw kind template e := by
  have repeated := Segment.findSome?_slots
    (fun p => p ≠ .anything ∧ 1 < Segment.count p (Segment.ofTemplate kind template.toList))
    (fun p => Error.duplicatePlaceholder template p.name) (Segment.ofTemplate kind template.toList)
  rw [fault?]
  constructor
  · intro found
    split at found
    · next p missing =>
      obtain ⟨before, after, parts, present, absent⟩ := find?_missing_eq_some_iff.1 missing
      exact Option.some.inj found ▸ .missing parts present absent
    · next present =>
      obtain ⟨p, first, rfl⟩ := Option.map_eq_some_iff.1 (repeated.symm.trans found)
      obtain ⟨again, i, here, before⟩ := find?_repeated_eq_some_iff.1 first
      exact .repeated (find?_missing_eq_none_iff.1 present) again here before
  · intro flaw
    cases flaw with
    | missing parts present absent =>
      rw [find?_missing_eq_some_iff.2 ⟨_, _, parts, present, absent⟩]
    | repeated present again here before =>
      rw [find?_missing_eq_none_iff.2 present]
      exact repeated.trans (Option.map_eq_some_iff.2 ⟨_, find?_repeated_eq_some_iff.2 ⟨again, _, here, before⟩, rfl⟩)

theorem fault?_eq_none_iff_uses : fault? kind template = none ↔
    (∀ p ∈ kind.required, occurrences p.token template.toList = 1) ∧
    (kind.accepts .startPage → occurrences Placeholder.startPage.token template.toList ≤ 1) := by
  rw [Pattern.fault?_eq_none_iff]
  have used_iff (p : Placeholder) : .slot p ∈ Segment.ofTemplate kind template.toList ↔
      0 < Segment.count p (Segment.ofTemplate kind template.toList) := List.count_pos_iff.symm
  simp only [used_iff]
  constructor
  · rintro ⟨present, single⟩
    refine ⟨fun p required => ?_, fun accepted => ?_⟩
    · rw [← Segment.count_ofTemplate (accepts_of_required required)]
      exact Nat.le_antisymm (single p (ne_anything_of_required required)) (present p required)
    · rw [← Segment.count_ofTemplate accepted]
      exact single _ (by decide)
  · rintro ⟨once, start⟩
    refine ⟨fun p required => ?_, fun p definite => ?_⟩
    · rw [Segment.count_ofTemplate (accepts_of_required required), once p required]
      exact Nat.one_pos
    · by_cases accepted : kind.accepts p
      · rw [Segment.count_ofTemplate accepted]
        by_cases other : p = .startPage
        · exact other ▸ start (other ▸ accepted)
        · exact (once p (required_of_accepts accepted definite other)).le
      · have absent : .slot p ∉ Segment.ofTemplate kind template.toList := fun member =>
          accepted (Segment.accepts_of_mem_ofTemplate member)
        rw [Segment.count, List.count_eq_zero.2 absent]
        exact Nat.zero_le 1

end Template

namespace Pattern

theorem exists_compile_eq_ok_iff {kind : Kind} {template : String} :
    (∃ p, compile template kind = .ok p) ↔ fault? kind template = none := by
  simp only [compile_eq_ok_iff]
  constructor
  · rintro ⟨_, faultless, -⟩
    exact faultless
  · intro faultless
    exact ⟨_, faultless, rfl⟩

/-- A template compiles just when it uses every required placeholder once and no page to start from twice, counted by the tokens
    that stand in it. Otherwise it is refused for its flaw, and never for another cause: the expression that it is written out
    as always reads, since no two groups in it have one name. -/
theorem compile_by_tokens (template : String) (kind : Kind) :
    ((∃ p, compile template kind = .ok p) ↔
      (∀ p ∈ kind.required, occurrences p.token template.toList = 1) ∧
      (kind.accepts .startPage → occurrences Placeholder.startPage.token template.toList ≤ 1)) ∧
    (∀ e, compile template kind = .error e ↔ Flaw kind template e) ∧
    ∀ text, compile template kind ≠ .error (.unusableTemplate text) := by
  refine ⟨exists_compile_eq_ok_iff.trans fault?_eq_none_iff_uses, fun e => compile_eq_error_iff.trans fault?_eq_some_iff, ?_⟩
  intro text refused
  cases fault?_eq_some_iff.1 (compile_eq_error_iff.1 refused)

end Pattern
end ReadingLog
