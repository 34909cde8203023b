import ReadingLog.Proofs.FilledTemplates
import ReadingLog.Proofs.UseOfPlaceholders

/-!
# The one way to cut a template

A template may be cut into literals and slots in many ways that give it back. In one of them only every token is a slot that the
kind of the template accepts and literals reach from slot to slot: `decomposes_iff`.
-/

namespace ReadingLog

open Placeholder

namespace Template.Segment

/-- The segment is literal text. -/
def IsLiteral (segment : Segment) : Prop := ∃ text, segment = literal text

/-- Segments give back a template. They use what its kind accepts, no literal is empty, comes right after another one, or has
    such a token in it. -/
structure Decomposes (kind : Kind) (template : Text) (segments : List Segment) : Prop where
  written : segments.flatMap (fill token) = template
  accepted : ∀ p, slot p ∈ segments → kind.accepts p
  nonempty : literal [] ∉ segments
  apart : segments.IsChain fun a b => ¬ (a.IsLiteral ∧ b.IsLiteral)
  plain : ∀ text, literal text ∈ segments → ∀ p, kind.accepts p → ¬ p.token <:+: text

variable {kind : Kind} {template rest text : Text} {segments : List Segment} {p : Placeholder} {c : Char}

theorem not_isLiteral_slot (p : Placeholder) : ¬ (slot p).IsLiteral := by
  rintro ⟨text, same⟩
  cases same

/-! ## Cutting gives a decomposition -/

theorem decomposes_nil (kind : Kind) : Decomposes kind [] [] :=
  ⟨rfl, fun _ => nofun, List.not_mem_nil, .nil, fun _ => nofun⟩

theorem Decomposes.slot (accepted : kind.accepts p) (parts : Decomposes kind rest segments) :
    Decomposes kind (p.token ++ rest) (.slot p :: segments) where
  written := by rw [List.flatMap_cons, parts.written, fill]
  accepted q member := by
    rcases List.mem_cons.1 member with same | later
    · cases same
      exact accepted
    · exact parts.accepted q later
  nonempty member := parts.nonempty (by simpa using member)
  apart := parts.apart.cons fun _ _ both => not_isLiteral_slot p both.1
  plain text member := parts.plain text (by simpa using member)

/-- A literal is the text that segments begin with, a character more is put in front of it. -/
theorem exists_prependChar (c : Char) (segments : List Segment) : ∃ text after,
    prependChar c segments = literal (c :: text) :: after ∧
    (segments = literal text :: after ∨ text = [] ∧ segments = after ∧ ∀ segment ∈ after.head?, ¬ segment.IsLiteral) := by
  cases segments with
  | nil => exact ⟨[], [], rfl, .inr ⟨rfl, rfl, by simp⟩⟩
  | cons segment segments =>
    cases segment with
    | literal text => exact ⟨text, segments, rfl, .inl rfl⟩
    | slot p => exact ⟨[], .slot p :: segments, rfl, .inr ⟨rfl, rfl, by simpa using not_isLiteral_slot p⟩⟩

theorem Decomposes.prependChar (none : first? kind (c :: rest) = none) (parts : Decomposes kind rest segments) :
    Decomposes kind (c :: rest) (prependChar c segments) := by
  obtain ⟨text, after, whole, from_before⟩ := exists_prependChar c segments
  have written : (Segment.prependChar c segments).flatMap (fill token) = c :: rest := by
    rw [flatMap_fill_prependChar, parts.written]
  have later {segment : Segment} (member : segment ∈ after) : segment ∈ segments := by
    rcases from_before with same | ⟨-, same, -⟩
    · exact same ▸ List.mem_cons_of_mem _ member
    · exact same ▸ member
  have begins : c :: text <+: c :: rest := by
    rw [← written, whole]
    exact List.prefix_append _ _
  rw [whole] at written ⊢
  refine ⟨written, fun p member => ?accepted, fun member => ?nonempty, ?apart, fun other member p accepted inside => ?plain⟩
  case accepted => exact parts.accepted p (later (by simpa using member))
  case nonempty => exact parts.nonempty (later (by simpa using member))
  case apart =>
    rcases from_before with rfl | ⟨-, rfl, first⟩
    · obtain ⟨first, chain⟩ := List.isChain_cons.1 parts.apart
      exact chain.cons fun segment head both => first segment head ⟨⟨text, rfl⟩, both.2⟩
    · exact parts.apart.cons fun segment head both => first segment head both.2
  case plain =>
    rcases List.mem_cons.1 member with same | elsewhere
    · obtain rfl := literal.inj same
      rcases List.infix_cons_iff.1 inside with here | inner
      · have found := first?_eq_some_iff.2 ⟨accepted, here.trans begins⟩
        rw [none] at found
        cases found
      · rcases from_before with rfl | ⟨rfl, -⟩
        · exact parts.plain text List.mem_cons_self p accepted inner
        · exact absurd (List.infix_nil.1 inner) (by simp [token])
    · exact parts.plain other (later elsewhere) p accepted inside

/-- A template is decomposed by its segments. -/
theorem decomposes_ofTemplate (kind : Kind) (template : Text) : Decomposes kind template (ofTemplate kind template) :=
  ofTemplate_induction (decomposes_nil kind) (fun _ _ _ accepted parts => parts.slot accepted)
    (fun _ _ _ none parts => parts.prependChar none) template

/-! ## There is no other one -/

theorem Decomposes.tail {segment : Segment} (parts : Decomposes kind template (segment :: segments)) :
    Decomposes kind (segments.flatMap (fill token)) segments where
  written := rfl
  accepted p member := parts.accepted p (List.mem_cons_of_mem _ member)
  nonempty member := parts.nonempty (List.mem_cons_of_mem _ member)
  apart := parts.apart.tail
  plain text member := parts.plain text (List.mem_cons_of_mem _ member)

theorem Decomposes.begins (parts : Decomposes kind template (.slot p :: segments)) : p.token <+: template :=
  parts.written ▸ List.prefix_append _ _

/-- Behind a literal there is nothing or a slot. -/
theorem Decomposes.slot_of_ne_nil (parts : Decomposes kind template (literal text :: segments)) (more : segments ≠ []) :
    ∃ p after, segments = .slot p :: after ∧ kind.accepts p := by
  cases segments with
  | nil => exact absurd rfl more
  | cons segment after =>
    cases segment with
    | literal other =>
      obtain ⟨first, -⟩ := List.isChain_cons.1 parts.apart
      exact absurd ⟨⟨text, rfl⟩, ⟨other, rfl⟩⟩ (first (literal other) rfl)
    | slot p => exact ⟨p, after, rfl, parts.accepted p (by simp)⟩

/-- No token that is accepted begins within a literal. -/
theorem Decomposes.first?_eq_none (parts : Decomposes kind template (literal text :: segments)) {moved : Text}
    (behind : moved <:+ text) (nonempty : moved ≠ []) : first? kind (moved ++ segments.flatMap (fill token)) = none := by
  rw [Option.eq_none_iff_forall_ne_some]
  intro p found
  obtain ⟨accepted, starts⟩ := first?_eq_some_iff.1 found
  have outside : ¬ p.token <:+: moved := fun inside =>
    parts.plain text List.mem_cons_self p accepted (inside.trans behind.isInfix)
  rcases List.prefix_or_prefix_of_prefix starts (List.prefix_append moved _) with inside | ⟨after, whole⟩
  · exact outside inside.isInfix
  · -- The token would reach into the next one, whose opening brace it has not inside.
    rw [← whole, List.prefix_append_right_inj] at starts
    cases after with
    | nil =>
      rw [List.append_nil] at whole
      exact outside (whole ▸ List.infix_rfl)
    | cons d after =>
      have more : segments ≠ [] := by
        rintro rfl
        exact absurd (List.prefix_nil.1 starts) (List.cons_ne_nil _ _)
      obtain ⟨q, later, rfl, -⟩ := parts.slot_of_ne_nil more
      have brace : d = '\x7b' := (List.cons_prefix_cons.1 starts).1
      obtain ⟨m, moved, rfl⟩ := List.exists_cons_of_ne_nil nonempty
      have inner : moved ++ d :: after = p.name.toList ++ ['\x7d'] := (List.cons.inj whole).2
      have member : '\x7b' ∈ p.name.toList ++ ['\x7d'] := by
        rw [← inner, brace]
        exact List.mem_append_right _ List.mem_cons_self
      exact absurd member (by simpa using p.notMem_name)

/-- No literal that a template begins with is shorter than another one. -/
theorem Decomposes.length_le {text' : Text} {segments' : List Segment}
    (parts : Decomposes kind template (literal text :: segments))
    (parts' : Decomposes kind template (literal text' :: segments')) : text'.length ≤ text.length := by
  by_contra shorter
  have same : text ++ segments.flatMap (fill token) = text' ++ segments'.flatMap (fill token) :=
    parts.written.trans parts'.written.symm
  obtain ⟨moved, rfl⟩ : text <+: text' :=
    List.prefix_of_prefix_length_le ⟨_, same⟩ (List.prefix_append _ _) (by omega)
  have nonempty : moved ≠ [] := by
    rintro rfl
    simp at shorter
  rw [List.append_assoc] at same
  have rest := List.append_cancel_left same
  have more : segments ≠ [] := by
    rintro rfl
    exact nonempty (List.append_eq_nil_iff.1 rest.symm).1
  obtain ⟨q, later, rfl, accepted⟩ := parts.slot_of_ne_nil more
  have begins : q.token <+: moved ++ segments'.flatMap (fill token) := rest ▸ List.prefix_append _ _
  have nothing := parts'.first?_eq_none (List.suffix_append text moved) nonempty
  rw [first?_eq_some_iff.2 ⟨accepted, begins⟩] at nothing
  cases nothing

/-- A literal and a slot never begin the same template. -/
theorem Decomposes.not_slot (parts : Decomposes kind template (literal text :: segments)) {segments' : List Segment}
    (parts' : Decomposes kind template (.slot p :: segments')) : False := by
  have nonempty : text ≠ [] := fun empty => parts.nonempty (empty ▸ List.mem_cons_self)
  have nothing := parts.first?_eq_none List.suffix_rfl nonempty
  have written : text ++ segments.flatMap (fill token) = template := parts.written
  rw [written, first?_eq_some_iff.2 ⟨parts'.accepted p List.mem_cons_self, parts'.begins⟩] at nothing
  cases nothing

theorem Decomposes.ne_nil {segment : Segment} (parts : Decomposes kind template (segment :: segments)) : template ≠ [] := by
  rintro rfl
  obtain ⟨empty, -⟩ := List.append_eq_nil_iff.1 (parts.written : segment.fill token ++ segments.flatMap (fill token) = [])
  cases segment with
  | literal text => exact parts.nonempty (empty ▸ List.mem_cons_self)
  | slot p => exact List.cons_ne_nil _ _ empty

theorem Decomposes.unique {segments' : List Segment} (parts : Decomposes kind template segments)
    (parts' : Decomposes kind template segments') : segments = segments' := by
  induction segments generalizing template segments' with
  | nil =>
    cases segments' with
    | nil => rfl
    | cons segment' segments' => exact absurd parts.written.symm parts'.ne_nil
  | cons segment segments ih =>
    cases segments' with
    | nil => exact absurd parts'.written.symm parts.ne_nil
    | cons segment' segments' =>
      have whole : segment.fill token ++ segments.flatMap (fill token) =
          segment'.fill token ++ segments'.flatMap (fill token) := parts.written.trans parts'.written.symm
      have first : segment = segment' := by
        cases segment with
        | literal text =>
          cases segment' with
          | literal text' =>
            have length : text.length = text'.length := Nat.le_antisymm (parts'.length_le parts) (parts.length_le parts')
            exact congrArg literal (List.append_inj_left whole length)
          | slot q => exact (parts.not_slot parts').elim
        | slot p =>
          cases segment' with
          | literal text' => exact (parts'.not_slot parts).elim
          | slot q => exact congrArg Segment.slot (eq_of_tokens parts.begins parts'.begins)
      subst first
      have rest := List.append_cancel_left whole
      rw [ih parts.tail (rest ▸ parts'.tail)]

/-- The segments of a template decompose it, and no others do: what is written in their order is the template, no literal is
    empty or comes right after another, every slot is for a placeholder that the kind accepts, and the tokens of these stand
    in no literal. -/
theorem decomposes_iff (kind : Kind) (template : Text) (segments : List Segment) :
    Decomposes kind template segments ↔ segments = ofTemplate kind template := by
  constructor
  · intro parts
    exact parts.unique (decomposes_ofTemplate kind template)
  · rintro rfl
    exact decomposes_ofTemplate kind template

-- A day's template may not use a date, and the brace in front of a token belongs to the literal.
example : ofTemplate ⟨.day, .started⟩ "\x7bdate\x7d \x7b\x7bbook\x7d\x7d".toList =
    [.literal "\x7bdate\x7d \x7b".toList, .slot .book, .literal "\x7d".toList] := by decide +kernel

end Template.Segment
end ReadingLog
