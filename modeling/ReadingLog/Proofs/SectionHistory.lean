import Mathlib.Data.List.Basic
import Mathlib.Data.List.Induction
import ReadingLog.Section

/-!
# Sections by the history of headings

Whether an event lies in a wanted section is said here by all headings before it: one of the wanted title is closed, and none
of the same or a higher level after it. `SectionReader` remembers one level only, the highest of those that govern a place;
`Knows` is what ties it to that history, and each event keeps it.
-/

namespace ReadingLog

open Markdown

/-! ## Histories of events -/

namespace Markdown

/-- The blocks that are open after an event, innermost first. It must not close another block than the innermost one, nor
    open a heading within a heading. -/
def nest? (opened : List Tag) : Event → Option (List Tag)
  | .start (.heading level) _ =>
    if opened.any (· matches .heading _) then none else some (.heading level :: opened)
  | .start tag _ => some (tag :: opened)
  | .stop tag => if opened.head? = some tag then some opened.tail else none
  | .text _ | .code _ | .other => some opened

/-- The blocks that are open after some events, unless these are not well nested. -/
def openAfter? (events : List Event) : Option (List Tag) := events.foldlM nest? []

/-- Blocks are closed in the reverse order of opening them, and headings hold no headings. -/
def WellNested (events : List Event) : Prop := (openAfter? events).isSome

instance (events : List Event) : Decidable (WellNested events) := inferInstanceAs (Decidable (_ = true))

/-- What the pieces of text and of code read, one after the other. -/
def words (events : List Event) : Text :=
  events.flatMap fun
    | .text s | .code s => s
    | _ => []

/-- A heading starts or stops. -/
def IsHeadingMark : Event → Prop
  | .start (.heading _) _ | .stop (.heading _) => True
  | _ => False

/-- A heading has started, reads like this so far and has not stopped. -/
def OpenHeading (events : List Event) (level : Nat) (title : Text) : Prop :=
  ∃ earlier span inside, events = earlier ++ .start (.heading level) span :: inside ∧
    (∀ e ∈ inside, ¬ IsHeadingMark e) ∧ words inside = title

/-- A heading has stopped, and these events came after it. -/
def ClosedHeading (events : List Event) (level : Nat) (title : Text) (later : List Event) : Prop :=
  ∃ earlier, events = earlier ++ .stop (.heading level) :: later ∧ OpenHeading earlier level title

end Markdown

/-- A heading of the wanted title is closed, and after it none of the same or a higher level. -/
def GovernedBy (wanted : Text) (before : List Markdown.Event) (level : Nat) : Prop :=
  ∃ title later, ClosedHeading before level title later ∧ title.trim = wanted.trim ∧
    ∀ other, .stop (.heading other) ∈ later → level < other

/-- What comes after these events lies in a wanted section. -/
def InSection (wanted : Text) (before : List Markdown.Event) : Prop := ∃ level, GovernedBy wanted before level

/-- What comes after these events lies in a list item. -/
def InItem (before : List Markdown.Event) : Prop := ∃ opened, openAfter? before = some opened ∧ .item ∈ opened

/-! ## One more event -/

namespace Markdown

theorem words_concat (events : List Event) (event : Event) : words (events ++ [event]) = words events ++ words [event] := by
  simp [words]

theorem openAfter?_concat (events : List Event) (event : Event) :
    openAfter? (events ++ [event]) = (openAfter? events).bind (nest? · event) := by
  simp [openAfter?, List.foldlM_append, bind]

theorem WellNested.of_append {events later : List Event} (nested : WellNested (events ++ later)) : WellNested events := by
  unfold WellNested openAfter? at *
  rw [List.foldlM_append] at nested
  exact Option.isSome_of_isSome_bind nested

/-- The last event of a split is the one that it is made at, or lies after it. -/
theorem concat_eq_iff {events earlier inside : List Event} {last here : Event} :
    events ++ [last] = earlier ++ here :: inside ↔
      events = earlier ∧ last = here ∧ inside = [] ∨
      ∃ inner, inside = inner ++ [last] ∧ events = earlier ++ here :: inner := by
  constructor
  · intro split
    rcases List.eq_nil_or_concat' inside with rfl | ⟨inner, final, rfl⟩
    · obtain ⟨same, same'⟩ := List.append_inj' split rfl
      exact .inl ⟨same, (List.cons.inj same').1, rfl⟩
    · rw [← List.cons_append, ← List.append_assoc] at split
      obtain ⟨same, same'⟩ := List.append_inj' split rfl
      obtain rfl := (List.cons.inj same').1
      exact .inr ⟨inner, rfl, same⟩
  · rintro (⟨rfl, rfl, rfl⟩ | ⟨inner, rfl, rfl⟩)
    · rfl
    · simp

/-- A block that closes is the innermost one. -/
theorem of_stop {opened opened' : List Tag} {tag : Tag} (step : nest? opened (.stop tag) = some opened') :
    opened = tag :: opened' := by
  simp only [nest?, Option.ite_none_right_eq_some, Option.some.injEq] at step
  obtain ⟨innermost, rfl⟩ := step
  obtain ⟨outer, rfl⟩ := List.head?_eq_some_iff.1 innermost
  rfl

theorem openHeading_start {events : List Event} {opened level : Nat} {span : Span} {title : Text} :
    OpenHeading (events ++ [.start (.heading opened) span]) level title ↔ level = opened ∧ title = [] := by
  constructor
  · rintro ⟨earlier, span', inside, split, plain, rfl⟩
    rcases concat_eq_iff.1 split with ⟨-, same, rfl⟩ | ⟨inner, rfl, -⟩
    · cases same
      exact ⟨rfl, rfl⟩
    · exact (plain _ (List.mem_append_right _ (List.mem_singleton_self _)) trivial).elim
  · rintro ⟨rfl, rfl⟩
    exact ⟨events, span, [], rfl, by simp, rfl⟩

theorem not_openHeading_stop {events : List Event} {closed level : Nat} {title : Text} :
    ¬ OpenHeading (events ++ [.stop (.heading closed)]) level title := by
  rintro ⟨earlier, span, inside, split, plain, rfl⟩
  rcases concat_eq_iff.1 split with ⟨-, same, -⟩ | ⟨inner, rfl, -⟩
  · cases same
  · exact (plain _ (List.mem_append_right _ (List.mem_singleton_self _)) trivial).elim

theorem openHeading_plain {events : List Event} {event : Event} (plain : ¬ IsHeadingMark event) {level : Nat}
    {title : Text} :
    OpenHeading (events ++ [event]) level title ↔ ∃ read, OpenHeading events level read ∧ title = read ++ words [event] := by
  constructor
  · rintro ⟨earlier, span, inside, split, plain', rfl⟩
    rcases concat_eq_iff.1 split with ⟨-, rfl, -⟩ | ⟨inner, rfl, rfl⟩
    · exact absurd trivial plain
    · exact ⟨words inner, ⟨earlier, span, inner, rfl, fun e member => plain' e (by simp [member]), rfl⟩, words_concat ..⟩
  · rintro ⟨_, ⟨earlier, span, inside, rfl, plain', rfl⟩, rfl⟩
    refine ⟨earlier, span, inside ++ [event], by simp, ?_, words_concat ..⟩
    intro e member
    rcases List.mem_append.1 member with inner | last
    · exact plain' e inner
    · rwa [List.mem_singleton.1 last]

theorem not_openHeading_nil {level : Nat} {title : Text} : ¬ OpenHeading [] level title := by
  rintro ⟨earlier, span, inside, split, -, -⟩
  simp at split

end Markdown

theorem not_governedBy_nil {wanted : Text} {level : Nat} : ¬ GovernedBy wanted [] level := by
  rintro ⟨title, later, ⟨earlier, split, -⟩, -, -⟩
  simp at split

/-- An event that closes no heading changes nothing in what governs. -/
theorem governedBy_concat {wanted : Text} {before : List Markdown.Event} {event : Markdown.Event}
    (other : ∀ closed, event ≠ .stop (.heading closed)) {level : Nat} :
    GovernedBy wanted (before ++ [event]) level ↔ GovernedBy wanted before level := by
  constructor
  · rintro ⟨title, later, ⟨earlier, split, heading⟩, wantedTitle, lower⟩
    rcases concat_eq_iff.1 split with ⟨-, same, -⟩ | ⟨inner, rfl, rfl⟩
    · exact absurd same (other level)
    · exact ⟨title, inner, ⟨earlier, rfl, heading⟩, wantedTitle, fun closed member => lower closed (by simp [member])⟩
  · rintro ⟨title, later, ⟨earlier, rfl, heading⟩, wantedTitle, lower⟩
    refine ⟨title, later ++ [event], ⟨earlier, by simp, heading⟩, wantedTitle, fun closed member => ?_⟩
    rcases List.mem_append.1 member with inner | last
    · exact lower closed inner
    · exact absurd (List.mem_singleton.1 last).symm (other closed)

/-- A heading that closes ends what headings of its own and lower levels govern, and governs itself if it has the wanted
    title. -/
theorem governedBy_stop {wanted : Text} {before : List Markdown.Event} {closed level : Nat} :
    GovernedBy wanted (before ++ [.stop (.heading closed)]) level ↔
      GovernedBy wanted before level ∧ level < closed ∨
      level = closed ∧ ∃ title, OpenHeading before closed title ∧ title.trim = wanted.trim := by
  constructor
  · rintro ⟨title, later, ⟨earlier, split, heading⟩, wantedTitle, lower⟩
    rcases concat_eq_iff.1 split with ⟨rfl, same, -⟩ | ⟨inner, rfl, rfl⟩
    · cases same
      exact .inr ⟨rfl, title, heading, wantedTitle⟩
    · exact .inl ⟨⟨title, inner, ⟨earlier, rfl, heading⟩, wantedTitle, fun other member => lower other (by simp [member])⟩,
        lower closed (by simp)⟩
  · rintro (⟨⟨title, later, ⟨earlier, rfl, heading⟩, wantedTitle, lower⟩, below⟩ | ⟨rfl, title, heading, wantedTitle⟩)
    · refine ⟨title, later ++ [.stop (.heading closed)], ⟨earlier, by simp, heading⟩, wantedTitle, fun other member => ?_⟩
      rcases List.mem_append.1 member with inner | last
      · exact lower other inner
      · cases List.mem_singleton.1 last
        exact below
    · exact ⟨title, [], ⟨before, rfl, heading⟩, wantedTitle, by simp⟩

/-! ## What the reader knows -/

namespace SectionReader

/-- What is known after some events, from the first one on. -/
def afterAll (wanted : Text) (events : List Markdown.Event) : SectionReader := events.foldl (after wanted) {}

theorem afterAll_concat (wanted : Text) (events : List Markdown.Event) (event : Markdown.Event) :
    afterAll wanted (events ++ [event]) = (afterAll wanted events).after wanted event := by
  simp [afterAll]

/-- What a reader knows of the events before it and of the blocks that they leave open. -/
structure Knows (wanted : Text) (before : List Markdown.Event) (opened : List Tag) (r : SectionReader) : Prop where
  /-- The only heading that can be open is the one being read. -/
  headings : opened.filter (· matches .heading _) = (r.heading.map Tag.heading).toList
  items : opened.count .item = r.depth
  title : ∀ level title, OpenHeading before level title ↔ r.heading = some level ∧ r.title = title
  /-- The level that is remembered governs, and it is the highest that does. -/
  governs : ∀ level, r.level = some level → GovernedBy wanted before level
  highest : ∀ level, GovernedBy wanted before level → ∃ first, r.level = some first ∧ first ≤ level

theorem knows_nil (wanted : Text) : Knows wanted [] [] {} where
  headings := rfl
  items := rfl
  title := by simp [not_openHeading_nil]
  governs := by simp
  highest := fun _ governed => absurd governed not_governedBy_nil

variable {wanted : Text} {before : List Markdown.Event} {opened opened' : List Tag} {r : SectionReader}

/-- An event that is no heading mark adds to the title being read, if there is one, and to nothing else that is known of
    headings. -/
theorem Knows.plain {r' : SectionReader} (knows : Knows wanted before opened r) {event : Markdown.Event}
    (plain : ¬ IsHeadingMark event) (level : r'.level = r.level) (heading : r'.heading = r.heading)
    (title : r.heading.isSome → r'.title = r.title ++ words [event])
    (headings : opened'.filter (· matches .heading _) = opened.filter (· matches .heading _))
    (items : opened'.count .item = r'.depth) : Knows wanted (before ++ [event]) opened' r' := by
  have other : ∀ closed, event ≠ .stop (.heading closed) := by
    rintro closed rfl
    exact plain trivial
  refine ⟨?_, items, fun l t => ?_, fun l => ?_, fun l => ?_⟩
  · rw [headings, knows.headings, heading]
  · rw [openHeading_plain plain, heading]
    constructor
    · rintro ⟨read, reading, rfl⟩
      obtain ⟨here, rfl⟩ := (knows.title l read).1 reading
      exact ⟨here, title (by rw [here]; rfl)⟩
    · rintro ⟨here, rfl⟩
      exact ⟨r.title, (knows.title l r.title).2 ⟨here, rfl⟩, title (by rw [here]; rfl)⟩
  · rw [governedBy_concat other, level]
    exact knows.governs l
  · rw [governedBy_concat other, level]
    exact knows.highest l

theorem Knows.start_heading (knows : Knows wanted before opened r) {level : Nat} {span : Span}
    (step : nest? opened (.start (.heading level) span) = some opened') :
    Knows wanted (before ++ [.start (.heading level) span]) opened' (r.after wanted (.start (.heading level) span)) := by
  have other : ∀ closed, Markdown.Event.start (.heading level) span ≠ .stop (.heading closed) := by simp
  simp only [nest?, Option.ite_none_left_eq_some, Option.some.injEq] at step
  obtain ⟨single, rfl⟩ := step
  have none' : opened.filter (· matches .heading _) = [] := by simpa using single
  refine ⟨?_, ?_, fun l t => ?_, fun l => ?_, fun l => ?_⟩
  · simp [after, none']
  · simpa [after] using knows.items
  · rw [openHeading_start]
    simp [after, eq_comm]
  · rw [governedBy_concat other]
    exact knows.governs l
  · rw [governedBy_concat other]
    exact knows.highest l

/-- The heading that closes is the one that is being read. -/
theorem Knows.heading_of_stop (knows : Knows wanted before opened r) {closed : Nat}
    (step : nest? opened (.stop (.heading closed)) = some opened') :
    r.heading = some closed ∧ opened = .heading closed :: opened' ∧ opened'.filter (· matches .heading _) = [] := by
  obtain rfl := of_stop step
  have only := knows.headings
  cases reading : r.heading with
  | none => simp [reading] at only
  | some level =>
    simp only [reading, List.filter_cons_of_pos, Option.map_some, Option.toList_some, List.cons.injEq,
      Tag.heading.injEq] at only
    obtain ⟨rfl, rest⟩ := only
    exact ⟨rfl, rfl, rest⟩

/-- What is remembered once a heading closes: the level that was, where it is higher, else that of the heading, if it has the
    wanted title. -/
theorem level_closeHeading {closed : Nat} (reading : r.heading = some closed) {level : Nat} :
    (r.closeHeading wanted).level = some level ↔
      r.level = some level ∧ level < closed ∨
      level = closed ∧ (∀ first, r.level = some first → closed ≤ first) ∧ r.title.trim = wanted.trim := by
  simp only [closeHeading, reading]
  cases remembered : r.level with
  | none => simp [eq_comm, and_comm]
  | some first =>
    by_cases covered : closed ≤ first
    · have ended : ¬ (first = level ∧ level < closed) := by omega
      simp [covered, ended, and_comm, eq_comm (a := closed)]
    · have kept : first = level → level < closed := by omega
      simpa [covered] using kept

theorem Knows.governs_closeHeading (knows : Knows wanted before opened r) {closed : Nat} (reading : r.heading = some closed)
    (level : Nat) (remembered : (r.closeHeading wanted).level = some level) :
    GovernedBy wanted before level ∧ level < closed ∨ level = closed ∧ r.title.trim = wanted.trim := by
  rcases (level_closeHeading reading).1 remembered with ⟨was, below⟩ | ⟨rfl, -, same⟩
  · exact .inl ⟨knows.governs level was, below⟩
  · exact .inr ⟨rfl, same⟩

theorem Knows.highest_closeHeading (knows : Knows wanted before opened r) {closed : Nat} (reading : r.heading = some closed)
    (level : Nat)
    (governed : GovernedBy wanted before level ∧ level < closed ∨ level = closed ∧ r.title.trim = wanted.trim) :
    ∃ first, (r.closeHeading wanted).level = some first ∧ first ≤ level := by
  rcases governed with ⟨governed, below⟩ | ⟨rfl, same⟩
  · obtain ⟨first, was, le⟩ := knows.highest level governed
    exact ⟨first, (level_closeHeading reading).2 (.inl ⟨was, by omega⟩), le⟩
  · by_cases higher : ∃ first, r.level = some first ∧ first < level
    · obtain ⟨first, was, lt⟩ := higher
      exact ⟨first, (level_closeHeading reading).2 (.inl ⟨was, lt⟩), Nat.le_of_lt lt⟩
    · have covered : ∀ first, r.level = some first → level ≤ first := by
        intro first was
        by_contra less
        exact higher ⟨first, was, by omega⟩
      exact ⟨level, (level_closeHeading reading).2 (.inr ⟨rfl, covered, same⟩), Nat.le_refl _⟩

theorem Knows.stop_heading (knows : Knows wanted before opened r) {closed : Nat}
    (step : nest? opened (.stop (.heading closed)) = some opened') :
    Knows wanted (before ++ [.stop (.heading closed)]) opened' (r.after wanted (.stop (.heading closed))) := by
  obtain ⟨reading, rfl, none'⟩ := knows.heading_of_stop step
  have titled : (∃ title, OpenHeading before closed title ∧ title.trim = wanted.trim) ↔ r.title.trim = wanted.trim := by
    constructor
    · rintro ⟨title, isOpen, same⟩
      rwa [((knows.title closed title).1 isOpen).2]
    · intro same
      exact ⟨r.title, (knows.title closed r.title).2 ⟨reading, rfl⟩, same⟩
  have depth : (r.closeHeading wanted).depth = r.depth := by simp [closeHeading, reading]
  have heading : (r.closeHeading wanted).heading = none := by simp [closeHeading, reading]
  refine ⟨?_, ?_, fun l t => ?_, fun l => ?_, fun l => ?_⟩
  · simp only [after, heading, none', Option.map_none, Option.toList_none]
  · simpa [after, depth] using knows.items
  · simp [after, heading, not_openHeading_stop]
  · rw [governedBy_stop, titled]
    exact knows.governs_closeHeading reading l
  · rw [governedBy_stop, titled]
    exact knows.highest_closeHeading reading l

theorem Knows.step (knows : Knows wanted before opened r) {event : Markdown.Event}
    (step : nest? opened event = some opened') :
    Knows wanted (before ++ [event]) opened' (r.after wanted event) := by
  cases event with
  | start tag span =>
    cases tag with
    | heading level => exact knows.start_heading step
    | item =>
      obtain rfl : .item :: opened = opened' := by simpa [nest?] using step
      refine knows.plain id rfl rfl (by simp [after, words]) (by simp) ?_
      simpa [after] using knows.items
    | paragraph | quote | other =>
      simp only [nest?, Option.some.injEq] at step
      obtain rfl := step
      exact knows.plain id rfl rfl (by simp [after, words]) (by simp) (by simpa [after] using knows.items)
  | stop tag =>
    cases tag with
    | heading level => exact knows.stop_heading step
    | item =>
      obtain rfl := of_stop step
      refine knows.plain id rfl rfl (by simp [after, words]) (by simp) ?_
      have items := knows.items
      simp only [List.count_cons_self] at items
      simp only [after]
      omega
    | paragraph | quote | other =>
      obtain rfl := of_stop step
      exact knows.plain id rfl rfl (by simp [after, words]) (by simp) (by simpa [after] using knows.items)
  | text s | code s =>
    obtain rfl : opened = opened' := by simpa [nest?] using step
    simp only [after]
    split
    · exact knows.plain id rfl rfl (by simp [words]) rfl knows.items
    · next quiet => exact knows.plain id rfl rfl (fun reading => absurd reading quiet) rfl knows.items
  | other =>
    obtain rfl : opened = opened' := by simpa [nest?] using step
    exact knows.plain id rfl rfl (by simp [after, words]) rfl knows.items

/-- What a reader knows after any events that are well nested. -/
theorem knows_afterAll (wanted : Text) {events : List Markdown.Event} {opened : List Tag}
    (nested : openAfter? events = some opened) :
    Knows wanted events opened (afterAll wanted events) := by
  induction events using List.reverseRecOn generalizing opened with
  | nil =>
    obtain rfl : [] = opened := by simpa [openAfter?] using nested
    exact knows_nil wanted
  | append_singleton events event ih =>
    rw [openAfter?_concat, Option.bind_eq_some_iff] at nested
    obtain ⟨middle, earlier, step⟩ := nested
    rw [afterAll_concat]
    exact (ih earlier).step step

theorem level_isSome_iff (wanted : Text) {events : List Markdown.Event} (nested : WellNested events) :
    (afterAll wanted events).level.isSome ↔ InSection wanted events := by
  obtain ⟨opened, nested⟩ := Option.isSome_iff_exists.1 nested
  have knows := knows_afterAll wanted nested
  constructor
  · intro remembered
    obtain ⟨level, remembered⟩ := Option.isSome_iff_exists.1 remembered
    exact ⟨level, knows.governs level remembered⟩
  · rintro ⟨level, governed⟩
    obtain ⟨first, remembered, -⟩ := knows.highest level governed
    rw [remembered]
    rfl

theorem depth_eq_zero_iff (wanted : Text) {events : List Markdown.Event} (nested : WellNested events) :
    (afterAll wanted events).depth = 0 ↔ ¬ InItem events := by
  obtain ⟨opened, nested⟩ := Option.isSome_iff_exists.1 nested
  rw [← (knows_afterAll wanted nested).items, List.count_eq_zero]
  simp [InItem, nested]

end SectionReader
end ReadingLog
