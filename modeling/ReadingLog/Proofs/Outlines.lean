import ReadingLog.Markdown.Outline
import ReadingLog.Proofs.ListMarkers

/-!
# Where the blocks of a note stand

Reading a note line by line opens and closes containers. Each item is entered at its marker, and left no earlier than the line
of the marker has ended. This is said of the marks still to come (`Settle`), so that each change to an outline puts its own
marks before them.
-/

namespace ReadingLog.Markdown

/-! ## Lines in a note -/

/-- The end of a line, or of the note. -/
def EndsLine (after : Text) : Prop := ∀ c ∈ after.head?, c = '\n' ∨ c = '\r'

/-- A line stands in a note between what comes before it and the end of the line. -/
structure Line.StandsIn (note : Text) (line : Line) : Prop where
  unbroken : ∀ c ∈ line.text, c ≠ '\n' ∧ c ≠ '\r'
  here : ∃ before after, note = before ++ (line.text ++ after) ∧ before.length = line.start ∧ EndsLine after
  covers : line.start + line.text.length ≤ line.stop
  inside : line.stop ≤ note.length

/-- Lines stand in a note one after the other, from a place on. -/
def StandFrom (note : Text) : Nat → List Line → Prop
  | _, [] => True
  | place, line :: rest => place ≤ line.start ∧ line.StandsIn note ∧ StandFrom note line.stop rest

variable {note : Text}

theorem StandFrom.earlier {place place' : Nat} {lines : List Line} (stand : StandFrom note place lines) (le : place' ≤ place) :
    StandFrom note place' lines := by
  cases lines with
  | nil => trivial
  | cons line rest => exact ⟨Nat.le_trans le stand.1, stand.2⟩

theorem StandFrom.drop {place : Nat} {lines : List Line} (stand : StandFrom note place lines) (n : Nat) :
    StandFrom note place (lines.drop n) := by
  induction n generalizing place lines with
  | zero => exact stand
  | succ n ih =>
    cases lines with
    | nil => trivial
    | cons line rest =>
      obtain ⟨after, here, later⟩ := stand
      have covers := here.covers
      exact ih (later.earlier (by omega))

/-- A line ends with a line feed, a carriage return or both, or with the note. -/
theorem standsIn_of_split (before : Text) {text : Text} (ending after : Text) (unbroken : ∀ c ∈ text, c ≠ '\n' ∧ c ≠ '\r')
    (ends : EndsLine (ending ++ after)) :
    Line.StandsIn (before ++ (text ++ (ending ++ after))) ⟨before.length, text, before.length + text.length + ending.length⟩ where
  unbroken := unbroken
  here := ⟨before, ending ++ after, rfl, rfl, ends⟩
  covers := Nat.le_add_right ..
  inside := by
    simp only [List.length_append]
    omega

theorem standFrom_linesFrom (before pending : Text) (unbroken : ∀ c ∈ pending, c ≠ '\n' ∧ c ≠ '\r') (s : Text) :
    StandFrom (before ++ (pending.reverse ++ s)) before.length (linesFrom before.length pending s) := by
  have turned {pending : Text} (unbroken : ∀ c ∈ pending, c ≠ '\n' ∧ c ≠ '\r') : ∀ c ∈ pending.reverse, c ≠ '\n' ∧ c ≠ '\r' :=
    fun c member => unbroken c (List.mem_reverse.1 member)
  generalize place : before.length = start
  -- What is pending stands right before the rest of the note; a line that ends moves both into what comes before.
  fun_induction linesFrom start pending s generalizing before with
  | case1 start pending empty => trivial
  | case2 start pending more =>
    subst place
    refine ⟨Nat.le_refl _, ?_, trivial⟩
    simpa using standsIn_of_split before [] [] (turned unbroken) nofun
  | case3 start pending rest stop =>
    rename_i ih
    subst place
    have stands := standsIn_of_split before ['\r', '\n'] rest (turned unbroken) (by simp [EndsLine])
    have later := ih (before ++ (pending.reverse ++ ['\r', '\n'])) nofun (by simp [stop]; omega)
    refine ⟨Nat.le_refl _, ?_, ?_⟩
    · simpa using stands
    · simpa using later
  | case4 start pending c rest other ends stop =>
    rename_i ih
    subst place
    have stands := standsIn_of_split before [c] rest (turned unbroken) (by simpa [EndsLine] using ends)
    have later := ih (before ++ (pending.reverse ++ [c])) nofun (by simp [stop]; omega)
    refine ⟨Nat.le_refl _, ?_, ?_⟩
    · simpa using stands
    · simpa using later
  | case5 start pending c rest other goes ih =>
    have longer := ih before (List.forall_mem_cons.2 ⟨not_or.1 goes, unbroken⟩) place
    simpa using longer

theorem standFrom_linesOf (note : Text) : StandFrom note 0 (linesOf note) := standFrom_linesFrom [] [] nofun note

/-! ## Marks to come -/

/-- A container is entered at a place of a note whose line ends by `stop`. An item is entered at its marker. -/
def Enters (note : Text) (tag : Tag) (place stop : Nat) : Prop :=
  tag = .quote ∨ tag = .item ∧ ∃ (l : ItemLine) (after : Text), note.drop place = l.text ++ after ∧
    (∀ c ∈ l.text, c ≠ '\n' ∧ c ≠ '\r') ∧ EndsLine after ∧ place + l.text.length ≤ stop

/-- Marks that settle what is open: each container is left, innermost first and not before `place`, and so is each one that
    they enter, not before its line has ended. -/
inductive Settle (note : Text) : List Tag → Nat → List Mark → Prop
  | done (place : Nat) : Settle note [] place []
  | enter {opened : List Tag} {place here stop : Nat} {tag : Tag} {marks : List Mark} (enters : Enters note tag here stop)
      (later : place ≤ stop) (rest : Settle note (tag :: opened) stop marks) : Settle note opened place (.enter tag here :: marks)
  | leave {opened : List Tag} {place here : Nat} {tag : Tag} {marks : List Mark} (later : place ≤ here)
      (rest : Settle note opened here marks) : Settle note (tag :: opened) place (.leave tag here :: marks)
  | heading {opened : List Tag} {place level : Nat} {content : Text} {span : Span} {marks : List Mark}
      (rest : Settle note opened place marks) : Settle note opened place (.heading level content span :: marks)
  | paragraph {opened : List Tag} {place : Nat} {span : Span} {marks : List Mark}
      (rest : Settle note opened place marks) : Settle note opened place (.paragraph span :: marks)

theorem Settle.earlier {opened : List Tag} {place place' : Nat} {marks : List Mark} (settle : Settle note opened place marks)
    (le : place' ≤ place) : Settle note opened place' marks := by
  induction settle with
  | done => exact .done place'
  | enter enters later rest => exact .enter enters (Nat.le_trans le later) rest
  | leave later rest => exact .leave (Nat.le_trans le later) rest
  | heading _ ih => exact .heading (ih le)
  | paragraph _ ih => exact .paragraph (ih le)

theorem settle_leaves {opened : List Tag} {here : Nat} {marks : List Mark} (rest : Settle note opened here marks)
    (closed : List Container) : Settle note (closed.map Container.tag ++ opened) here
      (closed.map (fun container => .leave container.tag here) ++ marks) := by
  induction closed with
  | nil => exact rest
  | cons container closed ih => exact .leave (Nat.le_refl here) ih

namespace Outline

variable {o : Outline} {place : Nat}

/-- The tags of the open containers, innermost first. -/
def opened (o : Outline) : List Tag := (o.containers.map Container.tag).reverse

/-- An outline of a note up to a place: its marks, and any that settle what is open from there, settle the note. -/
def IsOf (note : Text) (place : Nat) (o : Outline) : Prop :=
  ∀ marks, Settle note o.opened place marks → Settle note [] 0 (o.marks.reverse ++ marks)

theorem isOf_empty (note : Text) : IsOf note 0 empty := fun _ settle => settle

theorem IsOf.later (isOf : o.IsOf note place) {place' : Nat} (le : place ≤ place') : o.IsOf note place' :=
  fun marks settle => isOf marks (settle.earlier le)

theorem IsOf.filled (isOf : o.IsOf note place) : o.filled.IsOf note place := by
  have same : o.filled.opened = o.opened := by
    rw [opened, opened, Outline.filled, List.map_map]
    congr 2
    funext container
    cases container <;> rfl
  intro marks settle
  rw [same] at settle
  exact isOf marks settle

theorem IsOf.heading (isOf : o.IsOf note place) (level : Nat) (content : Text) (span : Span) :
    (o.note (.heading level content span)).IsOf note place := by
  intro marks settle
  rw [Outline.note, List.reverse_cons, List.append_assoc]
  exact isOf _ (.heading settle)

theorem IsOf.paragraph (isOf : o.IsOf note place) (span : Span) : (o.note (.paragraph span)).IsOf note place := by
  intro marks settle
  rw [Outline.note, List.reverse_cons, List.append_assoc]
  exact isOf _ (.paragraph settle)

theorem IsOf.closeTo (isOf : o.IsOf note place) (n : Nat) {here : Nat} (le : place ≤ here) : (o.closeTo n here).IsOf note here := by
  intro marks settle
  have leaves := settle_leaves settle (o.containers.drop n).reverse
  have whole : (o.containers.drop n).reverse.map Container.tag ++ (o.closeTo n here).opened = o.opened := by
    rw [opened, opened, Outline.closeTo, List.map_reverse, ← List.reverse_append, ← List.map_append, List.take_append_drop]
  rw [whole] at leaves
  rw [Outline.closeTo, List.reverse_append, List.append_assoc, ← List.map_reverse]
  exact isOf _ (leaves.earlier le)

theorem IsOf.enter (isOf : o.IsOf note place) {lineStart stop : Nat} {opening : Opening} (le : place ≤ stop)
    (enters : Enters note opening.container.tag (lineStart + opening.place) stop) :
    (o.enter lineStart opening).IsOf note stop := by
  intro marks settle
  have inner : (o.enter lineStart opening).opened = opening.container.tag :: o.filled.opened := by
    simp [opened, Outline.enter]
  rw [inner] at settle
  rw [Outline.enter, List.reverse_cons, List.append_assoc]
  exact isOf.filled _ (.enter enters le settle)

/-! ## Reading on -/

theorem isOf_readText (isOf : o.IsOf note place) (s : Text) (line : Line) (rest : List Line) :
    (o.readText s line rest).1.IsOf note place := by
  fun_induction readText o s line rest with
  | case1 | case2 => exact isOf
  | case3 =>
    rename_i read ih
    have read_on := ih isOf
    rwa [read] at read_on
  | case4 => exact isOf.heading _ _ _
  | case5 => exact isOf.paragraph _

theorem isOf_readLeaf (isOf : o.IsOf note place) (c : Cursor) (line : Line) (rest : List Line) :
    (o.readLeaf c line rest).1.IsOf note place := by
  unfold readLeaf
  split
  · exact isOf
  · exact isOf
  · exact isOf
  · exact isOf.heading _ _ _
  · exact isOf
  · exact isOf_readText isOf _ _ _

end Outline

theorem enters_of_standsIn {line : Line} {opening : Opening} (here : line.StandsIn note) (stands : opening.StandsIn line.text) :
    Enters note opening.container.tag (line.start + opening.place) line.stop := by
  rcases stands with quote | ⟨⟨indent, bare, item⟩, l, text⟩
  · exact .inl (by rw [quote]; rfl)
  · obtain ⟨before, after, rfl, start, ends⟩ := here.here
    have some_text : l.text ≠ [] := by simp [ItemLine.text, l.isMarker.ne_nil]
    have inside : opening.place < line.text.length := by
      rw [text, ne_eq, List.drop_eq_nil_iff, Nat.not_le] at some_text
      exact some_text
    refine .inr ⟨by rw [item]; rfl, l, after, ?_, ?_, ends, ?_⟩
    · rw [← start, ← List.drop_drop, List.drop_left, List.drop_append_of_le_length (Nat.le_of_lt inside), text]
    · intro c member
      rw [text] at member
      exact here.unbroken c (List.mem_of_mem_drop member)
    · have covers := here.covers
      rw [text, List.length_drop]
      omega

namespace Outline

variable {o : Outline} {place : Nat}

theorem isOf_enterAll {line : Line} {openings : List Opening} (here : line.StandsIn note)
    (stand : ∀ opening ∈ openings, opening.StandsIn line.text) (isOf : o.IsOf note line.stop) :
    (openings.foldl (fun o opening => o.enter line.start opening) o).IsOf note line.stop := by
  induction openings generalizing o with
  | nil => exact isOf
  | cons opening openings ih =>
    obtain ⟨first, later⟩ := List.forall_mem_cons.1 stand
    exact ih later (isOf.enter (Nat.le_refl _) (enters_of_standsIn here first))

/-- One more block or blank line. -/
theorem isOf_step {line : Line} (here : line.StandsIn note) (le : place ≤ line.start) (isOf : o.IsOf note place) (rest : List Line) :
    (o.step line rest).1.IsOf note line.stop := by
  have covers : line.start ≤ line.stop := Nat.le_of_add_right_le here.covers
  unfold step
  dsimp only
  have inside := Container.isIn_continueAll (Cursor.isIn_start line.text) o.containers
  generalize Container.continueAll { ahead := line.text } o.containers = continued at *
  have stand : ∀ opening ∈ (openings (line.text.length + 1) continued.2).1, opening.StandsIn line.text :=
    fun opening member => standsIn_of_mem_openings inside member
  generalize openings (line.text.length + 1) continued.2 = opened at *
  have closed : (o.closeTo continued.1 line.start).IsOf note line.start := isOf.closeTo continued.1 le
  have entered := isOf_enterAll here stand (closed.later covers)
  split
  · split
    · -- A bare item ends with a blank line, in which nothing has been opened.
      next nothing =>
      have none : opened.1 = [] := List.isEmpty_iff.1 (Bool.and_eq_true_iff.1 nothing).1
      rw [none]
      exact (closed.closeTo _ (Nat.le_refl _)).later covers
    · exact entered
  · exact isOf_readLeaf entered.filled _ _ _

/-- All lines from a place on. -/
theorem isOf_read {lines : List Line} (stand : StandFrom note place lines) (le : place ≤ note.length)
    (isOf : o.IsOf note place) : (o.read lines).IsOf note note.length := by
  fun_induction read o lines generalizing place with
  | case1 o => exact isOf.later le
  | case2 o line rest =>
    rename_i stepped ih
    obtain ⟨after, here, later⟩ := stand
    have step := isOf_step here after isOf rest
    rw [stepped] at step
    exact ih (later.drop _) here.inside step

/-- The marks of a whole note settle it. -/
theorem settle_ofText (note : Text) : Settle note [] 0 (ofText note).marks.reverse := by
  have closed := (isOf_read (standFrom_linesOf note) (Nat.zero_le _) (isOf_empty note)).closeTo 0 (Nat.le_refl _)
  have settled := closed [] (.done _)
  rwa [List.append_nil] at settled

end Outline
end ReadingLog.Markdown
