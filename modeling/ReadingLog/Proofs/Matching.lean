import ReadingLog.Proofs.Splits
import ReadingLog.Template.Pattern

/-!
# What a line records

A line records something by a pattern when the first of its splits gives numbers that are positions and a piece that tells a
date. `Pattern.Records` says so without computing, and `Pattern.match?_eq` is that `Pattern.match?` answers accordingly.
-/

namespace ReadingLog

open Template

/-! ## The pieces of placeholders -/

namespace Template.Segment

/-- A split gives a piece to a placeholder. -/
def Gives (segments : List Segment) (pieces : List Text) (p : Placeholder) (piece : Text) : Prop :=
  (slot p, piece) ∈ segments.zip pieces

/-- A slot for anything stands somewhere before the slot for the date. -/
def DateAfterAnything (segments : List Segment) : Prop :=
  ∃ before after, segments = before ++ slot .anything :: after ∧ slot .date ∈ after

theorem gives_unique {segments : List Segment} {pieces : List Text} {p : Placeholder} {piece piece' : Text}
    (once : count p segments ≤ 1) (first : Gives segments pieces p piece) (second : Gives segments pieces p piece') :
    piece = piece' := by
  induction segments generalizing pieces with
  | nil => simp [Gives] at first
  | cons segment segments ih =>
    cases pieces with
    | nil => simp [Gives] at first
    | cons head pieces =>
      simp only [Gives, List.zip_cons_cons, List.mem_cons, Prod.mk.injEq] at first second
      simp only [count, List.count_cons] at once
      -- Where the head is the slot, no other segment is.
      have alone (here : slot p = segment) (text : Text) : (slot p, text) ∉ segments.zip pieces := by
        intro later
        have member := List.count_pos_iff.2 (List.of_mem_zip later).1
        simp only [← here, BEq.rfl, if_true] at once
        omega
      rcases first with ⟨here, rfl⟩ | later <;> rcases second with ⟨here', rfl⟩ | later'
      · rfl
      · exact absurd later' (alone here _)
      · exact absurd later (alone here' _)
      · exact ih (by rw [count]; omega) later later'

theorem piece?_eq_some_iff {segments : List Segment} {pieces : List Text} {p : Placeholder} {piece : Text}
    (once : count p segments ≤ 1) : piece? p segments pieces = some piece ↔ Gives segments pieces p piece := by
  have sound {text : Text} (found : piece? p segments pieces = some text) : Gives segments pieces p text := by
    obtain ⟨⟨segment, _⟩, first, rfl⟩ := Option.map_eq_some_iff.1 found
    obtain rfl : segment = slot p := by simpa using List.find?_some first
    exact List.mem_of_find?_eq_some first
  refine ⟨sound, fun given => ?_⟩
  cases found : piece? p segments pieces with
  | some text => rw [gives_unique once given (sound found)]
  | none =>
    simp only [piece?, Option.map_eq_none_iff, List.find?_eq_none] at found
    simpa using found _ given

theorem exists_gives_iff {segments : List Segment} {pieces : List Text} {p : Placeholder}
    (all : segments.length = pieces.length) : (∃ piece, Gives segments pieces p piece) ↔ slot p ∈ segments := by
  constructor
  · rintro ⟨piece, given⟩
    exact (List.of_mem_zip given).1
  · intro member
    obtain ⟨i, inside, place⟩ := List.getElem_of_mem member
    refine ⟨pieces[i], List.mem_iff_getElem.2 ⟨i, ?_, ?_⟩⟩
    · simpa [all] using all ▸ inside
    · simp [place]

theorem piece?_eq_none_iff {segments : List Segment} {pieces : List Text} {p : Placeholder}
    (all : segments.length = pieces.length) (once : count p segments ≤ 1) :
    piece? p segments pieces = none ↔ slot p ∉ segments := by
  rw [← exists_gives_iff all, Option.eq_none_iff_forall_ne_some, not_exists]
  simp only [ne_eq, piece?_eq_some_iff once]

/-- A slot for anything stands before the date if it stands before the only date that there is. -/
theorem dateAfterAnything_iff {left right : List Segment} (absent : slot .date ∉ right) :
    DateAfterAnything (left ++ slot .date :: right) ↔ slot .anything ∈ left := by
  constructor
  · rintro ⟨before, after, parts, later⟩
    rcases List.append_eq_append_iff.1 parts with ⟨between, rfl, rest⟩ | ⟨between, rfl, rest⟩
    · cases between with
      | nil => cases rest
      | cons _ between =>
        obtain ⟨-, rfl⟩ := List.cons.inj rest
        exact absurd (List.mem_append_right _ (List.mem_cons_of_mem _ later)) absent
    · cases between with
      | nil => cases rest
      | cons _ between =>
        obtain ⟨rfl, -⟩ := List.cons.inj rest
        exact List.mem_append_right _ List.mem_cons_self
  · intro anything
    obtain ⟨before, between, rfl⟩ := List.append_of_mem anything
    exact ⟨before, between ++ slot .date :: right, by rw [List.append_assoc, List.cons_append], by simp⟩

theorem dateFollowsAnything_iff {segments : List Segment} (once : count .date segments = 1) :
    dateFollowsAnything segments ↔ DateAfterAnything segments := by
  obtain ⟨left, right, rfl, absent⟩ :=
    List.eq_append_cons_of_mem (List.count_pos_iff.1 (by rw [← count, once]; exact Nat.one_pos : 0 < segments.count (slot .date)))
  have absent' : slot .date ∉ right := by
    rw [count, List.count_append, List.count_cons_self] at once
    exact List.count_eq_zero.1 (by omega)
  have early : (left ++ slot .date :: right).takeWhile (· != slot .date) = left := by
    rw [List.takeWhile_append_of_pos fun segment inside => by simpa using fun same : segment = slot .date => absent (same ▸ inside)]
    simp
  rw [dateFollowsAnything, early, List.contains_iff_mem, dateAfterAnything_iff absent']

/-! ## The placeholders of a kind -/

theorem mem_prependChar_iff {c : Char} {segments : List Segment} {p : Placeholder} :
    slot p ∈ prependChar c segments ↔ slot p ∈ segments := by
  cases segments with
  | nil => simp [prependChar]
  | cons segment segments => cases segment <;> simp [prependChar]

/-- Only the placeholders that a kind accepts are slots in its templates. -/
theorem accepts_of_mem_ofTemplate {kind : Kind} {template : Text} {p : Placeholder}
    (member : slot p ∈ ofTemplate kind template) :
    kind.accepts p := by
  fun_induction ofTemplate kind template with
  | case1 => simp at member
  | case2 c rest q found ih =>
    rcases List.mem_cons.1 member with here | later
    · cases here
      have matched := List.find?_some found
      exact (Bool.and_eq_true_iff.1 matched).1
    · exact ih later
  | case3 c rest _ ih => exact ih (mem_prependChar_iff.1 member)

end Template.Segment

namespace Pattern

/-- A template has no fault when it uses every required placeholder, and none twice except that for anything. -/
theorem fault?_eq_none_iff {kind : Kind} {template : String} : fault? kind template = none ↔
    (∀ q ∈ kind.required, .slot q ∈ Segment.ofTemplate kind template.toList) ∧
    ∀ q ≠ .anything, Segment.count q (Segment.ofTemplate kind template.toList) ≤ 1 := by
  simp only [fault?]
  generalize Segment.ofTemplate kind template.toList = segments
  have present_iff (q : Placeholder) : .slot q ∈ segments ↔ Segment.count q segments ≠ 0 := by
    rw [Segment.count, Nat.ne_zero_iff_zero_lt, List.count_pos_iff]
  simp only [present_iff]
  split
  · next q missing =>
    have required := List.mem_of_find?_eq_some missing
    have absent : Segment.count q segments = 0 := by simpa using List.find?_some missing
    simp only [reduceCtorEq, false_iff, not_and]
    exact fun present => absurd absent (present q required)
  · next present =>
    simp only [List.find?_eq_none, decide_eq_true_eq] at present
    simp only [List.findSome?_eq_none_iff]
    constructor
    · intro single
      refine ⟨present, fun q definite => ?_⟩
      by_cases member : .slot q ∈ segments
      · have few := single _ member
        simp only [definite, ne_eq, not_false_eq_true, true_and, ite_eq_right_iff, reduceCtorEq, imp_false] at few
        exact Nat.le_of_not_lt few
      · rw [Segment.count, List.count_eq_zero.2 member]
        exact Nat.zero_le 1
    · rintro ⟨_, single⟩ segment _
      cases segment with
      | literal _ => rfl
      | slot q =>
        simp only [ite_eq_right_iff, reduceCtorEq, imp_false, not_and]
        exact fun definite => Nat.not_lt.2 (single q definite)

theorem mem_of_required (p : Pattern) {q : Placeholder} (required : q ∈ p.kind.required) : .slot q ∈ p.segments :=
  (fault?_eq_none_iff.1 p.faultless).1 q required

theorem count_le_one (p : Pattern) {q : Placeholder} (definite : q ≠ .anything) : Segment.count q p.segments ≤ 1 :=
  (fault?_eq_none_iff.1 p.faultless).2 q definite

theorem count_of_required (p : Pattern) {q : Placeholder} (required : q ∈ p.kind.required) (definite : q ≠ .anything) :
    Segment.count q p.segments = 1 :=
  Nat.le_antisymm (p.count_le_one definite) (List.count_pos_iff.2 (p.mem_of_required required))

theorem notMem_of_not_accepts (p : Pattern) {q : Placeholder} (foreign : p.kind.accepts q = false) :
    .slot q ∉ p.segments := by
  intro member
  have accepted := Segment.accepts_of_mem_ofTemplate member
  rw [foreign] at accepted
  contradiction

theorem findSome?_filter {α β : Type} (keeps : α → Bool) (f : α → Option β) (l : List α) :
    (l.filter keeps).findSome? f = l.findSome? fun a => if keeps a then f a else none := by
  induction l with
  | nil => rfl
  | cons a l ih => by_cases kept : keeps a <;> simp [List.findSome?_cons, kept, ih]

/-! ## Recording -/

/-- The pieces give an action: the one the pattern is for, and for progress the positions that the numbers are. -/
def GivesAction (p : Pattern) (pieces : List Text) (action : Action) : Prop :=
  match p.kind.purpose with
  | .started => action = .started
  | .finished => action = .finished
  | .abandoned => action = .abandoned
  | .progress => ∃ start stop,
      (match start with
        | none => .slot .startPage ∉ p.segments
        | some page => ∃ piece, Segment.Gives p.segments pieces .startPage piece ∧ Position.page? piece = some page) ∧
      (∃ piece, Segment.Gives p.segments pieces .endPage piece ∧ Position.page? piece = some stop) ∧
      action = .progress start stop
  | .relativeProgress => ∃ stop,
      (∃ piece, Segment.Gives p.segments pieces .finish piece ∧ Position.percent? piece = some stop) ∧
      action = .progress none stop

/-- A candidate that ends a text and is a date as the layout spells it. -/
def EndsAs (p : Pattern) (text candidate : Text) (date : Date) : Prop :=
  candidate <:+ text ∧ p.layout.parse? candidate = some date ∧ p.layout.format date = candidate

/-- A piece tells a date: trimmed it is one in the layout, or it is none and follows a slot for anything, and then the date
    is the first of the candidates in it that end it and are spelled as the layout spells them. -/
def TellsDate (p : Pattern) (piece : Text) (date : Date) : Prop :=
  p.layout.parse? piece.trim = some date ∨
  p.layout.parse? piece.trim = none ∧ Segment.DateAfterAnything p.segments ∧
    ∃ before candidate after, p.layout.candidates piece.trim = before ++ candidate :: after ∧
      p.EndsAs piece.trim candidate date ∧ ∀ earlier ∈ before, ∀ other, ¬ p.EndsAs piece.trim earlier other

/-- What a split of a line records. A line of a book's note has a date of its own and names no book, a line of a day's note
    names a book and has no date. -/
def Records (p : Pattern) (pieces : List Text) (m : Match) : Prop :=
  p.GivesAction pieces m.action ∧
  match p.kind.log with
  | .book =>
    m.book = none ∧ ∃ piece date, Segment.Gives p.segments pieces .date piece ∧ p.TellsDate piece date ∧ m.date = some date
  | .day => m.date = none ∧ ∃ piece, Segment.Gives p.segments pieces .book piece ∧ m.book = some piece.trim

/-! ## Matching -/

section
variable {p : Pattern} {pieces : List Text}

theorem piece?_eq_some_iff {q : Placeholder} (definite : q ≠ .anything) {piece : Text} :
    Segment.piece? q p.segments pieces = some piece ↔ Segment.Gives p.segments pieces q piece :=
  Segment.piece?_eq_some_iff (p.count_le_one definite)

theorem start?_eq_some_iff (all : p.segments.length = pieces.length) {start : Option Position} :
    p.start? pieces = some start ↔ match start with
      | none => .slot .startPage ∉ p.segments
      | some page => ∃ piece, Segment.Gives p.segments pieces .startPage piece ∧ Position.page? piece = some page := by
  unfold start?
  have absent_iff := Segment.piece?_eq_none_iff all (p.count_le_one (q := .startPage) (by decide))
  cases found : Segment.piece? .startPage p.segments pieces with
  | none =>
    have absent := absent_iff.1 found
    cases start with
    | none => simp [absent]
    | some page =>
      simp only [Option.some.injEq, reduceCtorEq, false_iff, not_exists, not_and]
      intro piece given
      exact absurd (List.of_mem_zip given).1 absent
  | some piece =>
    have given := (piece?_eq_some_iff (by decide)).1 found
    cases start with
    | none => simp [(List.of_mem_zip given).1]
    | some page =>
      simp only [Option.map_eq_some_iff, Option.some.injEq, exists_eq_right]
      constructor
      · exact fun read => ⟨piece, given, read⟩
      · rintro ⟨piece', given', read⟩
        rwa [Segment.gives_unique (p.count_le_one (by decide)) given given']

theorem action?_eq_some_iff (all : p.segments.length = pieces.length) {action : Action} :
    p.action? pieces = some action ↔ p.GivesAction pieces action := by
  unfold action? GivesAction
  cases p.kind.purpose with
  | started | finished | abandoned => simp [eq_comm]
  | progress =>
    simp only [bind, Option.bind_eq_some_iff, pure, Option.some.injEq, start?_eq_some_iff all,
      piece?_eq_some_iff (p := p) (q := .endPage) (by decide)]
    constructor
    · rintro ⟨start, begins, stop, ends, rfl⟩
      exact ⟨start, stop, begins, ends, rfl⟩
    · rintro ⟨start, stop, begins, ends, rfl⟩
      exact ⟨start, begins, stop, ends, rfl⟩
  | relativeProgress =>
    simp only [bind, Option.bind_eq_some_iff, pure, Option.some.injEq,
      piece?_eq_some_iff (p := p) (q := .finish) (by decide), eq_comm (b := action)]

/-- What a candidate gives that has to end the text and to be spelled as the layout spells its date. -/
theorem endsAs_iff {text candidate : Text} {date : Date} :
    (if candidate.isSuffixOf text then (p.layout.parse? candidate).filter (p.layout.format · = candidate) else none)
      = some date ↔ p.EndsAs text candidate date := by
  unfold EndsAs
  split
  · next ends => simp [List.isSuffixOf_iff_suffix.1 ends, Option.filter_eq_some_iff]
  · next inner =>
    simp only [reduceCtorEq, false_iff, not_and]
    exact fun ends => absurd (List.isSuffixOf_iff_suffix.2 ends) inner

theorem date?_eq_some_iff (dated : p.kind.log = .book) {piece : Text} {date : Date} :
    p.date? piece = some date ↔ p.TellsDate piece date := by
  have once : Segment.count .date p.segments = 1 :=
    p.count_of_required (by simp [Kind.required, dated, Kind.subject]) (by decide)
  unfold date? TellsDate
  simp only
  cases read : p.layout.parse? piece.trim with
  | some date' => simp
  | none =>
    simp only [reduceCtorEq, false_or, true_and, ← Segment.dateFollowsAnything_iff once]
    split
    · next follows =>
      simp only [follows, true_and, findSome?_filter, List.findSome?_eq_some_iff, Option.eq_none_iff_forall_ne_some,
        ne_eq, endsAs_iff]
    · next alone => simp [alone]

theorem matchOf?_eq_some_iff (all : p.segments.length = pieces.length) {m : Match} :
    p.matchOf? pieces = some m ↔ p.Records pieces m := by
  obtain ⟨action, book, date⟩ := m
  unfold matchOf? Records
  cases log : p.kind.log with
  | book =>
    have bookless : Segment.piece? .book p.segments pieces = none := by
      rw [Segment.piece?_eq_none_iff all (p.count_le_one (by decide))]
      apply p.notMem_of_not_accepts
      cases purpose : p.kind.purpose <;> simp [Kind.accepts, Kind.required, Kind.subject, log, purpose]
    simp only [bind, Option.bind_eq_some_iff, pure, Option.some.injEq, action?_eq_some_iff all, Option.map_eq_some_iff,
      piece?_eq_some_iff (p := p) (q := .date) (by decide), date?_eq_some_iff log, bookless, Match.mk.injEq]
    constructor
    · rintro ⟨_, acts, _, ⟨date, ⟨piece, given, tells⟩, rfl⟩, rfl, rfl, rfl⟩
      exact ⟨acts, rfl, piece, date, given, tells, rfl⟩
    · rintro ⟨acts, rfl, piece, date, given, tells, rfl⟩
      exact ⟨action, acts, some date, ⟨date, ⟨piece, given, tells⟩, rfl⟩, rfl, rfl, rfl⟩
  | day =>
    simp only [bind, Option.bind_eq_some_iff, pure, Option.some.injEq, action?_eq_some_iff all, Match.mk.injEq]
    constructor
    · rintro ⟨_, acts, _, rfl, rfl, rfl, rfl⟩
      obtain ⟨piece, given⟩ := (Segment.exists_gives_iff all).2
        (p.mem_of_required (q := .book) (by simp [Kind.required, Kind.subject, log]))
      rw [(piece?_eq_some_iff (by decide)).2 given]
      exact ⟨acts, rfl, piece, given, rfl⟩
    · rintro ⟨acts, rfl, piece, given, rfl⟩
      rw [(piece?_eq_some_iff (by decide)).2 given]
      exact ⟨action, acts, none, rfl, rfl, rfl, rfl⟩

end

/-- A line records nothing where it cannot be split as the template asks. Elsewhere one split decides, which comes before
    all others: the line records what that split does, and nothing if that does not either. -/
theorem match?_eq (p : Pattern) (line : Text) :
    (p.match? line = none ∧ ∀ pieces, ¬ Segment.Splits p.segments line pieces) ∨
    ∃ best, Segment.Splits p.segments line best ∧
      (∀ other, Segment.Splits p.segments line other → other ≠ best →
        Segment.Precedes p.segments best other ∧ ¬ Segment.Precedes p.segments other best) ∧
      ∀ m, p.match? line = some m ↔ p.Records best m := by
  unfold match?
  rw [Segment.preferred?_eq]
  cases found : Segment.split? p.segments line with
  | none => exact .inl ⟨rfl, Segment.split?_eq_none_iff.1 found⟩
  | some best =>
    have splits := Segment.splits_of_split? found
    refine .inr ⟨best, splits, ?_, fun m => matchOf?_eq_some_iff splits.1.length_eq⟩
    intro other splits' differs
    have ordered := (Segment.precedes_of_split? found splits').resolve_left differs
    exact ⟨ordered, ordered.asymm⟩

end Pattern
end ReadingLog
