import ReadingLog.Command.Run
import ReadingLog.Proofs.Instants
import ReadingLog.Proofs.Positions

/-!
# What a listing tells

No two lists of events are listed alike, and the date on a line is read as the date it was printed from.
-/

namespace ReadingLog

/-- A character that neither of two texts has tells both from what follows it. -/
theorem Text.append_cons_inj {c : Char} {s t r r' : Text} (absent : c ∉ s) (absent' : c ∉ t)
    (same : s ++ c :: r = t ++ c :: r') : s = t ∧ r = r' := by
  have taken {s r : Text} (absent : c ∉ s) : (s ++ c :: r).takeWhile (· != c) = s :=
    takeWhile_append_of_ends (fun d member => by simpa using ne_of_mem_of_not_mem member absent) (by simp)
  have first : s = t := by rw [← taken (r := r) absent, same, taken absent']
  subst first
  exact ⟨rfl, (List.cons.inj (List.append_cancel_left same)).2⟩

/-! ## Dates -/

namespace DateLayout

theorem tokens_dayFirst : dayFirst.tokens =
    [.field .paddedDay, .literal ['-'], .field .paddedMonth, .literal ['-'], .field .year] := by decide +kernel

theorem format_dayFirst (d : Date) : dayFirst.format d =
    Text.padded 2 d.day ++ '-' :: (Text.padded 2 d.month ++ '-' :: Date.yearText d.year) := by
  simp [format, tokens_dayFirst, Token.format, Field.format]

/-- A date is read back with the day first, whatever its year. -/
theorem parse?_dayFirst (d : Date) : dayFirst.parse? (dayFirst.format d) = some d := by
  obtain ⟨first_month, last_month⟩ := d.isDay.month_range
  have first_day := d.isDay.day_range.1
  have last_day := d.day_le
  have number (n : Nat) (small : n < 100) (rest : Text) : readNumber? 2 (Text.padded 2 n ++ rest) = some (n, rest) :=
    readNumber?_padded (by decide) (by decide) small (.inl rfl)
  have day := number d.day (by omega)
  have month := number d.month (by omega)
  have year : readYear? (Date.yearText d.year) = some (d.year, []) := by
    have read : readYear? (Date.yearText d.year ++ []) = some (d.year, []) := readYear?_yearText d.year (by simp)
    rwa [List.append_nil] at read
  have hyphen (rest : Text) : readLiteral? ['-'] ('-' :: rest) = some rest := rfl
  have months : inRange? 12 d.month = some d.month := inRange?_eq_some_iff.2 ⟨rfl, first_month, last_month⟩
  have days : inRange? 31 d.day = some d.day := inRange?_eq_some_iff.2 ⟨rfl, first_day, last_day⟩
  have date : Date.ofYMD? d.year d.month d.day = some d := Date.ofYMD?_eq_some_iff.2 ⟨rfl, rfl, rfl⟩
  rw [parse?, Token.parse?, tokens_dayFirst, format_dayFirst]
  simp [Token.readAll?, Token.read?, Field.read?, day, month, year, hyphen, months, days, Findings.note?, Findings.date?,
    Findings.year?, date]

theorem mem_yearText {year : Int} {c : Char} (member : c ∈ Date.yearText year) : c.isDigit ∨ IsSign c := by
  unfold Date.yearText at member
  split at member
  · rcases List.mem_cons.1 member with rfl | digit
    · exact .inr (.inl rfl)
    · exact .inl (Text.isDigit_of_mem_padded digit)
  split at member
  · rcases List.mem_cons.1 member with rfl | digit
    · exact .inr (.inr rfl)
    · exact .inl (Text.isDigit_of_mem_padded digit)
  · exact .inl (Text.isDigit_of_mem_padded member)

theorem mem_dayFirst {d : Date} {c : Char} (member : c ∈ dayFirst.format d) : c.isDigit ∨ IsSign c := by
  rw [format_dayFirst] at member
  simp only [List.mem_append, List.mem_cons] at member
  rcases member with digit | rfl | digit | rfl | year
  · exact .inl (Text.isDigit_of_mem_padded digit)
  · exact .inr (.inl rfl)
  · exact .inl (Text.isDigit_of_mem_padded digit)
  · exact .inr (.inl rfl)
  · exact mem_yearText year

theorem space_notMem_dayFirst (d : Date) : ' ' ∉ dayFirst.format d := by
  intro member
  rcases mem_dayFirst member with digit | sign | sign
  · exact absurd digit (by decide)
  · exact absurd sign (by decide)
  · exact absurd sign (by decide)

/-- What is printed of a date begins with a digit. -/
theorem exists_dayFirst_eq_cons (d : Date) : ∃ c rest, dayFirst.format d = c :: rest ∧ c.isDigit := by
  obtain ⟨c, rest, digits⟩ := List.exists_cons_of_ne_nil (Text.padded_ne_nil 2 d.day)
  have member : c ∈ Text.padded 2 d.day := digits ▸ List.mem_cons_self
  exact ⟨c, _, by rw [format_dayFirst, digits]; rfl, Text.isDigit_of_mem_padded member⟩

end DateLayout

/-! ## Positions and actions -/

namespace Position

theorem mem_toText {p : Position} {c : Char} (member : c ∈ p.toText) : c.isDigit ∨ c = '%' := by
  cases p with
  | page number => exact .inl ((Text.isDecimal_ofNat _).2 c member)
  | percent share =>
    rcases List.mem_append.1 member with digit | sign
    · exact .inl ((Text.isDecimal_ofNat _).2 c digit)
    · exact .inr (List.mem_singleton.1 sign)

theorem toText_injective {p q : Position} (same : p.toText = q.toText) : p = q := by
  have numbers {m n : Nat} (same : Text.ofNat m = Text.ofNat n) : m = n := by
    rw [← Text.value_ofNat m, same, Text.value_ofNat]
  -- A page has no percent sign.
  have apart (number : UInt32) (share : UInt8) : (page number).toText ≠ (percent share).toText := by
    intro same
    have member : '%' ∈ (page number).toText := same ▸ List.mem_concat_self
    exact absurd ((Text.isDecimal_ofNat _).2 '%' member) (by decide)
  cases p with
  | page m =>
    cases q with
    | page n => exact congrArg page (UInt32.toNat_inj.1 (numbers same))
    | percent n => exact absurd same (apart m n)
  | percent m =>
    cases q with
    | page n => exact absurd same.symm (apart n m)
    | percent n => exact congrArg percent (UInt8.toNat_inj.1 (numbers (List.append_cancel_right same)))

end Position

namespace Action

/-- The name of an action. -/
def name : Action → String
  | started => "started"
  | finished => "finished"
  | abandoned => "abandoned"
  | progress .. => "progress"

/-- The positions of a progress. -/
def stretch (start : Option Position) (stop : Position) : Text :=
  match start with
  | some first => first.toText ++ '-' :: stop.toText
  | none => stop.toText

theorem stretch_injective {start start' : Option Position} {stop stop' : Position}
    (same : stretch start stop = stretch start' stop') : start = start' ∧ stop = stop' := by
  have unhyphened (p : Position) : '-' ∉ p.toText := fun member => absurd (Position.mem_toText member) (by decide)
  cases start with
  | none =>
    cases start' with
    | none => exact ⟨rfl, Position.toText_injective same⟩
    | some first =>
      have same : stop.toText = first.toText ++ '-' :: stop'.toText := same
      exact absurd (same ▸ List.mem_append_right _ List.mem_cons_self) (unhyphened stop)
  | some first =>
    cases start' with
    | none =>
      have same : first.toText ++ '-' :: stop.toText = stop'.toText := same
      exact absurd (same ▸ List.mem_append_right _ List.mem_cons_self) (unhyphened stop')
    | some first' =>
      obtain ⟨starts, stops⟩ := Text.append_cons_inj (unhyphened first) (unhyphened first') same
      exact ⟨congrArg some (Position.toText_injective starts), Position.toText_injective stops⟩

theorem space_notMem_stretch (start : Option Position) (stop : Position) : ' ' ∉ stretch start stop := by
  have solid (p : Position) : ' ' ∉ p.toText := fun member => absurd (Position.mem_toText member) (by decide)
  cases start with
  | none => exact solid stop
  | some first => simp [stretch, solid]

/-- What follows the name of an action up to the end of its line. -/
def behind (rest : Text) : Action → Text
  | progress start stop => stretch start stop ++ ' ' :: ' ' :: rest
  | _ => ' ' :: rest

theorem toText_append (a : Action) (rest : Text) : a.toText ++ ' ' :: ' ' :: rest = a.name.toList ++ ' ' :: a.behind rest := by
  have spaced : "progress ".toList = "progress".toList ++ [' '] := by decide
  cases a with
  | started | finished | abandoned => rfl
  | progress start stop =>
    have text : (progress start stop).toText = "progress ".toList ++ stretch start stop := by
      cases start with
      | none => rfl
      | some first => exact List.append_assoc ..
    rw [text, spaced, List.append_assoc, List.append_assoc]
    rfl

theorem space_notMem_name (a : Action) : ' ' ∉ a.name.toList := by
  have solid : ∀ name ∈ ["started", "finished", "abandoned", "progress"], ' ' ∉ name.toList := by decide
  exact solid a.name (by cases a <;> simp [name])

/-- The name of an action leaves open no more than the positions of a progress. -/
theorem cases_of_name {a a' : Action} (same : a.name = a'.name) :
    (a = a' ∧ ∀ rest, a.behind rest = ' ' :: rest) ∨
      ∃ start stop start' stop', a = progress start stop ∧ a' = progress start' stop' := by
  cases a with
  | progress start stop =>
    cases a' with
    | progress start' stop' => exact .inr ⟨start, stop, start', stop', rfl, rfl⟩
    | started | finished | abandoned => simp [name] at same
  | started | finished | abandoned =>
    cases a' with
    | progress start' stop' => simp [name] at same
    | started | finished | abandoned => simp [name, behind] at same ⊢

/-- Two spaces tell an action from what follows, whatever that is. -/
theorem toText_append_inj {a a' : Action} {rest rest' : Text}
    (same : a.toText ++ ' ' :: ' ' :: rest = a'.toText ++ ' ' :: ' ' :: rest') : a = a' ∧ rest = rest' := by
  rw [toText_append, toText_append] at same
  obtain ⟨names, behinds⟩ := Text.append_cons_inj a.space_notMem_name a'.space_notMem_name same
  rcases cases_of_name (String.toList_inj.1 names) with ⟨rfl, plain⟩ | ⟨start, stop, start', stop', rfl, rfl⟩
  · rw [plain, plain] at behinds
    exact ⟨rfl, (List.cons.inj behinds).2⟩
  · obtain ⟨stretches, rests⟩ :=
      Text.append_cons_inj (space_notMem_stretch start stop) (space_notMem_stretch start' stop') behinds
    obtain ⟨rfl, rfl⟩ := stretch_injective stretches
    exact ⟨rfl, (List.cons.inj rests).2⟩

end Action

/-! ## Lines -/

namespace Event

/-- The date as it is printed on the line of an event: what precedes the first space. -/
def printedDate (e : Event) : String := String.ofList (e.line.takeWhile (· != ' '))

theorem line_append (e : Event) (rest : Text) : e.line ++ rest =
    DateLayout.dayFirst.format e.date ++ ' ' :: ' ' :: (e.action.toText ++ ' ' :: ' ' :: (e.book.toList ++ '\n' :: rest)) := by
  simp [line]

theorem printedDate_eq (e : Event) : e.printedDate = String.ofList (DateLayout.dayFirst.format e.date) := by
  have line := e.line_append []
  rw [List.append_nil] at line
  have solid : ∀ c ∈ DateLayout.dayFirst.format e.date, c != ' ' := fun c member =>
    bne_iff_ne.2 (ne_of_mem_of_not_mem member (DateLayout.space_notMem_dayFirst e.date))
  rw [printedDate, line, Text.takeWhile_append_of_ends solid (by simp)]

theorem line_eq_printedDate_append (e : Event) :
    e.line = e.printedDate.toList ++ ' ' :: (' ' :: (e.action.toText ++ ' ' :: ' ' :: (e.book.toList ++ ['\n']))) := by
  have line := e.line_append []
  rw [List.append_nil] at line
  rw [line, e.printedDate_eq, String.toList_ofList]

/-- The line of an event about a book with no line feed in its path tells the event from what follows. -/
theorem line_append_inj {e e' : Event} {rest rest' : Text} (unbroken : '\n' ∉ e.book.toList) (unbroken' : '\n' ∉ e'.book.toList)
    (same : e.line ++ rest = e'.line ++ rest') : e = e' ∧ rest = rest' := by
  rw [line_append, line_append] at same
  obtain ⟨dates, actions⟩ :=
    Text.append_cons_inj (DateLayout.space_notMem_dayFirst e.date) (DateLayout.space_notMem_dayFirst e'.date) same
  obtain ⟨action, books⟩ := Action.toText_append_inj (List.cons.inj actions).2
  obtain ⟨book, rests⟩ := Text.append_cons_inj unbroken unbroken' books
  have date : e.date = e'.date := by
    rw [← Option.some_inj, ← DateLayout.parse?_dayFirst, dates, DateLayout.parse?_dayFirst]
  obtain ⟨_, _, _⟩ := e
  obtain ⟨_, _, _⟩ := e'
  simp only [Event.mk.injEq]
  exact ⟨⟨action, date, String.toList_inj.1 book⟩, rests⟩

theorem line_ne_nil (e : Event) : e.line ≠ [] := by simp [line]

/-- Events line by line are told apart. -/
theorem flatMap_line_inj {events events' : List Event} (unbroken : ∀ e ∈ events, '\n' ∉ e.book.toList)
    (unbroken' : ∀ e ∈ events', '\n' ∉ e.book.toList) (same : events.flatMap line = events'.flatMap line) :
    events = events' := by
  induction events generalizing events' with
  | nil =>
    cases events' with
    | nil => rfl
    | cons e' events' => exact absurd (List.append_eq_nil_iff.1 same.symm).1 e'.line_ne_nil
  | cons e events ih =>
    cases events' with
    | nil => exact absurd (List.append_eq_nil_iff.1 same).1 e.line_ne_nil
    | cons e' events' =>
      obtain ⟨here, here'⟩ := And.intro (unbroken e List.mem_cons_self) (unbroken' e' List.mem_cons_self)
      obtain ⟨rfl, rests⟩ := line_append_inj here here' same
      rw [ih (fun other member => unbroken other (List.mem_cons_of_mem _ member))
        (fun other member => unbroken' other (List.mem_cons_of_mem _ member)) rests]

end Event

/-! ## Listings -/

/-- A line begins with a digit, and the remark on an empty list does not. -/
theorem listing_nil_ne (e : Event) (events : List Event) : listing [] ≠ listing (e :: events) := by
  intro same
  have texts : "No reading journeys found".toList = (e :: events).flatMap Event.line := by
    simpa [listing] using congrArg String.toList same
  have spelled : "No reading journeys found".toList = 'N' :: "o reading journeys found".toList := by decide
  obtain ⟨c, rest, begins, digit⟩ := DateLayout.exists_dayFirst_eq_cons e.date
  rw [spelled, List.flatMap_cons, Event.line_append, begins] at texts
  obtain ⟨rfl, -⟩ := List.cons.inj texts
  exact absurd digit (by decide)

theorem listing_inj {events events' : List Event} (unbroken : ∀ e ∈ events, '\n' ∉ e.book.toList)
    (unbroken' : ∀ e ∈ events', '\n' ∉ e.book.toList) (same : listing events = listing events') : events = events' := by
  cases events with
  | nil =>
    cases events' with
    | nil => rfl
    | cons e' events' => exact absurd same (listing_nil_ne e' events')
  | cons e events =>
    cases events' with
    | nil => exact absurd same.symm (listing_nil_ne e events)
    | cons e' events' =>
      refine Event.flatMap_line_inj unbroken unbroken' ?_
      simpa [listing] using congrArg String.toList same

theorem Date.ofArgument_printedDate (e : Event) : Date.ofArgument e.printedDate = .ok e.date := by
  rw [Date.ofArgument, e.printedDate_eq, String.toList_ofList, DateLayout.parse?_dayFirst]

/-! ## The command line -/

namespace Command

/-- A printed date is no option: it is the value of the option before it. -/
theorem readWords_printedDate (level : Level) (p : Progress) (s : Setting) (e : Event) (words : List String)
    (pending : p.pending = some (.setting s none)) :
    readWords level p (e.printedDate :: words) =
      readWords level { p with pending := some (.setting s (some e.printedDate)) } words := by
  obtain ⟨c, rest, begins, digit⟩ := DateLayout.exists_dayFirst_eq_cons e.date
  have text : e.printedDate.toList = c :: rest := by rw [e.printedDate_eq, String.toList_ofList, begins]
  have word : c ≠ '-' := by
    rintro rfl
    exact absurd digit (by decide)
  have read : p.readWord level e.printedDate = .ok { p with pending := some (.setting s (some e.printedDate)) } := by
    simp only [Progress.readWord, pending]
  simp [readWords, text, word, read]

/-- An option written in full without a value waits for one. -/
theorem readWords_long {level : Level} {p : Progress} {s : Setting} {word : String} {name : Text} (settled : Progress)
    (words : List String) (spelled : word.toList = '-' :: '-' :: name)
    (known : long? level (String.ofList name) = some (.setting s)) (nonempty : name ≠ []) (bare : '=' ∉ name) (ready : p.settle = .ok settled) :
    readWords level p (word :: words) = readWords level { settled with pending := some (.setting s none) } words := by
  have kept : ∀ c ∈ name, c != '=' := fun c member => bne_iff_ne.2 (ne_of_mem_of_not_mem member bare)
  have taken : name.takeWhile (· != '=') = name := List.takeWhile_eq_self_iff.2 kept
  have left : name.dropWhile (· != '=') = [] := List.dropWhile_eq_nil_iff.2 kept
  have read : p.readLong level name = .ok { settled with pending := some (.setting s none) } := by
    simp only [Progress.readLong, taken, left, known, Progress.begin, ready]
    rfl
  simp [readWords, spelled, read]

/-- Printed dates are passed on as the first and the last day of a listing. -/
theorem parse_printedDates (e e' : Event) : parse ["journeys", "--from", e.printedDate, "--to", e'.printedDate] =
    .ok (.perform false (.journeys none (some e.printedDate) (some e'.printedDate))) := by
  have from_known : long? .journeys (String.ofList ['f', 'r', 'o', 'm']) = some (.setting .first) := by decide
  have to_known : long? .journeys (String.ofList ['t', 'o']) = some (.setting .last) := by decide
  have first (words : List String) : readWords .journeys {} ("--from" :: words) =
      readWords .journeys { pending := some (.setting .first none) } words :=
    readWords_long {} words (by decide) from_known (by decide) (by decide) rfl
  have last (words : List String) :
      readWords .journeys { pending := some (.setting .first (some e.printedDate)) } ("--to" :: words) =
        readWords .journeys { settings := [(.first, e.printedDate)], pending := some (.setting .last none) } words :=
    readWords_long { settings := [(.first, e.printedDate)] } words (by decide) to_known (by decide) (by decide) rfl
  have inner : readWords .journeys {} ["--from", e.printedDate, "--to", e'.printedDate] =
      .ok { settings := [(.last, e'.printedDate), (.first, e.printedDate)] } := by
    rw [first, readWords_printedDate _ _ .first e _ rfl, last, readWords_printedDate _ _ .last e' _ rfl]
    rfl
  have task : taskLevel? "journeys" = some .journeys := by decide
  simp only [parse, readTop, task, inner]
  rfl

theorem query_printedDates (e e' : Event) :
    query none (some e.printedDate) (some e'.printedDate) = .ok ⟨none, some e.date, some e'.date⟩ := by
  simp only [query, Option.mapM_some, Date.ofArgument_printedDate]
  rfl

end Command

/-! ## What a listing tells -/

/-- Lists of events listed alike are equal, and the dates on their lines can be given back as the bounds of a listing. -/
theorem listing_tells_events :
    (∀ events events' : List Event, (∀ e ∈ events, '\n' ∉ e.book.toList) → (∀ e ∈ events', '\n' ∉ e.book.toList) →
      listing events = listing events' → events = events') ∧
    (∀ e : Event, (∃ rest, e.line = e.printedDate.toList ++ ' ' :: rest) ∧ Date.ofArgument e.printedDate = .ok e.date) ∧
    ∀ e e' : Event, Command.parse ["journeys", "--from", e.printedDate, "--to", e'.printedDate] =
        .ok (.perform false (.journeys none (some e.printedDate) (some e'.printedDate))) ∧
      Command.query none (some e.printedDate) (some e'.printedDate) = .ok ⟨none, some e.date, some e'.date⟩ := by
  refine ⟨fun _ _ => listing_inj, fun e => ⟨⟨_, e.line_eq_printedDate_append⟩, Date.ofArgument_printedDate e⟩, fun e e' => ?_⟩
  exact ⟨Command.parse_printedDates e e', Command.query_printedDates e e'⟩

/-- A path that goes on like a second line, and a year before year 0. -/
theorem listing_tells_close_events :
    let one : List Event := [⟨.progress none (.page 4), ⟨-44, 3, 15, by decide⟩, "5%  a  15-03-2024  started  b"⟩]
    let two : List Event :=
      [⟨.progress none (.page 4), ⟨-44, 3, 15, by decide⟩, "5%  a"⟩, ⟨.started, ⟨2024, 3, 15, by decide⟩, "b"⟩]
    (∀ e ∈ one, '\n' ∉ e.book.toList) ∧ (∀ e ∈ two, '\n' ∉ e.book.toList) ∧ listing one ≠ listing two ∧
      Date.ofArgument "15-03--0044" = .ok ⟨-44, 3, 15, by decide⟩ := by
  refine ⟨by decide +kernel, by decide +kernel, fun same => ?_, ?_⟩
  · exact absurd (listing_tells_events.1 _ _ (by decide +kernel) (by decide +kernel) same) (by decide +kernel)
  · have printed : (⟨.started, ⟨-44, 3, 15, by decide⟩, "b"⟩ : Event).printedDate = "15-03--0044" := by decide +kernel
    rw [← printed]
    exact (listing_tells_events.2.1 _).2

end ReadingLog
