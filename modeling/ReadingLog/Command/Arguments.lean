/-!
# Arguments

What the words after the name of the command ask for. Options may stand before and after their values' equals signs, short
ones may be joined, and `--` ends them; every option is given once at most.
-/

namespace ReadingLog.Command

/-- What the command is to do. -/
inductive Task where
  | init (path : String)
  | journeys (book first last : Option String)
  | check
  deriving DecidableEq, Repr

/-- A request: a task, possibly with more log lines, or information on the command itself. -/
inductive Request where
  | perform (verbose : Bool) (task : Task)
  | help
  | version
  deriving DecidableEq, Repr

/-- Why words are no request. -/
inductive UsageFault where
  /-- An option or a word that the command does not know there. -/
  | unknownArgument
  /-- A task that the command does not know. -/
  | unknownTask
  /-- A value is missing or not allowed. -/
  | invalidValue
  /-- An option stands twice. -/
  | repeated
  /-- An option that takes no value has one. -/
  | unneededValue
  /-- Options, but no task. -/
  | missingTask
  /-- No words at all. -/
  | nothing
  deriving DecidableEq, Repr

/-! ## Options -/

/-- The options that take a value. -/
inductive Setting where
  | book
  | first
  | last
  deriving DecidableEq, Repr

/-- The options that take none. -/
inductive Flag where
  | verbose
  | help
  | version
  deriving DecidableEq, Repr

/-- An option. -/
inductive Known where
  | setting (s : Setting)
  | flag (f : Flag)
  deriving DecidableEq, Repr

/-- Where words stand: before the task, or after it. -/
inductive Level where
  | top
  | init
  | journeys
  | check
  deriving DecidableEq, Repr

/-- The option with a long name. -/
def long? (level : Level) (name : String) : Option Known :=
  if name = "verbose" then some (.flag .verbose)
  else if name = "help" then some (.flag .help)
  else if name = "version" ∧ level = .top then some (.flag .version)
  else if level ≠ .journeys then none
  else if name = "book" then some (.setting .book)
  else if name = "from" then some (.setting .first)
  else if name = "to" then some (.setting .last)
  else none

/-- The option with a short name. -/
def short? (level : Level) (name : Char) : Option Known :=
  if name = 'v' then some (.flag .verbose)
  else if name = 'h' then some (.flag .help)
  else if name = 'V' ∧ level = .top then some (.flag .version)
  else if name = 'b' ∧ level = .journeys then some (.setting .book)
  else none

/-! ## Reading words one by one -/

/-- What has been read but is not settled before the next option or the end. -/
inductive Pending where
  | setting (s : Setting) (value : Option String)
  | path (value : String)
  deriving DecidableEq, Repr

/-- What has been read at one level. -/
structure Progress where
  verbose : Bool := false
  settings : List (Setting × String) := []
  path : Option String := none
  pending : Option Pending := none
  deriving DecidableEq, Repr

/-- A word settles the request at once, or is at fault. -/
inductive Stop where
  | request (r : Request)
  | fault (f : UsageFault)
  deriving DecidableEq, Repr

namespace Progress

/-- A setting gets its value. -/
def give (p : Progress) (s : Setting) (value : String) : Except Stop Progress :=
  if (p.settings.lookup s).isSome then .error (.fault .repeated)
  else .ok { p with settings := (s, value) :: p.settings }

/-- What is pending is settled: a setting needs a value, and a path is not empty. -/
def settle (p : Progress) : Except Stop Progress :=
  let settled := { p with pending := none }
  match p.pending with
  | none => .ok p
  | some (.setting _ none) => .error (.fault .invalidValue)
  | some (.setting s (some value)) => settled.give s value
  | some (.path value) =>
    if value.isEmpty then .error (.fault .invalidValue) else .ok { settled with path := some value }

/-- A flag takes effect. -/
def raise (p : Progress) (f : Flag) : Except Stop Progress := do
  let p ← p.settle
  match f with
  | .verbose => if p.verbose then .error (.fault .repeated) else .ok { p with verbose := true }
  | .help => .error (.request .help)
  | .version => .error (.request .version)

/-- A setting begins; without a value joined to it, its value is the next word. -/
def begin (p : Progress) (s : Setting) (joined : Option String) : Except Stop Progress := do
  let p ← p.settle
  match joined with
  | some value => p.give s value
  | none => .ok { p with pending := some (.setting s none) }

/-- A long option, after its two hyphens. -/
def readLong (level : Level) (p : Progress) (word : List Char) : Except Stop Progress :=
  let name := String.ofList (word.takeWhile (· != '='))
  let joined := match word.dropWhile (· != '=') with
    | [] => none
    | _ :: value => some (String.ofList value)
  match long? level name with
  | none => .error (.fault .unknownArgument)
  | some (.setting s) => p.begin s joined
  | some (.flag f) => if joined.isSome then .error (.fault .unneededValue) else p.raise f

/-- Short options joined in one word, after its hyphen; what follows a setting is its value. -/
def readShort (level : Level) (p : Progress) : List Char → Except Stop Progress
  | [] => .ok p
  | c :: rest =>
    match short? level c with
    | none => .error (.fault .unknownArgument)
    | some (.flag f) =>
      match p.raise f with
      | .ok p => readShort level p rest
      | .error stop => .error stop
    | some (.setting s) =>
      p.begin s (match rest with
        | [] => none
        | '=' :: value => some (String.ofList value)
        | value => some (String.ofList value))

/-- A word that is no option: the value of the setting before it, or a path. -/
def readWord (level : Level) (p : Progress) (word : String) : Except Stop Progress :=
  let isPath := level = .init ∧ p.path.isNone ∧ !(p.pending matches some (.path _))
  match p.pending with
  | some (.setting s none) => .ok { p with pending := some (.setting s (some word)) }
  | _ =>
    if isPath then p.settle.map fun p => { p with pending := some (.path word) }
    else .error (.fault .unknownArgument)

/-- A word after `--`. -/
def readTrailing (level : Level) (p : Progress) (word : String) : Except Stop Progress :=
  match p.pending with
  | some (.setting _ none) => .error (.fault .unknownArgument)
  | _ => p.readWord level word

end Progress

/-- The words after a task. -/
def readWords (level : Level) (p : Progress) : List String → Except Stop Progress
  | [] => p.settle
  | word :: rest =>
    let read? := match word.toList with
      | ['-', '-'] => none
      | '-' :: '-' :: name => some (p.readLong level name)
      | '-' :: c :: name => some (p.readShort level (c :: name))
      | _ => some (p.readWord level word)
    match read? with
    | some (.ok p) => readWords level p rest
    | some (.error stop) => .error stop
    | none => rest.foldlM (Progress.readTrailing level) p >>= Progress.settle

/-- The level that a word leads to. -/
def taskLevel? (word : String) : Option Level :=
  if word = "init" then some .init
  else if word = "journeys" then some .journeys
  else if word = "check" then some .check
  else none

/-- The task of a level with what has been read there. -/
def taskOf (p : Progress) : Level → Task
  | .init => .init (p.path.getD ".")
  | .journeys => .journeys (p.settings.lookup .book) (p.settings.lookup .first) (p.settings.lookup .last)
  | _ => .check

/-- The words after `help`: a task at most. -/
def readHelp (words : List String) : Stop :=
  match words with
  | [] => .request .help
  | [word] => if (taskLevel? word).isSome ∨ word = "help" then .request .help else .fault .unknownTask
  | _ => .fault .unknownTask

/-- The first word after `--`, where a task is missing. -/
def strayWord (word : String) : UsageFault :=
  if (taskLevel? word).isSome ∨ word = "help" then .unknownArgument else .unknownTask

/-- The words before the task, the task, and the words after it. -/
def readTop (p : Progress) : List String → Except Stop Request
  | [] => .error (.fault (if p.verbose then .missingTask else .nothing))
  | word :: rest =>
    match taskLevel? word with
    | some level =>
      match readWords level {} rest with
      | .ok inner => .ok (.perform (p.verbose || inner.verbose) (taskOf inner level))
      | .error stop => .error stop
    | none =>
      if word = "help" then .error (readHelp rest)
      else match word.toList with
        | ['-', '-'] =>
          match rest with
          | [] => .error (.fault (if p.verbose then .missingTask else .nothing))
          | stray :: _ => .error (.fault (strayWord stray))
        | '-' :: '-' :: name =>
          match p.readLong .top name with
          | .ok p => readTop p rest
          | .error stop => .error stop
        | '-' :: c :: name =>
          match p.readShort .top (c :: name) with
          | .ok p => readTop p rest
          | .error stop => .error stop
        | _ => .error (.fault .unknownTask)

/-- The request that words make. -/
def parse (words : List String) : Except UsageFault Request :=
  match readTop {} words with
  | .ok request | .error (.request request) => .ok request
  | .error (.fault fault) => .error fault

end ReadingLog.Command
