import ReadingLog.Template.Pattern

/-!
# Sets of patterns

Templates are compiled one by one. Those that compile are tried in order on a line, the others are kept with their
errors.
-/

namespace ReadingLog

namespace Template

/-- A template that did not compile. -/
structure Failure where
  kind : Kind
  error : Error
  deriving DecidableEq, Repr

/-- A template as it is given: its kind and its text, if there is one. -/
structure Source where
  kind : Kind
  text : Option String
  deriving DecidableEq, Repr

/-- The text that counts: white space around it is dropped, and blank text is none. -/
def Source.text? (s : Source) : Option String := do
  let trimmed := Text.trim (← s.text).toList
  if trimmed.isEmpty then none else some (String.ofList trimmed)

end Template

/-- The patterns that compiled, and the templates that did not, both in the order given. -/
structure PatternSet where
  patterns : List Pattern
  failures : List Template.Failure
  deriving DecidableEq

namespace PatternSet

open Template

/-- No templates. -/
def empty : PatternSet := ⟨[], []⟩

/-- The set with a template that is compiled with dates in a layout. -/
def register (set : PatternSet) (layout : DateLayout) (kind : Kind) (template : String) : PatternSet :=
  match Pattern.compile template kind with
  | .ok pattern => { set with patterns := set.patterns ++ [pattern.withLayout layout] }
  | .error error => { set with failures := set.failures ++ [⟨kind, error⟩] }

/-- The set with a template that may be absent. -/
def registerOptional (set : PatternSet) (layout : DateLayout) (source : Source) : PatternSet :=
  match source.text? with
  | some template => set.register layout source.kind template
  | none => set

/-- The set of the templates of a list. -/
def ofSources (layout : DateLayout) (sources : List Source) : PatternSet :=
  sources.foldl (fun set source => set.registerOptional layout source) empty

/-- What a line records by the first pattern that it fits. -/
def match? (set : PatternSet) (line : Text) : Option Match := set.patterns.findSome? (·.match? line)

/-- Some template did not compile. -/
def hasFailures (set : PatternSet) : Bool := !set.failures.isEmpty

/-- The failures, a line for each with its kind and its error. -/
def renderFailures (failures : List Failure) : String :=
  String.join (failures.map fun f => f.kind.render ++ ": " ++ f.error.message ++ "\n")

end PatternSet
end ReadingLog
