import ReadingLog.Command.Arguments
import ReadingLog.Report.Listing
import ReadingLog.Vault.Report

/-!
# Running the command

What a request does to the files, and what the command prints. Errors go to the error stream, with advice, and set the exit
status.
-/

namespace ReadingLog.Command

/-- What surrounds a run: the working folder, the vault that the environment names, and the time. -/
structure Surroundings where
  working : Location
  named : Option String
  now : Instant
  deriving DecidableEq

/-- What a run prints, and its exit status. -/
structure Outcome where
  exit : Nat
  out : String
  err : String
  deriving DecidableEq, Repr

namespace Outcome

/-- A run that succeeds with some output. -/
def success (out : String) : Outcome := ⟨0, out, ""⟩

/-- A run that ends with an error, after some output. -/
def failure (out : String) (e : Error) : Outcome := ⟨e.exitCode, out, "Error: " ++ e.explained ++ "\n"⟩

/-- The outcome with a remark before all else on the error stream. -/
def remark (o : Outcome) (text : String) : Outcome := { o with err := text ++ o.err }

end Outcome

/-- The version as it is printed. -/
def versionText : String := "readjour 0.1.0\n"

/-- How the command is used. -/
def usage : String :=
  "\n".intercalate
    ["Reading journeys from markdown notes", "", "Usage: readjour [OPTIONS] <COMMAND>", "", "Commands:",
     "  init [PATH]  Set up a vault in a folder, the current one if none is given",
     "  journeys     List reading events by date: --book <BOOK>, --from <DATE>, --to <DATE>",
     "  check        Check that every template compiles", "  help         Print this text", "", "Options:",
     "  -v, --verbose  Print more log lines", "  -h, --help     Print this text", "  -V, --version  Print the version", ""]

/-- Setting up a vault: the tree after it, and what it prints. -/
def runInit (t : FileTree) (s : Surroundings) (path : String) : FileTree × Outcome :=
  match Vault.setUp t ⟨s.working.resolve path, path⟩ s.now with
  | .ok t => (t, .success ("Initialized readjour at " ++ path ++ "\n"))
  | .error e => (t, .failure "" e)

/-- The query of a listing. -/
def query (book first last : Option String) : Except Error Query := do
  let first ← first.mapM Date.ofArgument
  let last ← last.mapM Date.ofArgument
  return ⟨book, first, last⟩

/-- The report of a listing. -/
def reportFor (t : FileTree) (s : Surroundings) (book first last : Option String) : Except Error Report := do
  let q ← query book first last
  Vault.report t (← Vault.discover t s.working s.named) q

/-- Listing events. -/
def runJourneys (t : FileTree) (s : Surroundings) (book first last : Option String) : Outcome :=
  match reportFor t s book first last with
  | .error e => .failure "" e
  | .ok report =>
    let outcome := if report.events.isEmpty then Outcome.failure "" (.nothingFound .noMatchingLine)
      else .success (listing report.events)
    if report.failures.isEmpty then outcome
    else outcome.remark ("Warning: " ++ toString report.failures.length
      ++ " template(s) failed to compile and were skipped; run 'readjour check'\n")

/-- Checking templates. -/
def runCheck (t : FileTree) (s : Surroundings) : Outcome :=
  match Vault.discover t s.working s.named >>= Vault.check t with
  | .error e => .failure "" e
  | .ok check =>
    if check.failures.isEmpty then .success ("All " ++ toString check.compiled ++ " templates compiled\n")
    else .failure (PatternSet.renderFailures check.failures) (.settings (.failedTemplates check.failures.length))

/-- A run on the words of the command line: the tree after it, and what it prints. -/
def run (t : FileTree) (s : Surroundings) (words : List String) : FileTree × Outcome :=
  match parse words with
  | .error _ => (t, ⟨2, "", usage⟩)
  | .ok .help => (t, .success usage)
  | .ok .version => (t, .success versionText)
  | .ok (.perform _ (.init path)) => runInit t s path
  | .ok (.perform _ (.journeys book first last)) => (t, runJourneys t s book first last)
  | .ok (.perform _ .check) => (t, runCheck t s)

end ReadingLog.Command
