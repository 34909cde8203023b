/-!
# Errors

Everything that can go wrong is a cause with the values that describe it. The wording, the advice given with it and the
exit status of the command are functions of the cause.
-/

namespace ReadingLog

/-- Why a file or folder could not be used. -/
inductive StorageFault where
  /-- The bytes of the file are not UTF-8. -/
  | notText
  /-- A folder stands where a file is needed. -/
  | isFolder
  /-- A file stands where a folder is needed. -/
  | notFolder
  /-- Nothing stands there. -/
  | missing
  /-- Something stands there already. -/
  | present
  /-- Another cause, in the words of the system. -/
  | other (text : String)
  deriving DecidableEq, Repr

namespace StorageFault

/-- The wording of a storage fault. -/
def message : StorageFault → String
  | notText => "stream did not contain valid UTF-8"
  | isFolder => "Is a directory (os error 21)"
  | notFolder => "Not a directory (os error 20)"
  | missing => "No such file or directory (os error 2)"
  | present => "File exists (os error 17)"
  | other text => text

end StorageFault

/-- Why the settings or the place they are kept cannot be used. -/
inductive SettingsFault where
  /-- The settings file is no settings document. -/
  | unparsable
  /-- The folder has a settings folder already. -/
  | alreadyInitialized (path : String)
  /-- The environment names a folder that is no vault. -/
  | rootWithoutVault (path : String)
  /-- Some templates do not compile. -/
  | failedTemplates (count : Nat)
  /-- Another cause, in its own words. -/
  | other (text : String)
  deriving DecidableEq, Repr

namespace SettingsFault

/-- The wording of a settings fault. -/
def message : SettingsFault → String
  | unparsable => "Failed to parse config.toml"
  | alreadyInitialized path => "Directory already initialized: " ++ path
  | rootWithoutVault path =>
    "READJOUR_ROOT is set to '" ++ path ++ "' but no .readjour directory found. "
      ++ "Run 'readjour init' in that directory or unset READJOUR_ROOT."
  | failedTemplates count => toString count ++ " template(s) failed to compile"
  | other text => text

end SettingsFault

/-- Why a search for events has nothing to show. -/
inductive NothingFound where
  /-- No note is the book asked for. -/
  | unknownBook (reference : String)
  /-- No line of any note fits a template. -/
  | noMatchingLine
  /-- Another cause, in its own words. -/
  | other (text : String)
  deriving DecidableEq, Repr

namespace NothingFound

/-- The wording of an empty search. -/
def message : NothingFound → String
  | unknownBook reference => "no note matches book '" ++ reference ++ "'"
  | noMatchingLine => "no template matched any line"
  | other text => text

end NothingFound

/-- Everything that can go wrong. -/
inductive Error where
  | notVault (path : String)
  | missingPlaceholder (template placeholder : String)
  | duplicatePlaceholder (template placeholder : String)
  | invalidPosition (token : String)
  | invalidDateLayout (pattern : String)
  | invalidDate (text : String)
  | unusableTemplate (text : String)
  | nothingFound (cause : NothingFound)
  | storage (fault : StorageFault)
  | settings (fault : SettingsFault)
  deriving DecidableEq, Repr

namespace Error

/-- The wording of an error. -/
def message : Error → String
  | notVault path => "Not a readjour directory: " ++ path
  | missingPlaceholder template placeholder =>
    "Template '" ++ template ++ "' is missing required placeholder \x7b" ++ placeholder ++ "\x7d"
  | duplicatePlaceholder template placeholder =>
    "Template '" ++ template ++ "' uses placeholder \x7b" ++ placeholder ++ "\x7d more than once"
  | invalidPosition token => "Invalid position: " ++ token
  | invalidDateLayout pattern => "Invalid date format: " ++ pattern
  | invalidDate text => "Invalid date: " ++ text
  | unusableTemplate text => "Template error: " ++ text
  | nothingFound cause => "No reading journeys found: " ++ cause.message
  | storage fault => "IO error: " ++ fault.message
  | settings fault => "Configuration error: " ++ fault.message

/-- The status with which the command ends on an error. -/
def exitCode : Error → Nat
  | notVault _ => 2
  | missingPlaceholder .. | duplicatePlaceholder .. | invalidDateLayout _ => 3
  | invalidDate _ => 4
  | _ => 1

/-- What a user can do about an error: lines to print after its wording. -/
def advice : Error → List String
  | notVault _ =>
    ["", "Suggestions:",
     "• Run 'readjour init' in your notes directory",
     "• Navigate to an existing readjour directory",
     "• Set READJOUR_ROOT environment variable to your notes path"]
  | missingPlaceholder .. | duplicatePlaceholder .. =>
    ["", "Template placeholders:",
     "• Book log templates need \x7bdate\x7d, daily templates need \x7bbook\x7d",
     "• Progress templates need \x7bendPage\x7d and may use \x7bstartPage\x7d",
     "• Relative progress templates need \x7bend\x7d",
     "• \x7b*\x7d matches any text and may be repeated",
     "", "Run 'readjour check' to list every invalid template."]
  | invalidDateLayout _ =>
    ["", "Date formats use YYYY, MM, M, DD, D, MMMM, MMM, dddd, ddd",
     "and must contain a year, a month and a day.",
     "Example: YYYY-MM-DD"]
  | invalidDate _ =>
    ["", "Expected format: DD-MM-YYYY",
     "Example: readjour journeys --from 01-01-2025 --to 31-01-2025"]
  | nothingFound _ =>
    ["", "Suggestions:",
     "• Check the headings in .readjour/config.toml match your notes",
     "• Run 'readjour check' to find templates that failed to compile",
     "• Widen the --from/--to range or drop --book"]
  | _ => []

/-- The wording with the advice below it. -/
def explained (e : Error) : String := "\n".intercalate (e.message :: e.advice)

end Error

/-! ## Outcomes -/

instance decidableEqOutcome {ε α : Type} [DecidableEq ε] [DecidableEq α] : DecidableEq (Except ε α)
  | .ok a, .ok b => decidable_of_iff (a = b) ⟨congrArg _, Except.ok.inj⟩
  | .error e, .error e' => decidable_of_iff (e = e') ⟨congrArg _, Except.error.inj⟩
  | .ok _, .error _ => .isFalse nofun
  | .error _, .ok _ => .isFalse nofun

theorem toOption_eq_some_iff {ε α : Type} {outcome : Except ε α} {a : α} : outcome.toOption = some a ↔ outcome = .ok a := by
  cases outcome <;> simp [Except.toOption]

/-- A chain succeeds when its first part does and so does the rest, given what that yields. -/
theorem bind_eq_ok_iff {ε α β : Type} {first : Except ε α} {rest : α → Except ε β} {b : β} :
    first >>= rest = .ok b ↔ ∃ a, first = .ok a ∧ rest a = .ok b := by
  cases first <;> simp [bind, Except.bind]

/-- A chain fails when its first part does, or else when the rest does. -/
theorem bind_eq_error_iff {ε α β : Type} {first : Except ε α} {rest : α → Except ε β} {e : ε} :
    first >>= rest = .error e ↔ first = .error e ∨ ∃ a, first = .ok a ∧ rest a = .error e := by
  cases first <;> simp [bind, Except.bind]

end ReadingLog
