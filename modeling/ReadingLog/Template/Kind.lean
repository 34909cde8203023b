import ReadingLog.Text.Basic

/-!
# Kinds of templates

A template belongs to one of two logs and records one kind of action. Together they decide which placeholders it may use
and which ones it needs.
-/

namespace ReadingLog

/-- A place in a template that stands for varying text. -/
inductive Placeholder where
  | date
  | book
  | startPage
  | endPage
  | finish
  | anything
  deriving DecidableEq, Repr

namespace Placeholder

/-- Every placeholder. -/
def all : List Placeholder := [date, book, startPage, endPage, finish, anything]

/-- The name between the braces. -/
def name : Placeholder → String
  | date => "date"
  | book => "book"
  | startPage => "startPage"
  | endPage => "endPage"
  | finish => "end"
  | anything => "*"

/-- The placeholder as it stands in a template: its name in braces. -/
def token (p : Placeholder) : Text := '\x7b' :: p.name.toList ++ ['\x7d']

/-- The token as a string. -/
def render (p : Placeholder) : String := String.ofList p.token

end Placeholder

namespace Template

/-- The two logs that templates are for. -/
inductive Log where
  /-- Lines in the note of a book, each with its own date. -/
  | book
  /-- Lines in the note of a day, each naming a book. -/
  | day
  deriving DecidableEq, Repr

/-- What a template records. -/
inductive Purpose where
  | started
  | finished
  | abandoned
  | progress
  | relativeProgress
  deriving DecidableEq, Repr

namespace Purpose

/-- Every purpose, in the order in which templates are tried. -/
def all : List Purpose := [started, finished, abandoned, progress, relativeProgress]

/-- The name of a purpose in settings and messages. -/
def name : Purpose → String
  | started => "started"
  | finished => "finished"
  | abandoned => "abandoned"
  | progress => "progress"
  | relativeProgress => "relative_progress"

end Purpose

/-- The log and the purpose of a template. -/
structure Kind where
  log : Log
  purpose : Purpose
  deriving DecidableEq, Repr

namespace Kind

/-- The placeholder that names what the log does not know of itself: the date in a book's note, the book in a day's. -/
def subject : Log → Placeholder
  | .book => .date
  | .day => .book

/-- The placeholders that a template of this kind needs, in the order in which a missing one is reported. -/
def required (k : Kind) : List Placeholder :=
  subject k.log :: match k.purpose with
    | .progress => [.endPage]
    | .relativeProgress => [.finish]
    | _ => []

/-- The placeholders that a template of this kind may use; any other stays literal text. -/
def accepts (k : Kind) : Placeholder → Bool
  | .anything => true
  | .startPage => k.purpose = .progress
  | p => k.required.contains p

/-- The kind in messages. -/
def render (k : Kind) : String :=
  (match k.log with
    | .book => "book log "
    | .day => "daily log ") ++ k.purpose.name

end Kind
end Template
end ReadingLog
