import ReadingLog.Position
import ReadingLog.Date

/-!
# Events and histories

An event says what happened to a book on a day. A history is a list of events together with the notes that they are
about; it grows by one event or by a whole other history.
-/

namespace ReadingLog

/-- The path of a note within its vault, with `/` between folders. -/
abbrev NotePath := String

namespace NotePath

/-- The name of the note: its path after the last `/`, without a final `.md`. -/
def title (path : NotePath) : Text :=
  Text.dropSuffix (path.toList.reverse.takeWhile (· != '/')).reverse ['.', 'm', 'd']

/-- The folder of the note: its path before the last `/`, empty where there is none. -/
def folder (path : NotePath) : Text := ((path.toList.reverse.dropWhile (· != '/')).drop 1).reverse

end NotePath

/-- What happened to a book. -/
inductive Action where
  | started
  | finished
  | abandoned
  | progress (start : Option Position) (stop : Position)
  deriving DecidableEq, Repr

namespace Action

/-- The written form: the name, and for progress the positions reached. -/
def toText : Action → Text
  | started => "started".toList
  | finished => "finished".toList
  | abandoned => "abandoned".toList
  | progress (some start) stop => "progress ".toList ++ start.toText ++ '-' :: stop.toText
  | progress none stop => "progress ".toList ++ stop.toText

/-- The written form as a string. -/
def render (a : Action) : String := String.ofList a.toText

end Action

/-- One dated step of a reader through a book. -/
structure Event where
  action : Action
  date : Date
  book : NotePath
  deriving DecidableEq

/-- Events in the order they were found, and the notes they are about in the order of their paths. -/
structure History where
  events : List Event
  books : List NotePath
  deriving DecidableEq

namespace History

/-- A path put into its place in a list in order, unless it is there already. -/
def insertPath (path : NotePath) : List NotePath → List NotePath
  | [] => [path]
  | first :: rest =>
    if path < first then path :: first :: rest
    else if path = first then first :: rest
    else first :: insertPath path rest

/-- No events. -/
def empty : History := ⟨[], []⟩

instance : EmptyCollection History := ⟨empty⟩
instance : Inhabited History := ⟨empty⟩

/-- The history with one more event. -/
def push (h : History) (e : Event) : History := ⟨h.events ++ [e], insertPath e.book h.books⟩

/-- The history followed by another one. -/
def append (h other : History) : History :=
  ⟨h.events ++ other.events, other.books.foldl (fun books path => insertPath path books) h.books⟩

instance : Append History := ⟨append⟩

/-- The history of a list of events. -/
def ofEvents (events : List Event) : History := events.foldl push empty

/-- There is no event. -/
def isEmpty (h : History) : Bool := h.events.isEmpty

end History
end ReadingLog
