import ReadingLog.Markdown.Reference
import ReadingLog.Markdown.Entity

/-!
# Text within a block

`inlinePieces` reads the text of a heading: emphasis, links, code spans, character references and raw HTML are resolved,
and what a reader of the rendered heading would read remains, as pieces of text and of code.

The text is scanned once from the left. Pieces, runs of `*` and `_` and opening brackets wait on a stack, latest first; a
closing bracket that makes a link settles everything since its opening bracket, and the end of the text settles the rest.
-/

namespace ReadingLog.Markdown

/-- Something to read in a block. -/
inductive Piece where
  | text (text : Text)
  | code (text : Text)
  deriving DecidableEq, Repr

/-- A run of one mark of emphasis: how many marks are left, how many there were, and what the run can do. -/
structure Run where
  mark : Char
  left : Nat
  length : Nat
  opens : Bool
  closes : Bool
  deriving DecidableEq, Repr

/-- What waits to be settled. -/
inductive Node where
  | piece (piece : Piece)
  | run (run : Run)
  /-- An opening bracket, of an image or a link, that can still make one, with the source that follows it. -/
  | bracket (isImage : Bool) (isActive : Bool) (source : Text)
  deriving DecidableEq, Repr

/-! ## Emphasis -/

namespace Run

/-- The marks that are left, as text. -/
def toPiece (r : Run) : Piece := .text (List.replicate r.left r.mark)

/-- A run before and a later one can enclose emphasis. When one of them could both open and close, their lengths must not
    add up to a multiple of three, unless both are one. -/
def matches? (opener closer : Run) : Bool :=
  opener.opens && opener.mark = closer.mark
    && (!(opener.closes || closer.opens) || (opener.length + closer.length) % 3 != 0
      || (opener.length % 3 == 0 && closer.length % 3 == 0))

end Run

/-- A closing run meets the nearest run before it that it matches: the number of marks that they use up, and the nodes
    without these marks. Runs in between are marks for themselves. -/
def close? (closer : Run) : List Node → Option (Nat × List Node)
  | [] => none
  | .run opener :: nodes =>
    if opener.matches? closer then
      let used := min opener.left closer.left
      some (used, if used < opener.left then .run { opener with left := opener.left - used } :: nodes else nodes)
    else (close? closer nodes).map fun (used, rest) => (used, .piece opener.toPiece :: rest)
  | node :: nodes => (close? closer nodes).map fun (used, rest) => (used, node :: rest)

/-- The nodes with a run after them, latest first: it closes what it can, and what is left of it may open. -/
def settleRun : Nat → Run → List Node → List Node
  | 0, run, nodes => .piece run.toPiece :: nodes
  | fuel + 1, run, nodes =>
    let rest :=
      if run.closes then
        match close? run nodes with
        | some (used, nodes) =>
          if used < run.left then some (settleRun fuel { run with left := run.left - used } nodes) else some nodes
        | none => none
      else none
    rest.getD (if run.opens then .run run :: nodes else .piece run.toPiece :: nodes)

/-- The node as a piece; a bracket or a run that is left over is text. -/
def Node.toPiece : Node → Piece
  | .piece p => p
  | .run r => r.toPiece
  | .bracket isImage _ _ => .text (if isImage then ['!', '['] else ['['])

/-- The pieces of nodes given latest first, after emphasis is settled; they come latest first, too. -/
def settle (nodes : List Node) : List Piece :=
  (nodes.foldr (fun node settled =>
    match node with
    | .run r => settleRun (r.left + 1) r settled
    | other => other :: settled) []).map Node.toPiece

/-! ## Runs and code spans -/

/-- A run of marks between two characters can open emphasis. -/
def canOpen (mark before after : Char) : Bool :=
  !Text.isBlank after
    && ((mark = '*' && !Text.isPunctuation after) || Text.isBlank before || Text.isPunctuation before)

/-- A run of marks between two characters can close emphasis. -/
def canClose (mark before after : Char) : Bool :=
  !Text.isBlank before
    && ((mark = '*' && !Text.isPunctuation before) || Text.isBlank after || Text.isPunctuation after)

/-- The length of the text before the first run of exactly `n` backticks; `fuel` bounds the number of runs. -/
def codeLength? (n : Nat) : Nat → Text → Option Nat
  | 0, _ => none
  | fuel + 1, s =>
    let before := (s.takeWhile (· != '`')).length
    let ticks := ((s.drop before).takeWhile (· = '`')).length
    if ticks = 0 then none
    else if ticks = n then some before
    else (codeLength? n fuel (s.drop (before + ticks))).map (before + ticks + ·)

/-- The content of a code span: line ends are spaces, and one space on both sides is left out, unless all are spaces. -/
def codeContent (s : Text) : Text :=
  let s := s.map fun c => if c = '\n' then ' ' else c
  if s.head? = some ' ' && s.getLast? = some ' ' && s.any (· != ' ') then (s.drop 1).dropLast else s

/-! ## Scanning -/

/-- The nodes before the nearest opening bracket, that bracket, and the nodes under it. -/
def splitAtBracket : List Node → Option (List Node × (Bool × Bool × Text) × List Node)
  | [] => none
  | .bracket isImage isActive source :: nodes => some ([], (isImage, isActive, source), nodes)
  | node :: nodes => (splitAtBracket nodes).map fun (above, bracket, below) => (node :: above, bracket, below)

/-- A link contains no other link: opening brackets before it make none any more. -/
def deactivate (nodes : List Node) : List Node :=
  nodes.map fun
    | .bracket false _ source => .bracket false false source
    | node => node

/-- The length of what makes a link of bracketed text, after its closing bracket: a target in parentheses, a label of a
    definition, or nothing where the text itself is one. `inner` is the bracketed source. -/
def linkTail? (isDefined : Text → Bool) (inner after : Text) : Option Nat :=
  let inline? := (['('].isPrefixOf? after).bind dropInlineTarget?
  match inline? with
  | some rest => some (after.length - rest.length)
  | none =>
    let own? := match linkLabel? (inner ++ [']']) with
      | some (label, []) => if isDefined label then some 0 else none
      | _ => none
    match after with
    | '[' :: ']' :: _ => own?.map fun _ => 2
    | '[' :: rest =>
      match linkLabel? rest with
      | some (label, rest) => if isDefined label then some (after.length - rest.length) else none
      | none => own?
    | _ => own?

/-- The stack after a closing bracket, and the length of what it takes of the text after it. -/
def closeBracket (isDefined : Text → Bool) (after : Text) (nodes : List Node) : List Node × Nat :=
  let plain := Node.piece (.text [']'])
  match splitAtBracket nodes with
  | none => (plain :: nodes, 0)
  | some (above, (isImage, isActive, source), below) =>
    let inner := source.take (source.length - after.length - 1)
    let tail? := if isActive then linkTail? isDefined inner after else none
    match tail? with
    | some length =>
      ((settle above).map Node.piece ++ (if isImage then below else deactivate below), length)
    | none => (plain :: above ++ Node.piece (Node.bracket isImage isActive source).toPiece :: below, 0)

/-- What one character does: the stack after it, the character that counts as the one before the rest, and how many
    characters of the text after it are taken with it. -/
def scanStep (isDefined : Text → Bool) (before c : Char) (rest : Text) (nodes : List Node) : List Node × Char × Nat :=
  let plain (c : Char) := Node.piece (.text [c])
  match c with
  | '\n' => (nodes, c, 0)
  | '\\' =>
    match rest with
    | '\n' :: _ => (nodes, '\n', 1)
    | p :: _ => if Text.isAsciiPunctuation p then (plain p :: nodes, p, 1) else (plain c :: nodes, c, 0)
    | [] => (plain c :: nodes, c, 0)
  | '`' =>
    let more := (rest.takeWhile (· = '`')).length
    let after := rest.drop more
    match codeLength? (more + 1) (after.length + 1) after with
    | some n => (.piece (.code (codeContent (after.take n))) :: nodes, c, more + n + more + 1)
    | none => (.piece (.text (List.replicate (more + 1) c)) :: nodes, c, more)
  | '<' =>
    match angleLink? rest with
    | some address => (.piece (.text address) :: nodes, '>', address.length + 1)
    | none =>
      match dropInlineHtml? rest with
      | some after => (nodes, '>', rest.length - after.length)
      | none => (plain c :: nodes, c, 0)
  | '&' =>
    match entity? rest with
    | some (characters, n) => (.piece (.text characters) :: nodes, ';', n)
    | none => (plain c :: nodes, c, 0)
  | '!' =>
    match rest with
    | '[' :: source => (.bracket true true source :: nodes, '[', 1)
    | _ => (plain c :: nodes, c, 0)
  | '[' => (.bracket false true rest :: nodes, c, 0)
  | ']' =>
    let (nodes, taken) := closeBracket isDefined rest nodes
    (nodes, ((rest.take taken).getLast?).getD c, taken)
  | _ =>
    if c = '*' ∨ c = '_' then
      let more := (rest.takeWhile (· = c)).length
      let after := ((rest.drop more).head?).getD '\n'
      let run : Run := ⟨c, more + 1, more + 1, canOpen c before after, canClose c before after⟩
      (.run run :: nodes, c, more)
    else if isSpacing c then
      let more := (rest.takeWhile isSpacing).length
      if (rest.drop more).head? = some '\n' then (nodes, c, more) else (plain c :: nodes, c, 0)
    else (plain c :: nodes, c, 0)

/-- The stack after the whole text. -/
def scan (isDefined : Text → Bool) (before : Char) (nodes : List Node) : Text → List Node
  | [] => nodes
  | c :: rest =>
    let (nodes, before, taken) := scanStep isDefined before c rest nodes
    scan isDefined before nodes (rest.drop taken)
termination_by s => s.length
decreasing_by
  simp only [List.length_drop, List.length_cons]
  omega

/-- Neighbouring pieces of text joined. -/
def joinPieces : List Piece → List Piece
  | [] => []
  | .text s :: pieces =>
    match joinPieces pieces with
    | .text t :: joined => .text (s ++ t) :: joined
    | joined => .text s :: joined
  | .code s :: pieces => .code s :: joinPieces pieces

/-- The pieces to read in the text of a block, given which labels are defined. -/
def inlinePieces (isDefined : Text → Bool) (s : Text) : List Piece :=
  joinPieces (settle (scan isDefined '\n' [] s)).reverse

end ReadingLog.Markdown
