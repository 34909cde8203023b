import ReadingLog.Text.Percent

/-!
# Links

A line may name a book by a wiki link such as `[[Dune|the book]]`, by a Markdown link such as `[Dune](Books/Dune.md)`, or
in plain words. `linkTarget` is what it points to.
-/

namespace ReadingLog

/-- What stands between `[[` and `]]`, where these enclose the text. -/
def wikiLink? (reference : Text) : Option Text := do
  let inner ← ['[', '['].isPrefixOf? reference
  [']', ']'].isSuffixOf? inner

/-- What stands in the parentheses of a Markdown link that is the whole text. -/
def markdownLink? (reference : Text) : Option Text := do
  let inner ← ['['].isPrefixOf? reference
  let (_, target) ← Text.splitOnce? [']', '('] inner
  [')'].isSuffixOf? target

/-- A reference without the exclamation mark that would embed its target. -/
def unembedded : Text → Text
  | '!' :: reference => reference
  | reference => reference

/-- The target of a reference: of a wiki link what precedes an alias or a heading, of a Markdown link what precedes a
    fragment, percent-decoded if it can be; plain words as they are. -/
def linkTarget (reference : Text) : Text :=
  let reference := unembedded reference.trim
  match wikiLink? reference with
  | some inner => Text.trim (inner.takeWhile fun c => c != '|' && c != '#')
  | none =>
    match markdownLink? reference with
    | some target =>
      let target := Text.trim (target.takeWhile (· != '#'))
      (Text.percentDecode? target).getD target
    | none => reference

end ReadingLog
