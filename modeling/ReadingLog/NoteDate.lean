import ReadingLog.DateLayout.Reading
import ReadingLog.DateLayout.Candidates

/-!
# The date of a note

A daily note carries its date in its path. The date counts only when its own spelling occurs in the path, which rules out
runs of digits that merely look like a date.
-/

namespace ReadingLog

/-- The date that a note stands for by its path: of the candidates after the folder, which the path must begin with, the
    first that is a date whose spelling occurs in the path. -/
def noteDate? (layout : DateLayout) (folder : Option String) (path : String) : Option Date := do
  let path := path.toList
  let scanned ← (folder.getD "").toList.isPrefixOf? path
  ((layout.candidates scanned).filterMap layout.parse?).find? fun date => Text.contains (layout.format date) path

end ReadingLog
