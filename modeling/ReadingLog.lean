import ReadingLog.Command.Arguments
import ReadingLog.Command.Run
import ReadingLog.Date
import ReadingLog.DateLayout.Basic
import ReadingLog.DateLayout.Candidates
import ReadingLog.DateLayout.Directives
import ReadingLog.DateLayout.Reading
import ReadingLog.Error
import ReadingLog.Event
import ReadingLog.Extraction
import ReadingLog.FileTree
import ReadingLog.Instant
import ReadingLog.Link
import ReadingLog.Location
import ReadingLog.Markdown.Container
import ReadingLog.Markdown.Cursor
import ReadingLog.Markdown.Entity
import ReadingLog.Markdown.Event
import ReadingLog.Markdown.Html
import ReadingLog.Markdown.Inline
import ReadingLog.Markdown.Leaf
import ReadingLog.Markdown.Outline
import ReadingLog.Markdown.Reference
import ReadingLog.NoteDate
import ReadingLog.NoteIndex
import ReadingLog.Position
import ReadingLog.Report.Listing
import ReadingLog.Section
import ReadingLog.Settings
import ReadingLog.Template.Expression
import ReadingLog.Template.Kind
import ReadingLog.Template.Pattern
import ReadingLog.Template.PatternSet
import ReadingLog.Template.Segment
import ReadingLog.Text.Basic
import ReadingLog.Text.CaseFolding
import ReadingLog.Text.Decimal
import ReadingLog.Text.Digit
import ReadingLog.Text.Percent
import ReadingLog.Text.Punctuation
import ReadingLog.Toml.Document
import ReadingLog.Toml.Moment
import ReadingLog.Toml.Number
import ReadingLog.Toml.Quoted
import ReadingLog.Toml.Table
import ReadingLog.Vault.Basic
import ReadingLog.Vault.Folder
import ReadingLog.Vault.Notes
import ReadingLog.Vault.Report
import ReadingLog.Main
import ReadingLog.Proofs.Calendar
import ReadingLog.Proofs.Chronology
import ReadingLog.Proofs.NoteFiles
import ReadingLog.Proofs.Report
import ReadingLog.Proofs.Matching
import ReadingLog.Proofs.SectionHistory
import ReadingLog.Proofs.Positions
import ReadingLog.Proofs.Trimming
import ReadingLog.Proofs.FixedLayout
import ReadingLog.Proofs.ReadBack
import ReadingLog.Proofs.SectionLines
import ReadingLog.Proofs.Spelling
import ReadingLog.Proofs.NoteDate
import ReadingLog.Proofs.Books
import ReadingLog.Proofs.Links
import ReadingLog.Proofs.NewTemplates
import ReadingLog.Proofs.Entries
import ReadingLog.Proofs.ExpressionMatches
import ReadingLog.Proofs.Expressions
import ReadingLog.Proofs.WrittenNotes
import ReadingLog.Proofs.QuotedStrings
import ReadingLog.Proofs.Instants
import ReadingLog.Proofs.Documents
import ReadingLog.Proofs.Tables
import ReadingLog.Proofs.SettingsDocument
import ReadingLog.Proofs.FileTrees
import ReadingLog.Proofs.SavedSettings
import ReadingLog.Proofs.SettingUp
import ReadingLog.Proofs.Steps
import ReadingLog.Proofs.VaultRuns
import ReadingLog.Proofs.PatternSets
import ReadingLog.Proofs.Checks
import ReadingLog.Proofs.MendedTemplates
import ReadingLog.Proofs.NamedNotes
import ReadingLog.Proofs.Obstacles
import ReadingLog.Proofs.Origins
import ReadingLog.Proofs.NumbersApart
import ReadingLog.Proofs.FilledTemplates
import ReadingLog.Proofs.NotesByTitle
import ReadingLog.Proofs.UseOfPlaceholders
import ReadingLog.Proofs.DatesAfterAnything
import ReadingLog.Proofs.DatesBeforeAnything
import ReadingLog.Proofs.Candidates
import ReadingLog.Proofs.Discovery
import ReadingLog.Proofs.WrittenPaths
import ReadingLog.Proofs.Utf8
import ReadingLog.Proofs.Walks
import ReadingLog.Proofs.ListMarkers
import ReadingLog.Proofs.Outlines
import ReadingLog.Proofs.NoteEvents
import ReadingLog.Proofs.ItemLines
import ReadingLog.Proofs.Decompositions
import ReadingLog.Proofs.Listings
import ReadingLog.Proofs.MissingSettings
import ReadingLog.Proofs.Directives
import ReadingLog.Proofs.GrowingHistories
