import PassageEditor.Buffer.Basic
import PassageEditor.Buffer.Edit
import PassageEditor.Commit.Debounce
import PassageEditor.Completion.Basic
import PassageEditor.Completion.Complete
import PassageEditor.Config
import PassageEditor.Decimal
import PassageEditor.Event.Basic
import PassageEditor.Event.Hub
import PassageEditor.Format.Extensions
import PassageEditor.Format.Hook
import PassageEditor.Format.Registry
import PassageEditor.Format.Toolbar
import PassageEditor.Json.Decode
import PassageEditor.Json.Error
import PassageEditor.Json.Reader
import PassageEditor.Json.Reader.Basic
import PassageEditor.Json.Reader.Number
import PassageEditor.Json.Reader.Quoted
import PassageEditor.Json.Reader.Scalar
import PassageEditor.Json.Reader.Skip
import PassageEditor.Json.Reader.Structure
import PassageEditor.Json.Value
import PassageEditor.Logging
import PassageEditor.Markup.Reconciler
import PassageEditor.Markup.Scan
import PassageEditor.Pattern.Basic
import PassageEditor.Pattern.Bracket
import PassageEditor.Pattern.CharSet
import PassageEditor.Pattern.Escape
import PassageEditor.Pattern.Group
import PassageEditor.Pattern.Parser
import PassageEditor.Ranking
import PassageEditor.Session.Basic
import PassageEditor.Session.Desk
import PassageEditor.Session.Error
import PassageEditor.Session.Operations
import PassageEditor.Story.Basic
import PassageEditor.Story.Id
import PassageEditor.Story.Store
import PassageEditor.Text.CaseMap
import PassageEditor.Text.Category
import PassageEditor.Text.Category.Alphanumeric
import PassageEditor.Text.Category.Mark
import PassageEditor.Text.Category.Punctuation
import PassageEditor.Text.Category.Symbol
import PassageEditor.Text.Class
import PassageEditor.Text.CodePoint
import PassageEditor.Text.Conversion
import PassageEditor.Text.Line
import PassageEditor.Text.Position
import PassageEditor.Text.Property
import PassageEditor.Text.Script
import PassageEditor.Variable.Index
import PassageEditor.Variable.Token
import PassageEditor.Variable.Tracker
import PassageEditor.Proofs.Buffer.Checked
import PassageEditor.Proofs.Buffer.Covered
import PassageEditor.Proofs.Buffer.Follow
import PassageEditor.Proofs.Buffer.Marks
import PassageEditor.Proofs.Buffer.Order
import PassageEditor.Proofs.Buffer.Replaced
import PassageEditor.Proofs.Buffer.Reset
import PassageEditor.Proofs.Buffer.Splice
import PassageEditor.Proofs.Commit.Draft
import PassageEditor.Proofs.Commit.Writes
import PassageEditor.Proofs.Completion.Commands
import PassageEditor.Proofs.Completion.LinkList
import PassageEditor.Proofs.Completion.Names
import PassageEditor.Proofs.Completion.Passages
import PassageEditor.Proofs.Completion.Span
import PassageEditor.Proofs.Completion.Unfiltered
import PassageEditor.Proofs.Completion.Words
import PassageEditor.Proofs.Format.Calls
import PassageEditor.Proofs.Format.Equations
import PassageEditor.Proofs.Format.Keys
import PassageEditor.Proofs.Format.Lifecycle
import PassageEditor.Proofs.Lookup
import PassageEditor.Proofs.Markup.Churn
import PassageEditor.Proofs.Markup.Clickable
import PassageEditor.Proofs.Markup.Dispatch
import PassageEditor.Proofs.Markup.Drawn
import PassageEditor.Proofs.Markup.Equipped
import PassageEditor.Proofs.Markup.Kept
import PassageEditor.Proofs.Markup.Leftmost
import PassageEditor.Proofs.Markup.LinkGrammar
import PassageEditor.Proofs.Markup.LinkPass
import PassageEditor.Proofs.Markup.Links
import PassageEditor.Proofs.Markup.Live
import PassageEditor.Proofs.Markup.Matches
import PassageEditor.Proofs.Markup.Ownership
import PassageEditor.Proofs.Markup.Passes
import PassageEditor.Proofs.Markup.PlaceholderEvents
import PassageEditor.Proofs.Markup.PlaceholderGrammar
import PassageEditor.Proofs.Markup.Placeholders
import PassageEditor.Proofs.Markup.Scene
import PassageEditor.Proofs.Markup.Search
import PassageEditor.Proofs.Markup.Text
import PassageEditor.Proofs.Pattern.Expression
import PassageEditor.Proofs.Ranking.Confidence
import PassageEditor.Proofs.Ranking.FloatOrder
import PassageEditor.Proofs.Ranking.Narrowed
import PassageEditor.Proofs.Ranking.Perfect
import PassageEditor.Proofs.Session.Agreement
import PassageEditor.Proofs.Session.Binding
import PassageEditor.Proofs.Session.Calls
import PassageEditor.Proofs.Session.CommandPick
import PassageEditor.Proofs.Session.Commit
import PassageEditor.Proofs.Session.Deferred
import PassageEditor.Proofs.Session.Edits
import PassageEditor.Proofs.Session.Equations
import PassageEditor.Proofs.Session.Errors
import PassageEditor.Proofs.Session.Frames
import PassageEditor.Proofs.Session.Hints
import PassageEditor.Proofs.Session.InStep
import PassageEditor.Proofs.Session.Inert
import PassageEditor.Proofs.Session.Isolation
import PassageEditor.Proofs.Session.LinkCursor
import PassageEditor.Proofs.Session.Listeners
import PassageEditor.Proofs.Session.Listing
import PassageEditor.Proofs.Session.MarkFrames
import PassageEditor.Proofs.Session.MarkInvariants
import PassageEditor.Proofs.Session.NoCalls
import PassageEditor.Proofs.Session.OpenList
import PassageEditor.Proofs.Session.Picks
import PassageEditor.Proofs.Session.PlaceholderCycle
import PassageEditor.Proofs.Session.Refusals
import PassageEditor.Proofs.Session.Run
import PassageEditor.Proofs.Session.Selected
import PassageEditor.Proofs.Session.Stale
import PassageEditor.Proofs.Session.StoreText
import PassageEditor.Proofs.Session.UpToDate
import PassageEditor.Proofs.Session.Work
import PassageEditor.Proofs.Story.Contents
import PassageEditor.Proofs.Story.Stamps
import PassageEditor.Proofs.Text.Columns
import PassageEditor.Proofs.Text.Lines
import PassageEditor.Proofs.Variable.Coherence
import PassageEditor.Proofs.Variable.Define
import PassageEditor.Proofs.Variable.Follows
import PassageEditor.Proofs.Variable.History
import PassageEditor.Proofs.Variable.Identity
import PassageEditor.Proofs.Variable.Natives
import PassageEditor.Proofs.Variable.Objects
import PassageEditor.Proofs.Variable.Parses
import PassageEditor.Proofs.Variable.Repeat
import PassageEditor.Proofs.Variable.Rescan
import PassageEditor.Proofs.Variable.Scan
import PassageEditor.Proofs.Variable.Scanned
import PassageEditor.Proofs.Variable.Sound
import PassageEditor.Proofs.Variable.Tracking
import PassageEditor.Proofs.Variable.Visible
