import PassageEditor.Commit.Debounce
import PassageEditor.Completion.Complete
import PassageEditor.Format.Registry
import PassageEditor.Markup.Reconciler
import PassageEditor.Session.Error
import PassageEditor.Story.Store

/-!
# An editing session

A session edits one passage of one story.  It holds the draft of the text, the buffer that is attached to
it, the marks drawn there, what the story format contributes, an open completion list, and work put off
until the current handler is done.
-/

namespace PassageEditor

/-- Where the draft is written.  Every target that is made has a serial of its own. -/
structure WriteTarget where
  serial : Nat
  story : StoryId
  passage : PassageId
  deriving DecidableEq, Repr

/-- Work that is put off. -/
inductive Task
  | restoreSelections (ranges : List Selection)
  | renderPlaceholders (focusFirst : Bool)
  | refreshToolbar
  /-- As a click on the widget of a placeholder. -/
  | activatePlaceholder (widget : WidgetId)
  deriving DecidableEq, Repr

structure Session where
  /-- The story as the session knows it. -/
  story : Story
  /-- The revision of the passage in that story. -/
  revision : Revision
  config : Config
  /-- The pattern of variable names for a format without one. -/
  pattern : Pattern.Regex
  hub : Hub
  buffer : Option Buffer
  marks : Markup.Reconciler
  draft : Draft WriteTarget
  nextSerial : Nat
  extensions : Option LoadedExtensions
  /-- The format whose code is called. -/
  format : FormatRef
  tracker : Option Tracker
  health : Health
  crashMessage : Option String
  mode : Option String
  toolbar : List ToolbarItem
  completion : Option CompletionList
  tasks : List Task
  /-- The passages to be opened that the host has not been told of yet. -/
  opened : List PassageId
  /-- The latest time that the session has heard of. -/
  now : Nat

namespace Session

/-- What an operation gives, and the session after it. -/
abbrev Result (α : Type) := Except SessionError α × Session

/-! ### Views -/

/-- The extensions in use: those of the format while the health is full. -/
def activeExtensions (s : Session) : Option Extensions :=
  if s.health.extensionsEnabled then s.extensions.map (·.extensions) else none

/-- The name of the mode where no format has one. -/
def plainMode : String := "text"

def modeName (s : Session) : String :=
  if s.health.extensionsEnabled then s.mode.getD plainMode else plainMode

def localText (s : Session) : String := s.draft.text

def isCommitPending (s : Session) : Bool := s.draft.isPending

def listenerCount (s : Session) : Nat := s.hub.listeners.length

def renderState (s : Session) : RenderState :=
  match s.health with
  | .crashed => .crashed (s.crashMessage.getD "")
  | health => .editor health.extensionsEnabled s.modeName

/-! ### Marks -/

/-- Brings the marks on a buffer, which becomes the attached one, in step with its text. -/
def redraw (s : Session) (b : Buffer) (force : Bool) : Session :=
  let (_, marks, c) := s.marks.reconcile ⟨b, s.hub⟩ s.story force
  { s with marks := marks, hub := c.hub, buffer := some c.buffer }

/-- Draws the placeholders on a buffer anew. -/
def redrawPlaceholders (s : Session) (b : Buffer) : Session :=
  let (_, marks, c) := s.marks.renderPlaceholders ⟨b, s.hub⟩ true
  { s with marks := marks, hub := c.hub, buffer := some c.buffer }

/-- Takes all marks off a buffer. -/
def undraw (s : Session) (b : Buffer) : Buffer × Session :=
  let (_, marks, c) := s.marks.teardown ⟨b, s.hub⟩
  (c.buffer, { s with marks := marks, hub := c.hub })

/-- Takes the text of the attached buffer as an edit. -/
def bufferChanged (s : Session) (b : Buffer) : Session :=
  { s with draft := s.draft.edit b.text s.now }.redraw b false

/-! ### What the format contributes -/

section Format

variable {m : Type → Type} [Monad m] [CallsFormat m]

/-- The passages that the format finds referred to in the text. -/
def referencedPassagesM (s : Session) : m (List String) :=
  match s.activeExtensions with
  | none => pure []
  | some x => x.parseReferencesM s.format s.localText

/-- A tracker of the variables of the story, if the format has any. -/
def freshTrackerM (s : Session) : m (Option Tracker) :=
  match s.activeExtensions.bind (·.variableHooks) with
  | none => pure none
  | some hooks => do
    let (_, tracker) ← (Tracker.empty hooks s.format).syncM s.story
    pure (some tracker)

/-- Starts tracking variables anew. -/
def rebuildVariablesM (s : Session) : m Session := do
  let tracker ← s.freshTrackerM
  pure { s with tracker := tracker }

/-- Builds the syntax mode for the attached buffer. -/
def registerModeM (s : Session) : m Session :=
  match s.activeExtensions, s.buffer with
  | some x, some b => do
    let (mode, b) ← x.registerModeM s.format b
    pure { s with mode := mode, buffer := some b }
  | _, _ => pure { s with mode := none }

/-- Builds the toolbar for the attached buffer; it is empty where that fails. -/
def refreshToolbarM (s : Session) : m Session :=
  match s.activeExtensions.bind (·.toolbar), s.buffer with
  | some build, some b => do
    let context : ToolbarContext := ⟨s.config.theme.name, s.config.foreground, s.config.locale⟩
    let toolbar ← s.format.callOrM .toolbar [] (build b context)
    pure { s with toolbar := toolbar }
  | _, _ => pure { s with toolbar := [] }

/-- Takes up extensions that have been loaded or switched off in the meantime; tells whether anything
changed. -/
def refreshFormatM (s : Session) (formats : Registry) : m (Bool × Session) :=
  let next := formats.extensionsFor s.story.format s.config
  if s.extensions.map (·.stamp) = next.map (·.stamp) then pure (false, s)
  else do
    let s ← { s with extensions := next }.rebuildVariablesM
    let s ← s.registerModeM
    let s ← s.refreshToolbarM
    pure (true, s)

end Format

def referencedPassages (s : Session) : List String := Id.run s.referencedPassagesM

def rebuildVariables (s : Session) : Session := Id.run s.rebuildVariablesM

def registerMode (s : Session) : Session := Id.run s.registerModeM

def refreshToolbar (s : Session) : Session := Id.run s.refreshToolbarM

def refreshFormat (s : Session) (formats : Registry) : Bool × Session := Id.run (s.refreshFormatM formats)

/-! ### Completion lists -/

/-- Closes the completion list and its hints. -/
def closeCompletion (s : Session) : Session :=
  if s.completion.isSome then { s with completion := none, buffer := s.buffer.map (·.closeHints) } else s

/-- Opens a list of a kind at the cursor of the attached buffer; where there is nothing to offer, an open
list is closed. -/
def openCompletionM {m : Type → Type} [Monad m] [CallsFormat m] (s : Session) (b : Buffer)
    (kind : CompletionKind) : m (Result (Option CompletionList)) := do
  match ← Completion.completeM kind b
      ⟨s.story, s.revision.passage.id, s.toolbar, s.tracker, s.pattern⟩ with
  | .error e => pure (.error (.completion e), s)
  | .ok none => pure (.ok none, s.closeCompletion)
  | .ok (some list) =>
    if list.items.isEmpty then pure (.ok none, s.closeCompletion)
    else
      pure (.ok (some list), { s with completion := some list, buffer := some (b.showHints list.hints) })

def openCompletion (s : Session) (b : Buffer) (kind : CompletionKind) : Result (Option CompletionList) :=
  Id.run (s.openCompletionM b kind)

/-! ### Selections and events -/

/-- Tells the listeners of a selection and makes it. -/
def select (s : Session) (ranges : List Selection) : Session :=
  { s with
    hub := (s.hub.dispatch (.beforeSelection ranges)).2
    buffer := s.buffer.map (·.setSelections ranges) }

/-- Carries out what a listener asks for. -/
def applyEffect (s : Session) : Effect → Session
  | .setSelection range => s.select [⟨range.start, range.stop⟩]
  | .openPassage id => { s with opened := s.opened ++ [id] }
  | .preventDefault => s

/-- Gives an event to the listeners and carries out what they ask for. -/
def dispatchEvent (s : Session) (event : Event) : List Effect × Session :=
  let (effects, hub) := s.hub.dispatch event
  (effects, effects.foldl applyEffect { s with hub := hub })

/-- Clicks on the widget of a placeholder. -/
def activatePlaceholder (s : Session) (widget : WidgetId) : Session :=
  (s.dispatchEvent (.click widget .primary ⟨[]⟩)).2

/-- The passages to be opened since the last call. -/
def drainEvents (s : Session) : List PassageId × Session :=
  (s.opened, { s with opened := [] })

end Session

end PassageEditor
