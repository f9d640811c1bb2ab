import PassageEditor.Session.Basic

/-!
# What the host can do with a session

Attaching and detaching a buffer, moving the selection, keys, completion, commands, the work they put off,
and crashes.  A crashed session refuses whatever would edit.
-/

namespace PassageEditor.Session

variable {m : Type → Type} [Monad m] {α : Type}

/-- An operation for a session that has not crashed. -/
def whileLiveM (s : Session) (op : m (Result α)) : m (Result α) :=
  if s.health = .crashed then pure (.error .crashed, s) else op

/-- An operation for an attached buffer. -/
def withBufferM (s : Session) (op : Buffer → m (Result α)) : m (Result α) :=
  match s.buffer with
  | none => pure (.error .noEditorAttached, s)
  | some b => op b

def whileLive (s : Session) (op : Result α) : Result α := Id.run (s.whileLiveM op)

def withBuffer (s : Session) (op : Buffer → Result α) : Result α := Id.run (s.withBufferM op)

variable [CallsFormat m]

/-! ### The buffer -/

/-- Attaches a buffer: it gets the text of the draft, its marks, the mode and the toolbar. -/
def attachM (s : Session) (b : Buffer) : m (Result Unit) :=
  s.whileLiveM do
    let s := match s.buffer with
      | none => s
      | some old => (s.undraw old).2
    let s ← (s.redraw (b.setText s.localText) false).registerModeM
    let s ← s.refreshToolbarM
    pure (.ok (), s)

def attach (s : Session) (b : Buffer) : Result Unit := Id.run (s.attachM b)

/-- Detaches the buffer, without its marks and hints; a commit that is pending is dropped. -/
def detach (s : Session) : Option Buffer × Session :=
  match s.buffer with
  | none => (none, s)
  | some b =>
    let (b, s) := s.undraw b
    let b := if s.completion.isSome then b.closeHints else b
    (some b, { s with buffer := none, completion := none, draft := s.draft.drop.2, tasks := [] })

/-- Lets the host change the attached buffer by itself; nothing happens when there is none. -/
def editBuffer (s : Session) (f : Buffer → Buffer) : Session :=
  { s with buffer := s.buffer.map f }

/-! ### Completion -/

/-- Opens the list that the prefix before the cursor asks for, if there is one. -/
def triggerCompletionM (s : Session) : m (Result (Option CompletionList)) :=
  s.whileLiveM <| s.withBufferM fun b =>
    match (Completion.detectPrefix? b).bind fun mark => Completion.classify mark b.cursor with
    | none => pure (.ok none, s)
    | some kind => s.openCompletionM b kind

def triggerCompletion (s : Session) : Result (Option CompletionList) := Id.run s.triggerCompletionM

/-- Makes the open list anew for the cursor; it is closed when the cursor is on another line or before its
start. -/
def refreshCompletionM (s : Session) : m (Result (Option CompletionList)) :=
  s.whileLiveM <|
    match s.completion with
    | none => pure (.ok none, s)
    | some list =>
      s.withBufferM fun b =>
        if b.cursor.line ≠ list.range.start.line ∨ b.cursor < list.range.start then
          pure (.ok none, s.closeCompletion)
        else s.openCompletionM b list.kind

def refreshCompletion (s : Session) : Result (Option CompletionList) := Id.run s.refreshCompletionM

/-- What becomes of the list after an edit: an open one is made anew; without one, a prefix before the
cursor may open one. -/
def followEditM (s : Session) : m (Result (Option CompletionList)) :=
  if s.completion.isSome then s.refreshCompletionM else s.triggerCompletionM

def followEdit (s : Session) : Result (Option CompletionList) := Id.run s.followEditM

/-! ### Commands -/

/-- What running a command does to the buffer: the command of the format if it has one of that name, else
the built-in one. -/
def runCommandM (s : Session) (b : Buffer) (name : String) : m (Except SessionError Unit × Buffer) :=
  match s.activeExtensions.bind (·.commands.lookup name) with
  | some command => do
    let (b, outcome) := command b
    match ← s.format.callM .command outcome with
    | .ok () => pure (.ok (), b)
    | .error fault => pure (.error (.extension fault), b)
  | none =>
    match b.execCommand name with
    | .ok b => pure (.ok (), b)
    | .error e => pure (.error (.surface e), b)

def runCommand (s : Session) (b : Buffer) (name : String) : Except SessionError Unit × Buffer :=
  Id.run (s.runCommandM b name)

/-- Runs a command.  Restoring the selection, drawing the placeholders anew with the first one selected,
and a new toolbar are put off. -/
def execCommandM (s : Session) (name : String) : m (Result Unit) :=
  s.whileLiveM <| s.withBufferM fun b => do
    match ← s.runCommandM b name with
    | (.error e, b) => pure (.error e, { s with buffer := some b })
    | (.ok (), b) =>
      let s := s.bufferChanged b
      pure (.ok (), { s with
        tasks :=
          s.tasks ++ [.restoreSelections b.selections, .renderPlaceholders true, .refreshToolbar] })

def execCommand (s : Session) (name : String) : Result Unit := Id.run (s.execCommandM name)

/-- Picks an entry of the open list; gives the command that ran, if there was one. -/
def pickCompletionM (s : Session) (index : Nat) : m (Result (Option String)) :=
  s.whileLiveM <|
    match s.completion with
    | none => pure (.error .noActiveCompletion, s)
    | some list =>
      s.withBufferM fun b =>
        match Completion.applyPick b list index with
        | .error e => pure (.error (.completion e), s)
        | .ok (command, b) =>
          let s := { s with completion := none }.bufferChanged b.closeHints
          match command with
          | none => pure (.ok none, s)
          | some name => do
            match ← s.execCommandM name with
            | (.error e, s) => pure (.error e, s)
            | (.ok (), s) => pure (.ok (some name), s)

def pickCompletion (s : Session) (index : Nat) : Result (Option String) :=
  Id.run (s.pickCompletionM index)

/-! ### Selections and keys -/

/-- Whether a selection is a lone cursor inside a closed link. -/
def isInLink (b : Buffer) : Bool :=
  match b.selections with
  | [only] =>
    only.isEmpty && match b.lines[only.head.line]? with
      | some line => Completion.cursorInLink line only.head.ch
      | none => false
  | _ => false

/-- What becomes of the list when a selection has been made: an open one follows it; without one, a cursor
inside a closed link opens the list of passages. -/
def followSelectionM (s : Session) : m (Result (Option CompletionList)) :=
  if s.completion.isSome then s.refreshCompletionM
  else s.withBufferM fun b => if isInLink b then s.openCompletionM b .link else pure (.ok none, s)

def followSelection (s : Session) : Result (Option CompletionList) := Id.run s.followSelectionM

/-- Makes the selection that the user asks for, and lets the list follow it. -/
def changeSelectionM (s : Session) (ranges : List Selection) : m (Result Unit) :=
  s.whileLiveM <| s.withBufferM fun _ => do
    let (r, s) ← (s.select ranges).followSelectionM
    pure (r.map fun _ => (), s)

def changeSelection (s : Session) (ranges : List Selection) : Result Unit :=
  Id.run (s.changeSelectionM ranges)

/-- Goes to another placeholder; tells whether there was one. -/
def cycle (s : Session) (next : List Range → Position → Option Range) : Result Bool :=
  s.whileLive <| s.withBuffer fun b =>
    let live := s.marks.livePlaceholders b
    match next (live.map (·.1)) b.cursor with
    | none => (.ok false, s)
    | some target =>
      match live.find? (·.1 = target) with
      | some (_, widget) => (.ok true, s.activatePlaceholder widget)
      | none => (.ok true, s)

/-- The tabulator goes to the next placeholder, and with shift to the one before; tells whether the key
was used. -/
def handleKey (s : Session) (key : String) : Result Bool :=
  match key with
  | "Tab" => s.cycle Markup.nextRange?
  | "Shift-Tab" => s.cycle Markup.previousRange?
  | _ => (.ok false, s)

/-! ### Work that was put off -/

/-- Does one piece of work; without an editor it is skipped. -/
def runTaskM (s : Session) (task : Task) : m Session :=
  match s.buffer with
  | none => pure s
  | some b =>
    if s.health = .crashed then pure s
    else
      match task with
      | .restoreSelections ranges => pure (s.select ranges)
      | .renderPlaceholders focusFirst =>
        let s := s.redrawPlaceholders b
        match s.buffer.bind s.marks.firstPlaceholder? with
        | some (_, widget) =>
          if focusFirst then pure { s with tasks := s.tasks ++ [.activatePlaceholder widget] } else pure s
        | none => pure s
      | .refreshToolbar => s.refreshToolbarM
      | .activatePlaceholder widget => pure (s.activatePlaceholder widget)

def runTask (s : Session) (task : Task) : Session := Id.run (s.runTaskM task)

/-- Does the work that is waiting, at most `fuel` pieces; gives how many. -/
def drainTasksM : (fuel : Nat) → Session → m (Nat × Session)
  | 0, s => pure (0, s)
  | fuel + 1, s =>
    match s.tasks with
    | [] => pure (0, s)
    | task :: rest => do
      let s ← { s with tasks := rest }.runTaskM task
      let (n, s) ← drainTasksM fuel s
      pure (n + 1, s)

def drainTasks (fuel : Nat) (s : Session) : Nat × Session := Id.run (drainTasksM fuel s)

/-- Does all the work that is waiting, and what comes up on the way: one more piece for a drawing at
most. -/
def runTasksM (s : Session) : m (Nat × Session) :=
  drainTasksM (2 * s.tasks.length) s

def runTasks (s : Session) : Nat × Session := Id.run s.runTasksM

/-! ### Crashes -/

/-- What is left after the first crash: nothing of the format, and the marks drawn anew. -/
def withoutExtensions (s : Session) : Session :=
  let s := { s.closeCompletion with tracker := none, mode := none, toolbar := [], tasks := [] }
  match s.buffer with
  | none => s
  | some b =>
    let (b, s) := s.undraw b
    s.redraw b true

/-- What is left after the second crash: the message, and a buffer without marks. -/
def shutDown (s : Session) (message : String) : Session :=
  let s := { s.closeCompletion with crashMessage := some (Payload.flattened 160 message), tasks := [] }
  match s.buffer with
  | none => s
  | some b =>
    let (b, s) := s.undraw b
    { s with buffer := some b }

/-- Records a crash of the editor. -/
def reportCrash (s : Session) (message : String) : RenderState × Session :=
  let s := { s with health := s.health.afterCrash }
  let s := match s.health with
    | .full => s
    | .extensionsDisabled => s.withoutExtensions
    | .crashed => s.shutDown message
  (s.renderState, s)

/-- Runs an action; a panic counts as a crash of the editor. -/
def runGuarded (s : Session) (action : Session → Except Payload (Except SessionError α) × Session) :
    Result α :=
  match action s with
  | (.ok r, s) => (r, s)
  | (.error payload, s) =>
    let (_, s) := s.reportCrash payload.summary
    (.error (.surfacePanicked payload.summary), s)

end PassageEditor.Session
