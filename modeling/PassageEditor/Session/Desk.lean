import PassageEditor.Session.Operations

/-!
# A session and the store

Opening a session on a passage of the store, and what keeps the two in step: writing the draft when its
time has come, and taking over what others have written.  Time only moves forward, and a write that is due
comes before anything else.
-/

namespace PassageEditor

structure Desk where
  store : Store
  session : Session

variable {m : Type → Type} [Monad m] [CallsFormat m]

namespace Session

/-- Opens a session on a passage. -/
def open? (store : Store) (formats : Registry) (story : StoryId) (passage : PassageId) (config : Config) :
    Except SessionError Session :=
  match config.validate, config.nameRegex? with
  | .error e, _ => .error (.config e)
  | .ok (), none => .error (.config (.invalidPattern config.namePattern))
  | .ok (), some pattern =>
    match store.story? story with
    | none => .error (.storyNotFound story)
    | some st =>
      match st.find? passage with
      | none => .error (.passageNotFound passage)
      | some r =>
        let s : Session :=
          { story := st, revision := r, config := config, pattern := pattern
            hub := .empty, buffer := none
            marks := .empty config.linkModifier
            draft := .ofText r.passage.text ⟨0, story, passage⟩ config.debounce
            nextSerial := 1, extensions := formats.extensionsFor st.format config, format := st.format
            tracker := none, health := .full, crashMessage := none, mode := none, toolbar := []
            completion := none, tasks := [], opened := [], now := 0 }
        .ok s.rebuildVariables

end Session

namespace Desk

/-- Does something with the session alone. -/
def onSessionM {α : Type} (d : Desk) (f : Session → m (α × Session)) : m (α × Desk) := do
  let (a, s) ← f d.session
  pure (a, { d with session := s })

/-- Moves the time forward and writes the draft if it is due; tells whether it was. -/
def tick (d : Desk) (now : Nat) : Bool × Desk :=
  let now := max d.session.now now
  match d.session.draft.poll now with
  | (none, draft) => (false, { d with session := { d.session with now := now, draft := draft } })
  | (some commit, draft) =>
    (true,
      { store := d.store.updatePassage commit.target.story commit.target.passage (.ofText commit.text)
        session := { d.session with now := now, draft := draft } })

/-- Takes an edit that the host has already made on the buffer. -/
def localChangeM (d : Desk) (now : Nat) : m (Except SessionError Unit × Desk) :=
  if d.session.health = .crashed then pure (.error .crashed, d)
  else
    let (_, d) := d.tick now
    d.onSessionM fun s => s.withBufferM fun b => do
      let (r, s) ← (s.bufferChanged b).followEditM
      pure (r.map fun _ => (), s)

def localChange (d : Desk) (now : Nat) : Except SessionError Unit × Desk := Id.run (d.localChangeM now)

end Desk

namespace Session

/-- Brings the marks in step with the text of the attached buffer, unless the session has crashed. -/
def freshenMarks (s : Session) : Session :=
  match s.buffer with
  | none => s
  | some b => if s.health = .crashed then s else s.redraw b false

/-- The tracker of the session in step with a story. -/
def syncedTrackerM (s : Session) (story : Story) : m (Option Tracker) :=
  match s.tracker with
  | none => pure none
  | some t => do
    let (_, t) ← t.syncM story
    pure (some t)

/-- Takes over a story in which the passage has the given revision. -/
def adoptM (s : Session) (story : Story) (r : Revision) : m Session := do
  let (_, draft) := s.draft.retarget ⟨s.nextSerial, story.id, r.passage.id⟩ s.now
  let (changed, draft) := draft.adopt r.passage.text
  let tracker ← s.syncedTrackerM story
  pure (freshenMarks { s with
    draft := draft
    nextSerial := s.nextSerial + 1
    story := story
    revision := r
    buffer := if changed then s.buffer.map (·.setText r.passage.text) else s.buffer
    tracker := tracker })

def adopt (s : Session) (story : Story) (r : Revision) : Session := Id.run (s.adoptM story r)

end Session

namespace Desk

/-- Takes over a story that has changed.  If a write was due, the story is out of date, and the one in the
store counts. -/
def storyChangeM (d : Desk) (story : Story) (now : Nat) : m (Except SessionError Unit × Desk) :=
  let (fired, d) := d.tick now
  let story := if fired then (d.store.story? story.id).getD story else story
  match story.find? d.session.revision.passage.id with
  | none => pure (.error (.passageNotFound d.session.revision.passage.id), d)
  | some r =>
    if r.stamp = d.session.revision.stamp ∧ story.samePassages d.session.story then pure (.ok (), d)
    else do
      let s ← d.session.adoptM story r
      pure (.ok (), { d with session := s })

def storyChange (d : Desk) (story : Story) (now : Nat) : Except SessionError Unit × Desk :=
  Id.run (d.storyChangeM story now)

/-- Reads the story from the store again and takes it over. -/
def syncFromStoreM (d : Desk) (now : Nat) : m (Except SessionError Unit × Desk) :=
  let (_, d) := d.tick now
  match d.store.story? d.session.story.id with
  | none => pure (.error (.storyNotFound d.session.story.id), d)
  | some story => d.storyChangeM story now

def syncFromStore (d : Desk) (now : Nat) : Except SessionError Unit × Desk :=
  Id.run (d.syncFromStoreM now)

end Desk

end PassageEditor
