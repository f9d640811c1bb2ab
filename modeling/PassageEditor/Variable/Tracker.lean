import PassageEditor.Format.Extensions
import PassageEditor.Variable.Index

/-!
# Tracking the variables of a story

A tracker keeps an index in step with a story.  It scans a passage when its revision is not the one
scanned last, and forgets passages that are gone.  A parser that fails counts as finding nothing.
-/

namespace PassageEditor

structure Tracker where
  index : VariableIndex
  /-- The revision of each passage that was scanned last. -/
  scanned : List (PassageId × Revision)
  hooks : VariableHooks
  /-- The format whose code is called. -/
  format : FormatRef

/-- What a synchronisation did. -/
structure SyncReport where
  rescanned : Nat
  removed : Nat
  faults : Nat
  deriving DecidableEq, Repr

namespace Tracker

def empty (hooks : VariableHooks) (format : FormatRef) : Tracker := ⟨.empty, [], hooks, format⟩

/-- Whether this revision of a passage was scanned last. -/
def hasSeen (t : Tracker) (r : Revision) : Bool :=
  match t.scanned.lookup r.passage.id with
  | some seen => seen.stamp = r.stamp
  | none => false

/-- Takes in what the parser has found in a passage. -/
def rescan (t : Tracker) (report : SyncReport) (r : Revision)
    (found : Except ExtensionFault (List Token)) : Tracker × SyncReport :=
  let (tokens, faults) := match found with
    | .ok tokens => (tokens, 0)
    | .error _ => ([], 1)
  ({ t with
      index := t.index.resetPassage r.passage.id r.passage.name tokens
      scanned := (r.passage.id, r) :: t.scanned.filter (·.1 ≠ r.passage.id) },
    { report with rescanned := report.rescanned + 1, faults := report.faults + faults })

/-- Forgets a passage. -/
def forget (t : Tracker) (r : Revision) : Tracker :=
  { t with
    index := t.index.removePassage r.passage.id r.passage.name
    scanned := t.scanned.filter (·.1 ≠ r.passage.id) }

/-- The revisions of passages that the story no longer has. -/
def departed (t : Tracker) (s : Story) : List Revision :=
  (t.scanned.filter fun p => !s.passages.any (·.passage.id = p.1)).map (·.2)

section Calls

variable {m : Type → Type} [Monad m]

/-- Scans a passage unless its revision is known; how a passage is parsed is given. -/
def scanWith (parse : Tracker → Revision → m (Except ExtensionFault (List Token)))
    (state : Tracker × SyncReport) (r : Revision) : m (Tracker × SyncReport) :=
  let (t, report) := state
  if t.hasSeen r then pure state
  else do
    let found ← parse t r
    pure (t.rescan report r found)

/-- Brings the index in step with a story. -/
def syncWith (parse : Tracker → Revision → m (Except ExtensionFault (List Token))) (t : Tracker)
    (s : Story) : m (SyncReport × Tracker) := do
  let (t, report) ← s.passages.foldlM (scanWith parse) (t, ⟨0, 0, 0⟩)
  let gone := t.departed s
  pure ({ report with removed := gone.length }, gone.foldl forget t)

variable [CallsFormat m]

/-- What the parser of the format finds in a passage. -/
def parseM (t : Tracker) (r : Revision) : m (Except ExtensionFault (List Token)) :=
  t.format.callM .parseDefinitions (t.hooks.parse r.passage.text)

def scanM (state : Tracker × SyncReport) (r : Revision) : m (Tracker × SyncReport) :=
  scanWith parseM state r

def syncM (t : Tracker) (s : Story) : m (SyncReport × Tracker) := syncWith parseM t s

end Calls

def scan (state : Tracker × SyncReport) (r : Revision) : Tracker × SyncReport := Id.run (scanM state r)

def sync (t : Tracker) (s : Story) : SyncReport × Tracker := Id.run (t.syncM s)

end Tracker

end PassageEditor
