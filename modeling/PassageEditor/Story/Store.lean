import PassageEditor.Story.Basic

/-!
# The story store

The stories that the application holds, at most one for each identifier.  The store gives out the stamps
of revisions, so that no two writes ever share one, and counts the updates that found their passage.
-/

namespace PassageEditor

structure Store where
  stories : List Story
  /-- How many updates changed a passage. -/
  updates : Nat
  nextStamp : Nat

namespace Store

def empty : Store := ⟨[], 0, 0⟩

def story? (s : Store) (id : StoryId) : Option Story :=
  s.stories.find? (·.id = id)

def passage? (s : Store) (story : StoryId) (id : PassageId) : Option Revision :=
  (s.story? story).bind (·.find? id)

/-- A stamp that no revision has yet. -/
def drawStamp (s : Store) : Nat × Store :=
  (s.nextStamp, { s with nextStamp := s.nextStamp + 1 })

/-- Puts `new` in the place of the story with its identifier, or at the end. -/
def putStory (new : Story) : List Story → List Story
  | [] => [new]
  | old :: rest => if old.id = new.id then new :: rest else old :: putStory new rest

/-- Inserts a story, or replaces the one with its identifier. -/
def insertStory (s : Store) (story : Story) : Store :=
  { s with stories := putStory story s.stories }

/-- Appends a passage to a story as it is, without giving it the story's format. -/
def addPassage (s : Store) (story : StoryId) (p : Passage) : Option Revision × Store :=
  match s.story? story with
  | none => (none, s)
  | some st =>
    let (stamp, s) := s.drawStamp
    let added : Revision := ⟨stamp, p⟩
    (some added, s.insertStory { st with passages := st.passages ++ [added] })

/-- Removes every passage with that identifier; tells whether there was one. -/
def removePassage (s : Store) (story : StoryId) (id : PassageId) : Bool × Store :=
  match s.story? story with
  | none => (false, s)
  | some st =>
    let kept := st.passages.filter (·.passage.id ≠ id)
    (kept.length ≠ st.passages.length, s.insertStory { st with passages := kept })

/-- Updates the first passage with that identifier; does nothing when there is none. -/
def updatePassage (s : Store) (story : StoryId) (id : PassageId) (u : Passage.Update) : Store :=
  match s.story? story with
  | none => s
  | some st =>
    match st.update? s.nextStamp id u with
    | none => s
    | some st => { (s.drawStamp.2.insertStory st) with updates := s.updates + 1 }

end Store

end PassageEditor
