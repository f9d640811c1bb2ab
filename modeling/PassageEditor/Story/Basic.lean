import PassageEditor.Json.Reader
import PassageEditor.Story.Id

/-!
# Stories and passages

A story is an ordered list of passage revisions.  Every write makes a new revision with a stamp of its
own, so two revisions are the same exactly when their stamps are: content alone does not tell a stale copy
from a new one.
-/

namespace PassageEditor

/-- A place on the story map. -/
structure MapPoint where
  left : Float
  top : Float

/-- The size of a card on the story map. -/
structure MapSize where
  width : Float
  height : Float

/-- The name and version of a story format. -/
structure FormatRef where
  name : String
  version : String
  deriving DecidableEq, Repr, Inhabited

structure Passage where
  id : PassageId
  name : String
  text : String
  tags : List String
  /-- The format of the story; empty until the passage joins one. -/
  format : FormatRef
  position : MapPoint
  size : MapSize

namespace Passage

/-- A passage that belongs to no story yet, at the corner of the map. -/
def fresh (id : PassageId) (name text : String) (tags : List String) : Passage :=
  ⟨id, name, text, tags, ⟨"", ""⟩, ⟨0.0, 0.0⟩, ⟨100.0, 100.0⟩⟩

/-- The fields that an update replaces; a missing one stays as it is. -/
structure Update where
  name : Option String
  text : Option String
  tags : Option (List String)
  deriving DecidableEq, Repr

/-- An update of the text alone. -/
def Update.ofText (text : String) : Update := ⟨none, some text, none⟩

def updated (p : Passage) (u : Update) : Passage :=
  { p with name := u.name.getD p.name, text := u.text.getD p.text, tags := u.tags.getD p.tags }

end Passage

/-- A passage as it was written at one moment. -/
structure Revision where
  stamp : Nat
  passage : Passage

structure Story where
  id : StoryId
  name : String
  format : FormatRef
  passages : List Revision

namespace Story

/-- Appends a passage under the story's format. -/
def addPassage (s : Story) (stamp : Nat) (p : Passage) : Story :=
  { s with passages := s.passages ++ [⟨stamp, { p with format := s.format }⟩] }

def find? (s : Story) (id : PassageId) : Option Revision :=
  s.passages.find? (·.passage.id = id)

def findNamed? (s : Story) (name : String) : Option Revision :=
  s.passages.find? (·.passage.name = name)

/-- Whether two stories hold the same revisions in the same order. -/
def samePassages (s t : Story) : Bool :=
  s.passages.map (·.stamp) = t.passages.map (·.stamp)

/-- Replaces the first revision of a passage by `f` of it; `none` if the story has no such passage. -/
def replaceFirst? (f : Revision → Revision) (id : PassageId) : List Revision → Option (List Revision)
  | [] => none
  | r :: rest =>
    if r.passage.id = id then some (f r :: rest) else (replaceFirst? f id rest).map (r :: ·)

/-- The story after an update of its first passage with that identifier, as a new revision. -/
def update? (s : Story) (stamp : Nat) (id : PassageId) (u : Passage.Update) : Option Story :=
  (replaceFirst? (fun r => ⟨stamp, r.passage.updated u⟩) id s.passages).map fun ps =>
    { s with passages := ps }

/-- The story without its first passage with that identifier. -/
def removeFirst (s : Story) (id : PassageId) : Story :=
  { s with passages := s.passages.eraseP (·.passage.id = id) }

/-- Moves the passage at one place to another; a place out of range changes nothing. -/
def move (s : Story) (source target : Nat) : Story :=
  match s.passages[source]? with
  | none => s
  | some r =>
    if target < s.passages.length then
      { s with passages := (s.passages.eraseIdx source).insertIdx target r }
    else s

end Story

/-! ### Reading passages

The JSON form of a passage.  Only the format of the story may be left out. -/

open Json

def PassageId.reader : Reader PassageId := .located do
  let s ← .text "a formatted UUID string"
  match Id.ofText? s with
  | some n => return ⟨n⟩
  | none => .mismatch "UUID"

def MapPoint.reader : Reader MapPoint :=
  .record "struct MapPoint"
    [⟨"left", true, do let x ← .float; return ({ · with left := x })⟩,
     ⟨"top", true, do let x ← .float; return ({ · with top := x })⟩]
    ⟨0.0, 0.0⟩

def MapSize.reader : Reader MapSize :=
  .record "struct MapSize"
    [⟨"width", true, do let x ← .float; return ({ · with width := x })⟩,
     ⟨"height", true, do let x ← .float; return ({ · with height := x })⟩]
    ⟨0.0, 0.0⟩

def Passage.reader : Reader Passage :=
  .record "struct Passage"
    [⟨"id", true, do let x ← PassageId.reader; return ({ · with id := x })⟩,
     ⟨"name", true, do let x ← .text "a string"; return ({ · with name := x })⟩,
     ⟨"text", true, do let x ← .text "a string"; return ({ · with text := x })⟩,
     ⟨"tags", true, do let x ← .list (.text "a string"); return ({ · with tags := x })⟩,
     ⟨"story_format", false, do
        let x ← .text "a string"; return fun p => { p with format := { p.format with name := x } }⟩,
     ⟨"story_format_version", false, do
        let x ← .text "a string"; return fun p => { p with format := { p.format with version := x } }⟩,
     ⟨"position", true, do let x ← MapPoint.reader; return ({ · with position := x })⟩,
     ⟨"size", true, do let x ← MapSize.reader; return ({ · with size := x })⟩]
    (Passage.fresh ⟨0⟩ "" "" [])

def Passage.ofJson (s : String) : Except Json.Error Passage := Passage.reader.ofText s

end PassageEditor
