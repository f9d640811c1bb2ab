import PassageEditor.Buffer.Basic

/-!
# User interface events

The events that reach the editor and the effects that answer them.  A click carries the modifier keys that
are held; one modifier is designated to turn a click on a link into following it.
-/

namespace PassageEditor

inductive Modifier
  | alt
  | ctrl
  | «meta»
  | shift
  deriving DecidableEq, Repr, Inhabited

namespace Modifier

def all : List Modifier := [alt, ctrl, .meta, shift]

/-- What preferences call it. -/
def name : Modifier → String
  | alt => "alt"
  | ctrl => "ctrl"
  | «meta» => "meta"
  | shift => "shift"

/-- The name of the key. -/
def keyName : Modifier → String
  | alt => "Alt"
  | ctrl => "Control"
  | «meta» => "Meta"
  | shift => "Shift"

end Modifier

/-- The modifiers that are held down. -/
structure Modifiers where
  held : List Modifier
  deriving Repr

namespace Modifiers

def holds (ms : Modifiers) (m : Modifier) : Bool := ms.held.contains m

/-- Whether a modifier other than the designated one is held. -/
def conflicts (ms : Modifiers) (designated : Modifier) : Bool :=
  Modifier.all.any fun m => m ≠ designated && ms.holds m

/-- Whether the designated modifier is held and no other. -/
def exactly (ms : Modifiers) (designated : Modifier) : Bool :=
  ms.holds designated && !ms.conflicts designated

end Modifiers

inductive MouseButton
  | primary
  | middle
  | secondary
  deriving DecidableEq, Repr

inductive EventKind
  | mouseEnter
  | mouseLeave
  | click
  | keyDown
  | keyUp
  | beforeSelection
  deriving DecidableEq, Repr

inductive Event
  | mouseEnter (target : WidgetId)
  | mouseLeave (target : WidgetId)
  | click (target : WidgetId) (button : MouseButton) (modifiers : Modifiers)
  | keyDown (key : String)
  | keyUp (key : String)
  /-- Comes before the buffer takes a new selection. -/
  | beforeSelection (ranges : List Selection)
  deriving Repr

def Event.kind : Event → EventKind
  | mouseEnter _ => .mouseEnter
  | mouseLeave _ => .mouseLeave
  | click _ _ _ => .click
  | keyDown _ => .keyDown
  | keyUp _ => .keyUp
  | beforeSelection _ => .beforeSelection

/-- What a listener asks for. -/
inductive Effect
  | setSelection (range : Range)
  | openPassage (id : PassageId)
  | preventDefault
  deriving DecidableEq, Repr

end PassageEditor
