import PassageEditor.Event.Basic

/-!
# The event hub

The hub numbers listeners and widgets in the order of their creation and never uses a number twice.  An
event goes to the listeners of its kind that are registered when it arrives, in the order of their
numbers: one that is removed on the way still gets it, one that is added on the way does not.  A listener
is given by what it does.
-/

namespace PassageEditor

structure ListenerId where
  value : Nat
  deriving DecidableEq, Repr

/-- The element drawn over a mark. -/
structure Widget where
  id : WidgetId
  cls : String
  text : String
  passage : Option PassageId
  selected : Bool
  clickable : Bool
  /-- Whether the mouse is over the widget. -/
  hovered : Bool
  /-- Whether the link modifier went down last. -/
  armed : Bool
  deriving DecidableEq, Repr

/-- A listener that the host of the editor supplies: it may remove and add listeners, then gives fixed
effects. -/
structure HostListener where
  removes : Option ListenerId
  adds : Option EventKind
  effects : List Effect
  deriving Repr

/-- What a listener does with an event of its kind. -/
inductive Reaction
  /-- A click on the widget selects the range. -/
  | selectOnClick (widget : WidgetId) (range : Range)
  /-- The widget is selected while the selection hits the range. -/
  | followSelection (widget : WidgetId) (range : Range)
  /-- The mouse enters or leaves the widget. -/
  | hover (widget : WidgetId) (entered : Bool)
  /-- The link modifier goes down or up. -/
  | arm (widget : WidgetId) (designated : Modifier) (down : Bool)
  /-- A primary click on the widget, the designated modifier alone being held, opens the passage. -/
  | openOnClick (widget : WidgetId) (designated : Modifier) (passage : PassageId)
  | host (listener : HostListener)
  deriving Repr

structure Listener where
  id : ListenerId
  kind : EventKind
  reaction : Reaction
  deriving Repr

structure Hub where
  /-- In the order of creation. -/
  listeners : List Listener
  nextListener : Nat
  /-- Every widget ever made, in the order of creation. -/
  widgets : List Widget
  deriving Repr

/-- Whether a selection lands on a placeholder: it is a single range that starts, as it was drawn, at the
start of the placeholder and is empty or covers it. -/
def selectionHits (ranges : List Selection) (range : Range) : Bool :=
  match ranges with
  | [only] => only.anchor = range.start && (only.head = range.start || only.head = range.stop)
  | _ => false

namespace Hub

def empty : Hub := ⟨[], 0, []⟩

def add (h : Hub) (kind : EventKind) (reaction : Reaction) : ListenerId × Hub :=
  (⟨h.nextListener⟩,
    { h with
      listeners := h.listeners ++ [⟨⟨h.nextListener⟩, kind, reaction⟩]
      nextListener := h.nextListener + 1 })

/-- Adds several listeners and gives their numbers. -/
def addAll (h : Hub) : List (EventKind × Reaction) → List ListenerId × Hub
  | [] => ([], h)
  | (kind, reaction) :: rest =>
    let (id, h) := h.add kind reaction
    let (ids, h) := h.addAll rest
    (id :: ids, h)

/-- Whether the listener was there is the first component. -/
def remove (h : Hub) (id : ListenerId) : Bool × Hub :=
  (h.listeners.any (·.id = id), { h with listeners := h.listeners.filter (·.id ≠ id) })

def removeAll (h : Hub) (ids : List ListenerId) : Hub :=
  { h with listeners := h.listeners.filter fun l => !ids.contains l.id }

def count (h : Hub) (kind : EventKind) : Nat :=
  (h.listeners.filter (·.kind = kind)).length

/-! ### Widgets -/

def addWidget (h : Hub) (cls text : String) (passage : Option PassageId) : WidgetId × Hub :=
  (⟨h.widgets.length⟩,
    { h with
      widgets := h.widgets ++ [⟨⟨h.widgets.length⟩, cls, text, passage, false, false, false, false⟩] })

def widget? (h : Hub) (id : WidgetId) : Option Widget := h.widgets[id.value]?

def modifyWidget (h : Hub) (id : WidgetId) (f : Widget → Widget) : Hub :=
  { h with widgets := h.widgets.modify id.value f }

/-- A link can be clicked while the mouse is over it and the modifier is down. -/
def refreshClickable (w : Widget) : Widget := { w with clickable := w.hovered && w.armed }

/-! ### Dispatch -/

/-- What the hub and the effects are after one listener has seen an event. -/
def react (h : Hub) (event : Event) : Reaction → List Effect × Hub
  | .selectOnClick widget range =>
    match event with
    | .click target _ _ => (if target = widget then [.setSelection range] else [], h)
    | _ => ([], h)
  | .followSelection widget range =>
    match event with
    | .beforeSelection ranges =>
      ([], h.modifyWidget widget ({ · with selected := selectionHits ranges range }))
    | _ => ([], h)
  | .hover widget entered =>
    match event with
    | .mouseEnter target | .mouseLeave target =>
      ([],
        if target = widget then h.modifyWidget widget (refreshClickable { · with hovered := entered })
        else h)
    | _ => ([], h)
  | .arm widget designated down =>
    match event with
    | .keyDown key | .keyUp key =>
      ([],
        if key = designated.keyName then h.modifyWidget widget (refreshClickable { · with armed := down })
        else h)
    | _ => ([], h)
  | .openOnClick widget designated passage =>
    match event with
    | .click target button modifiers =>
      (if target = widget && button = .primary && modifiers.exactly designated then
        [.preventDefault, .openPassage passage] else [], h)
    | _ => ([], h)
  | .host listener =>
    let h := match listener.removes with
      | some id => (h.remove id).2
      | none => h
    let h := match listener.adds with
      | some kind => (h.add kind (.host ⟨none, none, [.preventDefault]⟩)).2
      | none => h
    (listener.effects, h)

/-- Gives an event to the listeners in the list, one after the other. -/
def deliver (event : Event) : Hub → List Listener → List Effect × Hub
  | h, [] => ([], h)
  | h, l :: rest =>
    let (effects, h) := h.react event l.reaction
    let (more, h) := deliver event h rest
    (effects ++ more, h)

/-- Gives an event to the listeners of its kind. -/
def dispatch (h : Hub) (event : Event) : List Effect × Hub :=
  deliver event h (h.listeners.filter (·.kind = event.kind))

end Hub

end PassageEditor
