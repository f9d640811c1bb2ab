import PassageEditor.Buffer.Edit
import PassageEditor.Event.Hub
import PassageEditor.Markup.Scan

/-!
# Keeping marks in step with the text

What is drawn for a piece of markup is a mark on the buffer, a widget over it, and the listeners that make
it live.  Placeholders are drawn anew whenever the text has changed.  Links are matched by target and
start: a mark that moved with the text to where its link is now stays, the others go, and only links
without a mark get a new one.
-/

namespace PassageEditor.Markup

/-! ### Handles

A handle remembers what has been drawn, so that it can be taken away together. -/

/-- What markup is drawn on: a buffer and the hub of its events. -/
structure Canvas where
  buffer : Buffer
  hub : Hub

structure Handle where
  mark : MarkId
  cls : MarkClass
  passage : Option PassageId
  widget : WidgetId
  listeners : List ListenerId
  deriving DecidableEq, Repr

namespace Handle

/-- Draws a mark with a widget but no listeners. -/
def draw (c : Canvas) (cls : MarkClass) (text : String) (passage : Option PassageId) (range : Range) :
    Handle × Canvas :=
  let (widget, hub) := c.hub.addWidget cls.name text passage
  let (mark, buffer) := c.buffer.addMark range ⟨cls, passage, some widget⟩
  (⟨mark, cls, passage, widget, []⟩, ⟨buffer, hub⟩)

/-- Adds listeners to a handle. -/
def listen (h : Handle) (hub : Hub) (listeners : List (EventKind × Reaction)) : Handle × Hub :=
  let (ids, hub) := hub.addAll listeners
  ({ h with listeners := h.listeners ++ ids }, hub)

/-- Takes the listeners away and leaves the mark. -/
def release (h : Handle) (hub : Hub) : Hub := hub.removeAll h.listeners

/-- Takes the mark and the listeners away. -/
def clear (h : Handle) (c : Canvas) : Canvas :=
  ⟨(c.buffer.clearMark h.mark).2, h.release c.hub⟩

def clearAll (handles : List Handle) (c : Canvas) : Canvas :=
  handles.foldl (fun c h => h.clear c) c

end Handle

/-! ### The reconciler -/

/-- How many marks a pass has made and taken away. -/
structure Report where
  created : Nat
  cleared : Nat
  deriving DecidableEq, Repr

namespace Report

def none : Report := ⟨0, 0⟩

def add (a b : Report) : Report := ⟨a.created + b.created, a.cleared + b.cleared⟩

def isNoop (r : Report) : Bool := r.created == 0 && r.cleared == 0

end Report

structure Reconciler where
  designated : Modifier
  placeholders : List Handle
  /-- The text that the placeholders were drawn for. -/
  source : Option String
  /-- In the order of their keys, each key once. -/
  links : List (LinkKey × Handle)
  deriving DecidableEq

namespace Reconciler

def empty (designated : Modifier) : Reconciler := ⟨designated, [], none, []⟩

/-! ### Placeholders -/

/-- Draws one placeholder. -/
def drawPlaceholder (c : Canvas) (p : Placeholder) : Handle × Canvas :=
  let (h, c) := Handle.draw c .placeholder p.label none p.range
  let (h, hub) := h.listen c.hub (placeholderListeners h.widget p.range)
  (h, { c with hub := hub })

def drawPlaceholders (c : Canvas) : List Placeholder → List Handle × Canvas
  | [] => ([], c)
  | p :: rest =>
    let (h, c) := drawPlaceholder c p
    let (hs, c) := drawPlaceholders c rest
    (h :: hs, c)

/-- Draws the placeholders anew if the text has changed or if it is forced to. -/
def renderPlaceholders (r : Reconciler) (c : Canvas) (force : Bool) : Report × Reconciler × Canvas :=
  let text := c.buffer.text
  if !force && r.source = some text then (.none, r, c)
  else
    let (handles, c) :=
      drawPlaceholders (Handle.clearAll r.placeholders c) (scanPlaceholders c.buffer.lines)
    (⟨handles.length, r.placeholders.length⟩, { r with placeholders := handles, source := some text }, c)

/-! ### Links -/

/-- Puts a handle under its key; a handle that was there comes back. -/
def insertLink (key : LinkKey) (h : Handle) :
    List (LinkKey × Handle) → Option Handle × List (LinkKey × Handle)
  | [] => (none, [(key, h)])
  | (k, g) :: rest =>
    if k = key then (some g, (key, h) :: rest)
    else if key.le k then (none, (key, h) :: (k, g) :: rest)
    else
      let (old, rest) := insertLink key h rest
      (old, (k, g) :: rest)

/-- The links under the keys for where their marks stand now, as far as they are done, and how many marks
are gone. -/
structure Rekeyed where
  links : List (LinkKey × Handle)
  cleared : Nat
  canvas : Canvas

/-- Takes one old link over.  A link whose mark was swallowed by an edit goes, and so does an earlier one
that the same key belongs to. -/
def rekey (s : Rekeyed) (h : Handle) : Rekeyed :=
  match s.canvas.buffer.findMark? h.mark, h.passage with
  | some mark, some passage =>
    match insertLink ⟨passage, mark.range.start⟩ h s.links with
    | (none, links) => { s with links := links }
    | (some old, links) => ⟨links, s.cleared + 1, old.clear s.canvas⟩
  | _, _ => { s with cleared := s.cleared + 1, canvas := { s.canvas with hub := h.release s.canvas.hub } }

/-- Draws one link. -/
def drawLink (c : Canvas) (designated : Modifier) (link : Link) : Handle × Canvas :=
  let passage := link.key.passage
  let (h, c) := Handle.draw c .passageLink "" (some passage) link.range
  let (h, hub) := h.listen c.hub (linkListeners h.widget passage designated)
  (h, { c with hub := hub })

/-- Draws the links that have no mark yet; gives how many. -/
def drawMissing (designated : Modifier) :
    List Link → List (LinkKey × Handle) → Canvas → Nat × List (LinkKey × Handle) × Canvas
  | [], links, c => (0, links, c)
  | link :: rest, links, c =>
    if links.any (·.1 = link.key) then drawMissing designated rest links c
    else
      let (h, c) := drawLink c designated link
      let (n, links, c) := drawMissing designated rest (insertLink link.key h links).2 c
      (n + 1, links, c)

/-- Brings the marks of links in step with the links of the text. -/
def renderLinks (r : Reconciler) (c : Canvas) (story : Story) : Report × Reconciler × Canvas :=
  let moved := (r.links.map (·.2)).foldl rekey ⟨[], 0, c⟩
  let wanted := scanLinks c.buffer.lines story
  let isWanted (p : LinkKey × Handle) := wanted.any (·.key = p.1)
  let stale := moved.links.filter fun p => !isWanted p
  let c := Handle.clearAll (stale.map (·.2)) moved.canvas
  let (created, links, c) := drawMissing r.designated wanted (moved.links.filter isWanted) c
  (⟨created, moved.cleared + stale.length⟩, { r with links := links }, c)

/-- Brings all marks in step with the text. -/
def reconcile (r : Reconciler) (c : Canvas) (story : Story) (force : Bool) :
    Report × Reconciler × Canvas :=
  let (first, r, c) := r.renderPlaceholders c force
  let (second, r, c) := r.renderLinks c story
  (first.add second, r, c)

/-- Takes all marks away; gives how many there were. -/
def teardown (r : Reconciler) (c : Canvas) : Nat × Reconciler × Canvas :=
  (r.placeholders.length + r.links.length, empty r.designated,
    Handle.clearAll (r.links.map (·.2)) (Handle.clearAll r.placeholders c))

/-! ### What is drawn -/

/-- The placeholders whose marks are there, with their widgets, in document order. -/
def livePlaceholders (r : Reconciler) (b : Buffer) : List (Range × WidgetId) :=
  (r.placeholders.filterMap fun h => (b.findMark? h.mark).map fun m => (m.range, h.widget)).mergeSort
    fun x y => x.1.start ≤ y.1.start

def firstPlaceholder? (r : Reconciler) (b : Buffer) : Option (Range × WidgetId) :=
  (r.livePlaceholders b).head?

end Reconciler

end PassageEditor.Markup
