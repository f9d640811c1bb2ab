import Mathlib.Logic.Relation
import PassageEditor.Proofs.Buffer.Marks
import PassageEditor.Proofs.Markup.Text

/-!
# A buffer, its marks and the passes over them

A scene is a canvas with the reconciler that keeps its marks.  It goes through edits of the text and
passes.  A pass is a sequence of moves: a handle from before is released or cleared, or a new mark of the
class that the pass is for is drawn (`Move`).  Moves leave the text alone and never use a number twice
(`Later`); the marks of other classes and the listeners of other handles stay as they are.
-/

namespace PassageEditor

/-- Every listener has a number below the next one. -/
def Hub.Numbered (h : Hub) : Prop := ∀ l ∈ h.listeners, l.id.value < h.nextListener

namespace Markup

/-! ### Scenes -/

structure Scene where
  canvas : Canvas
  marks : Reconciler

namespace Scene

inductive Step
  | edit (e : Buffer.Edit)
  | placeholders (force : Bool)
  | links (story : Story)

/-- A text without marks. -/
def start (designated : Modifier) (text : String) : Scene := ⟨⟨.ofText text, .empty⟩, .empty designated⟩

def step (s : Scene) : Step → Scene
  | .edit e => { s with canvas := { s.canvas with buffer := s.canvas.buffer.edit e } }
  | .placeholders force =>
    let (_, r, c) := s.marks.renderPlaceholders s.canvas force
    ⟨c, r⟩
  | .links story =>
    let (_, r, c) := s.marks.renderLinks s.canvas story
    ⟨c, r⟩

/-- Brings all marks in step with the text. -/
def reconcile (s : Scene) (story : Story) (force : Bool) : Scene :=
  let (_, r, c) := s.marks.reconcile s.canvas story force
  ⟨c, r⟩

/-- That is a pass over the placeholders and one over the links. -/
theorem reconcile_eq (s : Scene) (story : Story) (force : Bool) :
    s.reconcile story force = (s.step (.placeholders force)).step (.links story) := rfl

end Scene

/-! ### Moves -/

/-- Draws a mark with a widget and its listeners. -/
def Handle.place (c : Canvas) (cls : MarkClass) (text : String) (passage : Option PassageId)
    (range : Range) (listeners : WidgetId → List (EventKind × Reaction)) : Handle × Canvas :=
  let (h, c) := Handle.draw c cls text passage range
  let (h, hub) := h.listen c.hub (listeners h.widget)
  (h, { c with hub := hub })

theorem drawPlaceholder_eq (c : Canvas) (p : Placeholder) :
    Reconciler.drawPlaceholder c p =
      Handle.place c .placeholder p.label none p.range fun widget =>
        placeholderListeners widget p.range := rfl

theorem drawLink_eq (c : Canvas) (designated : Modifier) (link : Link) :
    Reconciler.drawLink c designated link =
      Handle.place c .passageLink "" (some link.key.passage) link.range fun widget =>
        linkListeners widget link.key.passage designated := rfl

/-- A handle from before is released or cleared, or a mark of the class is drawn. -/
inductive Move (cls : MarkClass) (old : List Handle) (c : Canvas) : Canvas → Prop
  | release {h : Handle} (hold : h ∈ old) : Move cls old c { c with hub := h.release c.hub }
  | clear {h : Handle} (hold : h ∈ old) : Move cls old c (h.clear c)
  | place (text : String) (passage : Option PassageId) (range : Range)
      (listeners : WidgetId → List (EventKind × Reaction)) :
      Move cls old c (Handle.place c cls text passage range listeners).2

abbrev Moves (cls : MarkClass) (old : List Handle) :
    Canvas → Canvas → Prop := Relation.ReflTransGen (Move cls old)

/-! ### Adding listeners -/

theorem nextListener_addAll (h : Hub) (listeners : List (EventKind × Reaction)) :
    (h.addAll listeners).2.nextListener = h.nextListener + listeners.length := by
  induction listeners generalizing h with
  | nil => rfl
  | cons l listeners ih =>
    have hnext : (h.add l.1 l.2).2.nextListener = h.nextListener + 1 := rfl
    show ((h.add l.1 l.2).2.addAll listeners).2.nextListener = _
    rw [ih, hnext, List.length_cons]
    omega

/-- Listeners that are added get numbers that were free, and the others stay. -/
theorem addAll_listeners (h : Hub) (listeners : List (EventKind × Reaction)) :
    (∀ id ∈ (h.addAll listeners).1,
      h.nextListener ≤ id.value ∧ id.value < (h.addAll listeners).2.nextListener) ∧
      ∃ added, (h.addAll listeners).2.listeners = h.listeners ++ added ∧
        ∀ l ∈ added, h.nextListener ≤ l.id.value ∧ l.id.value < (h.addAll listeners).2.nextListener := by
  induction listeners generalizing h with
  | nil =>
    refine ⟨?_, [], by simp [Hub.addAll], by simp⟩
    intro id hid
    exact absurd hid (by simp [Hub.addAll])
  | cons l listeners ih =>
    obtain ⟨hids, added, hadded, hfresh⟩ := ih (h.add l.1 l.2).2
    have hnext : (h.add l.1 l.2).2.nextListener = h.nextListener + 1 := rfl
    have htotal := nextListener_addAll (h.add l.1 l.2).2 listeners
    have hall : h.addAll (l :: listeners) =
        (⟨h.nextListener⟩ :: ((h.add l.1 l.2).2.addAll listeners).1,
          ((h.add l.1 l.2).2.addAll listeners).2) := rfl
    rw [hall]
    dsimp only
    rw [hnext] at hids hfresh htotal
    refine ⟨?_, ⟨⟨h.nextListener⟩, l.1, l.2⟩ :: added, ?_, ?_⟩
    · intro id hid
      rcases List.mem_cons.1 hid with rfl | hid
      · exact ⟨Nat.le_refl _, by rw [htotal]; show h.nextListener < _; omega⟩
      · have := hids id hid
        exact ⟨by omega, this.2⟩
    · rw [hadded]
      simp [Hub.add]
    · intro l' hl'
      rcases List.mem_cons.1 hl' with rfl | hl'
      · exact ⟨Nat.le_refl _, by rw [htotal]; show h.nextListener < _; omega⟩
      · have := hfresh l' hl'
        exact ⟨by omega, this.2⟩

/-! ### What moves leave alone -/

/-- A canvas after some moves: the same text, and every mark is one from before or has a number that was
free then. -/
structure Later (c c' : Canvas) : Prop where
  lines : c'.buffer.lines = c.buffer.lines
  nextMark : c.buffer.nextMark ≤ c'.buffer.nextMark
  nextListener : c.hub.nextListener ≤ c'.hub.nextListener
  marks : ∀ m ∈ c'.buffer.marks, m ∈ c.buffer.marks ∨ c.buffer.nextMark ≤ m.id.value
  numbered : c.buffer.Numbered → c'.buffer.Numbered
  hub : c.hub.Numbered → c'.hub.Numbered

namespace Later

variable {c c' c'' : Canvas}

theorem refl (c : Canvas) : Later c c := ⟨rfl, Nat.le_refl _, Nat.le_refl _, fun _ hm => .inl hm, id, id⟩

theorem trans (h : Later c c') (h' : Later c' c'') : Later c c'' where
  lines := h'.lines.trans h.lines
  nextMark := Nat.le_trans h.nextMark h'.nextMark
  nextListener := Nat.le_trans h.nextListener h'.nextListener
  marks m hm := by
    rcases h'.marks m hm with hm | hle
    · exact h.marks m hm
    · exact .inr (Nat.le_trans h.nextMark hle)
  numbered := h'.numbered ∘ h.numbered
  hub := h'.hub ∘ h.hub

theorem of_move {cls : MarkClass} {old : List Handle} (h : Move cls old c c') : Later c c' := by
  cases h with
  | release hold =>
    exact ⟨rfl, Nat.le_refl _, Nat.le_refl _, fun _ hm => .inl hm, id,
      fun hub l hl => hub l (List.mem_filter.1 hl).1⟩
  | clear hold =>
    exact ⟨rfl, Nat.le_refl _, Nat.le_refl _, fun _ hm => .inl (List.mem_filter.1 hm).1,
      fun hn => hn.clearMark _,
      fun hub l hl => hub l (List.mem_filter.1 hl).1⟩
  | place text passage range listeners =>
    let widget : WidgetId × Hub := c.hub.addWidget cls.name text passage
    obtain ⟨-, added, hadded, hfresh⟩ := addAll_listeners widget.2 (listeners widget.1)
    have hnext := nextListener_addAll widget.2 (listeners widget.1)
    refine ⟨rfl, Nat.le_succ _, ?_, ?_, fun hn => hn.addMark _ _, ?_⟩
    · show c.hub.nextListener ≤ (widget.2.addAll (listeners widget.1)).2.nextListener
      rw [hnext]
      exact Nat.le_add_right _ _
    · intro m hm
      rcases List.mem_append.1 hm with hm | hm
      · exact .inl hm
      · obtain rfl := List.mem_singleton.1 hm
        exact .inr (Nat.le_refl _)
    · intro hub l hl
      have hl : l ∈ (widget.2.addAll (listeners widget.1)).2.listeners := hl
      show l.id.value < (widget.2.addAll (listeners widget.1)).2.nextListener
      rw [hadded] at hl
      rcases List.mem_append.1 hl with hl | hl
      · have hlt : l.id.value < c.hub.nextListener := hub l hl
        have hsame : widget.2.nextListener = c.hub.nextListener := rfl
        omega
      · exact (hfresh l hl).2

theorem of_moves {cls : MarkClass} {old : List Handle} (h : Moves cls old c c') : Later c c' := by
  induction h with
  | refl => exact refl c
  | tail _ hmove ih => exact ih.trans (of_move hmove)

theorem covers (h : Later c c') {r : Range} {cs : List Char} (hr : c.buffer.Covers r cs) :
    c'.buffer.Covers r cs := by
  refine hr.of_chars_eq ?_
  unfold Buffer.chars
  rw [h.lines]

end Later

/-- The marks that the handles hold are of the class. -/
def Handle.HoldAll (cls : MarkClass) (handles : List Handle) (b : Buffer) : Prop :=
  ∀ h ∈ handles, ∀ m ∈ b.marks, m.id = h.mark → m.info.cls = cls

/-- The marks of a class. -/
def marksOf (cls : MarkClass) (b : Buffer) : List Mark := b.marks.filter (·.info.cls = cls)

theorem mem_marksOf {cls : MarkClass} {b : Buffer} {m : Mark} :
    m ∈ marksOf cls b ↔ m ∈ b.marks ∧ m.info.cls = cls := by
  simp [marksOf]

private theorem marksOf_clear {cls other : MarkClass} (hne : other ≠ cls) {h : Handle} {b : Buffer}
    (hold : ∀ m ∈ b.marks, m.id = h.mark → m.info.cls = cls) :
    (b.marks.filter (·.id ≠ h.mark)).filter (·.info.cls = other) = marksOf other b := by
  unfold marksOf
  rw [List.filter_filter]
  refine List.filter_congr ?_
  intro m hm
  by_cases hid : m.id = h.mark
  · have hcls := hold m hm hid
    have hother : ¬ m.info.cls = other := fun heq => hne (heq.symm.trans hcls)
    simp [hother]
  · simp [hid]

/-- Moves leave the marks of other classes alone. -/
private theorem marksOf_move {cls other : MarkClass} (hne : other ≠ cls) {old : List Handle}
    {c c' : Canvas} (h : Move cls old c c') (hold : Handle.HoldAll cls old c.buffer) :
    marksOf other c'.buffer = marksOf other c.buffer ∧ Handle.HoldAll cls old c'.buffer := by
  cases h with
  | release hmem => exact ⟨rfl, hold⟩
  | @clear h hmem =>
    exact ⟨marksOf_clear hne (hold h hmem), fun g hg m hm => hold g hg m (List.mem_filter.1 hm).1⟩
  | place text passage range listeners =>
    constructor
    · show (c.buffer.marks ++ [_]).filter _ = _
      rw [List.filter_append, List.filter_cons_of_neg, List.filter_nil, List.append_nil]
      · rfl
      · simpa using Ne.symm hne
    · intro g hg m hm hid
      rcases List.mem_append.1 hm with hm | hm
      · exact hold g hg m hm hid
      · obtain rfl := List.mem_singleton.1 hm
        rfl

theorem marksOf_moves {cls other : MarkClass} (hne : other ≠ cls) {old : List Handle} {c c' : Canvas}
    (h : Moves cls old c c') (hold : Handle.HoldAll cls old c.buffer) :
    marksOf other c'.buffer = marksOf other c.buffer ∧ Handle.HoldAll cls old c'.buffer := by
  induction h with
  | refl => exact ⟨rfl, hold⟩
  | tail _ hmove ih =>
    obtain ⟨hsame, hold'⟩ := marksOf_move hne hmove ih.2
    exact ⟨hsame.trans ih.1, hold'⟩

/-! ### Clicks -/

namespace Handle

/-- The listeners of a handle. -/
def ownListeners (h : Handle) (hub : Hub) : List Listener :=
  hub.listeners.filter fun l => h.listeners.contains l.id

/-- The ranges that a click on the widget of a handle selects through the listeners of that handle. -/
def clickRanges (h : Handle) (hub : Hub) : List Range :=
  (hub.listeners.filter fun l => h.listeners.contains l.id).filterMap fun l =>
    match l.kind, l.reaction with
    | .click, .selectOnClick widget range => if widget = h.widget then some range else none
    | _, _ => none

private theorem clickRanges_congr {h : Handle} {hub hub' : Hub}
    (heq : h.ownListeners hub' = h.ownListeners hub) :
    h.clickRanges hub' = h.clickRanges hub := by
  unfold ownListeners at heq
  unfold clickRanges
  rw [heq]

theorem ownListeners_release {g h : Handle} (hub : Hub) (hapart : ∀ id ∈ g.listeners, id ∉ h.listeners) :
    g.ownListeners (h.release hub) = g.ownListeners hub := by
  show (hub.listeners.filter fun l => !h.listeners.contains l.id).filter _ = hub.listeners.filter _
  rw [List.filter_filter]
  refine List.filter_congr ?_
  intro l _
  by_cases hl : l.id ∈ g.listeners
  · simp [hl, hapart l.id hl]
  · simp [hl]

theorem ownListeners_addAll {g : Handle} {hub : Hub}
    (hbelow : ∀ id ∈ g.listeners, id.value < hub.nextListener) (listeners : List (EventKind × Reaction)) :
    g.ownListeners (hub.addAll listeners).2 = g.ownListeners hub := by
  obtain ⟨-, added, hadded, hfresh⟩ := addAll_listeners hub listeners
  have hnone : (added.filter fun l => g.listeners.contains l.id) = [] := by
    rw [List.filter_eq_nil_iff]
    intro l hl hmem
    have hge := (hfresh l hl).1
    have hlt := hbelow l.id (by simpa using hmem)
    omega
  unfold ownListeners
  rw [hadded, List.filter_append, hnone, List.append_nil]

/-- Moves leave the listeners of other handles alone. -/
private theorem clickRanges_move {cls : MarkClass} {old : List Handle} {c c' : Canvas}
    (h : Move cls old c c') {g : Handle} (hbelow : ∀ id ∈ g.listeners, id.value < c.hub.nextListener)
    (hapart : ∀ h ∈ old, ∀ id ∈ g.listeners, id ∉ h.listeners) :
    g.clickRanges c'.hub = g.clickRanges c.hub := by
  cases h with
  | release hmem => exact clickRanges_congr (ownListeners_release c.hub (hapart _ hmem))
  | clear hmem => exact clickRanges_congr (ownListeners_release c.hub (hapart _ hmem))
  | place text passage range listeners =>
    let widget : WidgetId × Hub := c.hub.addWidget cls.name text passage
    have hbelow' : ∀ id ∈ g.listeners, id.value < widget.2.nextListener := hbelow
    have hown : g.ownListeners (widget.2.addAll (listeners widget.1)).2 = g.ownListeners widget.2 :=
      ownListeners_addAll hbelow' _
    exact clickRanges_congr hown

theorem clickRanges_moves {cls : MarkClass} {old : List Handle} {c c' : Canvas} (h : Moves cls old c c')
    {g : Handle} (hbelow : ∀ id ∈ g.listeners, id.value < c.hub.nextListener)
    (hapart : ∀ h ∈ old, ∀ id ∈ g.listeners, id ∉ h.listeners) :
    g.clickRanges c'.hub = g.clickRanges c.hub := by
  induction h with
  | refl => rfl
  | tail hmoves hmove ih =>
    have hlater := (Later.of_moves hmoves).nextListener
    refine (clickRanges_move hmove (fun id hid => ?_) hapart).trans ih
    exact Nat.lt_of_lt_of_le (hbelow id hid) hlater

end Handle

end Markup

end PassageEditor
