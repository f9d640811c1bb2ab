import PassageEditor.Proofs.Buffer.Follow
import PassageEditor.Proofs.Markup.Live
import PassageEditor.Proofs.Session.MarkInvariants

/-!
# Sessions in step with their buffer

A session is in step with its buffer when its live placeholders are (`Session.InStep`).  It is whenever
they have just been drawn (`inStep_redraw`, `inStep_redrawPlaceholders`), and stays so while nothing but
the selection changes (`InStep.select`).  It is upheld that widgets answer for their own placeholder alone
(`Desk.attuned_run`): a click on the widget of a live placeholder selects it
(`activatePlaceholder_of_live`), and one on a widget of an earlier drawing comes to nothing
(`activatePlaceholder_of_stale`).
-/

namespace PassageEditor

open Markup

theorem upheld_attuned : Upheld Attuned where
  start _ := ⟨.empty, ⟨by simp [Reconciler.empty], by simp [Reconciler.empty]⟩, [], rfl, .empty rfl⟩
  placeholders force h := h.renderPlaceholders force
  links story h := h.renderLinks story
  teardown h := h.teardown
  event event h := h.dispatch event

theorem Desk.attuned_run {store : Store} {formats : Registry} {story : StoryId} {passage : PassageId}
    {config : Config} {s : Session} (h : Session.open? store formats story passage config = .ok s)
    (turns : List Desk.Turn) :
    let t := (turns.foldl Desk.turn ⟨store, s⟩).session
    Attuned t.hub t.marks := (Desk.upholds_run upheld_attuned h turns).holds

namespace Session

variable {s : Session} {b : Buffer} {foreign : List MarkId}

/-- The live placeholders of the session are in step with a buffer. -/
def InStep (s : Session) (b : Buffer) : Prop := s.marks.InStep ⟨b, s.hub⟩

/-! ### Drawing -/

/-- A pass that draws the placeholders, because it is forced to or because the text is another than the
one that they were drawn for. -/
theorem inStep_redraw (hattuned : Attuned s.hub s.marks) (howned : Owned b foreign s.marks.handles)
    {force : Bool} (hdraws : force = true ∨ s.marks.source ≠ some b.text) :
    ∃ c, (s.redraw b force).buffer = some c ∧ (s.redraw b force).InStep c ∧ Reconciler.Exact c foreign :=
  ⟨_, rfl, Reconciler.inStep_reconcile (c := ⟨b, s.hub⟩) hattuned howned s.story hdraws⟩

theorem inStep_redrawPlaceholders (hattuned : Attuned s.hub s.marks)
    (howned : Owned b foreign s.marks.handles) :
    ∃ c, (s.redrawPlaceholders b).buffer = some c ∧ (s.redrawPlaceholders b).InStep c ∧
      Reconciler.Exact c foreign :=
  ⟨_, rfl, Reconciler.inStep_renderPlaceholders (c := ⟨b, s.hub⟩) hattuned howned (.inl rfl)⟩

/-! ### Selecting -/

/-- The widgets are the same after a selection, and answer for the same ranges. -/
private theorem tuned_select (hattuned : Attuned s.hub s.marks) (ranges : List Selection)
    {drawn : List (Handle × Range)} (htuned : Tuned s.hub drawn) : Tuned (s.select ranges).hub drawn := by
  refine htuned.of_same ?_ (Nat.le_of_eq (Hub.length_widgets_dispatch hattuned.wired.own _).symm)
  show (s.hub.dispatch (.beforeSelection ranges)).2.listeners.filter _ = s.hub.listeners.filter _
  rw [(listeners_dispatch hattuned.wired.own (.beforeSelection ranges)).1]

private theorem livePlaceholders_setSelections (r : Reconciler) (b : Buffer) (ranges : List Selection) :
    r.livePlaceholders (b.setSelections ranges) = r.livePlaceholders b := by
  obtain ⟨selections, _, hselected⟩ := b.exists_setSelections ranges
  refine Reconciler.livePlaceholders_congr rfl fun h _ => ?_
  rw [hselected]
  rfl

/-- Selecting leaves the placeholders in step. -/
theorem InStep.select (h : s.InStep b) (hattuned : Attuned s.hub s.marks) (ranges : List Selection) :
    (s.select ranges).InStep (b.setSelections ranges) := by
  obtain ⟨drawn, hdrawn, htuned⟩ := hattuned.tuned
  have hlines : (b.setSelections ranges).lines = b.lines := by
    obtain ⟨selections, _, hselected⟩ := b.exists_setSelections ranges
    rw [hselected]
  exact Reconciler.InStep.of_same h hattuned.wired.own
    (hattuned.dispatch (.beforeSelection ranges)).wired.own hdrawn
    htuned (tuned_select hattuned ranges htuned) (livePlaceholders_setSelections _ _ _) hlines

theorem holds_of_mem_scanPlaceholders {p : Placeholder} (hp : p ∈ scanPlaceholders b.lines) :
    b.Holds p.range := by
  obtain ⟨front, rest, hspans⟩ := covers_of_mem_scanPlaceholders hp
  exact Buffer.Spans.holds hspans (by simp [Placeholder.chars])

/-- A range of the text is selected as it is. -/
theorem setSelections_of_holds {r : Range} (h : b.Holds r) :
    b.setSelections [⟨r.start, r.stop⟩] = b.selectOnly ⟨r.start, r.stop⟩ := by
  unfold Buffer.setSelections Buffer.selectOnly
  simp [Buffer.clamp_of_inside h.1, Buffer.clamp_of_inside h.2.1]

/-- The first live placeholder stands at the first placeholder of the text. -/
theorem InStep.map_firstPlaceholder? (h : s.InStep b) :
    (s.marks.firstPlaceholder? b).map (·.1) = (scanPlaceholders b.lines).head?.map (·.range) := by
  unfold Reconciler.firstPlaceholder?
  rw [← List.head?_map, ← List.head?_map, h.ranges]

theorem InStep.length_firstPlaceholder? (h : s.InStep b) :
    (s.marks.firstPlaceholder? b).toList.length = if scanPlaceholders b.lines = [] then 0 else 1 := by
  have hhead := h.map_firstPlaceholder?
  rcases hscan : scanPlaceholders b.lines with _ | ⟨p, ps⟩
  · rw [hscan] at hhead
    rw [Option.map_eq_none_iff.1 hhead]
    rfl
  · rw [hscan] at hhead
    obtain ⟨x, hx, -⟩ := Option.map_eq_some_iff.1 hhead
    rw [hx]
    rfl

/-! ### Clicks -/

/-- A click on the widget of a live placeholder selects where it stands. -/
theorem activatePlaceholder_of_live (h : s.InStep b) (hattuned : Attuned s.hub s.marks)
    {x : Range × WidgetId} (hx : x ∈ s.marks.livePlaceholders b) :
    s.activatePlaceholder x.2 = s.select [⟨x.1.start, x.1.stop⟩] := by
  obtain ⟨drawn, hdrawn, htuned⟩ := hattuned.tuned
  obtain ⟨d, hd, rfl⟩ := Reconciler.InStep.exists_drawn h hattuned.wired.own hdrawn htuned hx
  unfold activatePlaceholder dispatchEvent
  rw [htuned.dispatch_click_of_mem hattuned.wired.own hd]
  rfl

/-- A click on a widget that no placeholder has comes to nothing. -/
theorem activatePlaceholder_of_stale (hattuned : Attuned s.hub s.marks) {widget : WidgetId}
    (hnone : ∀ g ∈ s.marks.placeholders, g.widget ≠ widget) : s.activatePlaceholder widget = s := by
  obtain ⟨drawn, hdrawn, htuned⟩ := hattuned.tuned
  have hnone' : ∀ d ∈ drawn, d.1.widget ≠ widget := by
    intro d hd
    refine hnone d.1 ?_
    rw [← hdrawn]
    exact List.mem_map_of_mem hd
  unfold activatePlaceholder dispatchEvent
  rw [htuned.dispatch_click_of_not_mem hattuned.wired.own hnone']
  rfl

end Session

end PassageEditor
