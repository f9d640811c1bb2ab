import PassageEditor.Proofs.Markup.Drawn
import PassageEditor.Proofs.Markup.Ownership

/-!
# What placeholders answer to

A placeholder has two listeners: a click on its widget selects its range, and its widget is selected while
the selection hits the range.  Of all listeners in the hub just those are of these two sorts (`Tuned`),
whatever is drawn and cleared (`Attuned`).  So a plain click on a widget asks for the range of its
placeholder, or for nothing where the widget is of none (`Tuned.dispatch_click`), and a change of the
selection is seen by the widgets of the placeholders and by nothing else
(`Tuned.dispatch_beforeSelection`).
-/

namespace PassageEditor

namespace Reaction

/-- Whether it is a reaction of a placeholder. -/
def selects : Reaction → Bool
  | selectOnClick _ _ => true
  | followSelection _ _ => true
  | _ => false

/-- What it asks for when a widget is clicked and no modifier is held. -/
def clicked (widget : WidgetId) : Reaction → List Effect
  | selectOnClick own range => if widget = own then [.setSelection range] else []
  | _ => []

private theorem clicked_of_not_selects {reaction : Reaction} (h : reaction.selects = false)
    (widget : WidgetId) :
    reaction.clicked widget = [] := by
  cases reaction <;> first | rfl | simp [selects] at h

private theorem effects_plain_click (reaction : Reaction) (widget : WidgetId) :
    reaction.effects (.click widget .primary ⟨[]⟩) = reaction.clicked widget := by
  cases reaction with
  | openOnClick own designated passage => simp [effects, clicked, Modifiers.exactly, Modifiers.holds]
  | _ => rfl

private theorem effects_beforeSelection (reaction : Reaction) (ranges : List Selection) :
    reaction.effects (.beforeSelection ranges) = [] := by
  cases reaction <;> rfl

end Reaction

namespace Hub

/-- The listeners of placeholders. -/
def selecting (h : Hub) : List Listener := h.listeners.filter (·.reaction.selects)

/-- Makes a widget selected or not as a selection hits a range. -/
def mark (ranges : List Selection) (h : Hub) (widget : WidgetId) (range : Range) : Hub :=
  h.modifyWidget widget ({ · with selected := selectionHits ranges range })

/-- The hub when a reaction has seen a selection that is about to be made. -/
def follow (ranges : List Selection) (h : Hub) : Reaction → Hub
  | .followSelection widget range => h.mark ranges widget range
  | _ => h

private theorem follow_of_not_selects {reaction : Reaction} (h : reaction.selects = false)
    (ranges : List Selection) (hub : Hub) : hub.follow ranges reaction = hub := by
  cases reaction <;> first | rfl | simp [Reaction.selects] at h

private theorem touch_beforeSelection (ranges : List Selection) (h : Hub) (reaction : Reaction) :
    h.touch (.beforeSelection ranges) reaction = h.follow ranges reaction := by
  cases reaction with
  | followSelection => rfl
  | host => rfl
  | _ => exact h.modifyWidget_id _

end Hub

namespace Markup

/-- The listeners of a handle that was drawn for a range. -/
def Handle.selectors (h : Handle) (range : Range) : List Listener :=
  List.zipWith (fun id l => ⟨id, l.1, l.2⟩) h.listeners (placeholderListeners h.widget range)

/-- The listeners of placeholders are those of the handles, each for the range that it was drawn for.  The
widgets are in the order of their creation. -/
structure Tuned (hub : Hub) (drawn : List (Handle × Range)) : Prop where
  selecting : hub.selecting = drawn.flatMap fun d => d.1.selectors d.2
  paired : ∀ d ∈ drawn, d.1.listeners.length = 2
  increasing : drawn.Pairwise fun d e => d.1.widget.value < e.1.widget.value
  below : ∀ d ∈ drawn, d.1.widget.value < hub.widgets.length

/-! ### Drawing and clearing -/

private theorem Handle.mem_of_mem_selectors {h : Handle} {range : Range} {l : Listener}
    (hl : l ∈ h.selectors range) :
    l.id ∈ h.listeners := by
  unfold selectors at hl
  rw [← List.map_uncurry_zip_eq_zipWith] at hl
  obtain ⟨x, hx, rfl⟩ := List.mem_map.1 hl
  exact (List.of_mem_zip hx).1

namespace Tuned

variable {hub hub' : Hub} {c : Canvas} {drawn : List (Handle × Range)}

theorem empty (h : hub.selecting = []) : Tuned hub [] := ⟨h, by simp, List.Pairwise.nil, by simp⟩

theorem of_same (h : Tuned hub drawn) (hselecting : hub'.selecting = hub.selecting)
    (hwidgets : hub.widgets.length ≤ hub'.widgets.length) : Tuned hub' drawn :=
  ⟨hselecting.trans h.selecting, h.paired, h.increasing,
    fun d hd => Nat.lt_of_lt_of_le (h.below d hd) hwidgets⟩

/-- A listener of a placeholder is that of one of the handles. -/
private theorem exists_handle (h : Tuned hub drawn) {l : Listener} (hl : l ∈ hub.selecting) :
    ∃ d ∈ drawn, l.id ∈ d.1.listeners := by
  rw [h.selecting] at hl
  obtain ⟨d, hd, hl⟩ := List.mem_flatMap.1 hl
  exact ⟨d, hd, Handle.mem_of_mem_selectors hl⟩

private theorem drawPlaceholder (h : Tuned c.hub drawn) (p : Placeholder) :
    Tuned (Reconciler.drawPlaceholder c p).2.hub
      (drawn ++ [((Reconciler.drawPlaceholder c p).1, p.range)]) := by
  have hlisteners : (Reconciler.drawPlaceholder c p).2.hub.selecting =
      c.hub.selecting ++ (Reconciler.drawPlaceholder c p).1.selectors p.range := by
    show (c.hub.listeners ++ [_] ++ [_]).filter _ = _
    rw [List.append_assoc, List.filter_append]
    rfl
  have hwidgets : (Reconciler.drawPlaceholder c p).2.hub.widgets.length = c.hub.widgets.length + 1 := by
    show (c.hub.widgets ++ [_]).length = _
    rw [List.length_append, List.length_singleton]
  have hwidget : (Reconciler.drawPlaceholder c p).1.widget.value = c.hub.widgets.length := rfl
  refine ⟨?_, ?_, ?_, ?_⟩
  · rw [hlisteners, h.selecting, List.flatMap_append, List.flatMap_singleton]
  · intro d hd
    rcases List.mem_append.1 hd with hd | hd
    · exact h.paired d hd
    · obtain rfl := List.mem_singleton.1 hd
      rfl
  · rw [List.pairwise_append]
    refine ⟨h.increasing, List.pairwise_singleton _ _, fun d hd e he => ?_⟩
    obtain rfl := List.mem_singleton.1 he
    rw [hwidget]
    exact h.below d hd
  · intro d hd
    rw [hwidgets]
    rcases List.mem_append.1 hd with hd | hd
    · exact Nat.lt_succ_of_lt (h.below d hd)
    · obtain rfl := List.mem_singleton.1 hd
      rw [hwidget]
      exact Nat.lt_succ_self _

private theorem drawPlaceholders (h : Tuned c.hub drawn) (ps : List Placeholder) :
    Tuned (Reconciler.drawPlaceholders c ps).2.hub
      (drawn ++ (Reconciler.drawPlaceholders c ps).1.zip (ps.map (·.range))) := by
  induction ps generalizing c drawn with
  | nil => simpa [Reconciler.drawPlaceholders] using h
  | cons p ps ih =>
    have hrest := ih (h.drawPlaceholder p)
    rw [List.append_assoc] at hrest
    exact hrest

/-- When the handles have been cleared no listener of a placeholder is left. -/
private theorem clearAll (h : Tuned c.hub drawn) :
    Tuned (Handle.clearAll (drawn.map (·.1)) c).hub [] := by
  refine .empty (List.filter_eq_nil_iff.2 fun l hl hselects => ?_)
  obtain ⟨hl, hnone⟩ := Handle.mem_listeners_clearAll.1 hl
  obtain ⟨d, hd, hid⟩ := h.exists_handle (List.mem_filter.2 ⟨hl, hselects⟩)
  exact hnone d.1 (List.mem_map_of_mem hd) hid

/-- Clearing handles with listeners of their own leaves those of placeholders alone. -/
private theorem clearOthers (h : Tuned c.hub drawn) {gone : List Handle}
    (hapart : ∀ g ∈ gone, ∀ d ∈ drawn, ∀ id ∈ d.1.listeners, id ∉ g.listeners) :
    Tuned (Handle.clearAll gone c).hub drawn := by
  induction gone generalizing c with
  | nil => exact h
  | cons g gone ih =>
    refine ih (c := g.clear c) (h.of_same ?_ (Nat.le_refl _)) fun k hk =>
      hapart k (List.mem_cons_of_mem _ hk)
    show (c.hub.listeners.filter fun l => !g.listeners.contains l.id).filter _ = c.hub.listeners.filter _
    rw [List.filter_filter]
    refine List.filter_congr fun l hl => ?_
    by_cases hselects : l.reaction.selects
    · obtain ⟨d, hd, hid⟩ := h.exists_handle (List.mem_filter.2 ⟨hl, hselects⟩)
      simp [hselects, hapart g List.mem_cons_self d hd l.id hid]
    · simp [hselects]

/-- Links have no listeners like those of placeholders. -/
private theorem drawMissing (h : Tuned c.hub drawn) (designated : Modifier) (wanted : List Link)
    (links : List (LinkKey × Handle)) :
    Tuned (Reconciler.drawMissing designated wanted links c).2.2.hub drawn := by
  induction wanted generalizing links c with
  | nil => exact h
  | cons link rest ih =>
    unfold Reconciler.drawMissing
    split
    · exact ih h links
    · have hgrows : Grows c (Reconciler.drawLink c designated link).2 := by
        rw [drawLink_eq]
        exact grows_place _ _ _ _ _ _
      refine ih (h.of_same ?_ hgrows.widgets.length_le) _
      show (c.hub.listeners ++ [_] ++ [_] ++ [_] ++ [_] ++ [_]).filter _ = _
      simp only [List.append_assoc, List.filter_append]
      exact List.append_nil _

end Tuned

/-- The widgets that are drawn are new. -/
private theorem Reconciler.widgets_drawPlaceholders (c : Canvas) (ps : List Placeholder) :
    let out := drawPlaceholders c ps
    c.hub.widgets.length ≤ out.2.hub.widgets.length ∧
      ∀ g ∈ out.1, c.hub.widgets.length ≤ g.widget.value ∧ g.widget.value < out.2.hub.widgets.length := by
  induction ps generalizing c with
  | nil => simp [drawPlaceholders]
  | cons p ps ih =>
    obtain ⟨hgrows, hnew⟩ := ih (drawPlaceholder c p).2
    have hwidgets : (drawPlaceholder c p).2.hub.widgets.length = c.hub.widgets.length + 1 := by
      show (c.hub.widgets ++ [_]).length = _
      rw [List.length_append, List.length_singleton]
    rw [hwidgets] at hgrows hnew
    refine ⟨Nat.le_of_succ_le hgrows, fun g hg => ?_⟩
    rcases List.mem_cons.1 hg with rfl | hg
    · exact ⟨Nat.le_refl _, hgrows⟩
    · exact ⟨Nat.le_of_succ_le (hnew g hg).1, (hnew g hg).2⟩

theorem Reconciler.widgets_renderPlaceholders (r : Reconciler) (c : Canvas) :
    let out := (r.renderPlaceholders c true).2
    c.hub.widgets.length ≤ out.2.hub.widgets.length ∧
      ∀ g ∈ out.1.placeholders, c.hub.widgets.length ≤ g.widget.value ∧
        g.widget.value < out.2.hub.widgets.length := by
  have hdrawn :=
    widgets_drawPlaceholders (Handle.clearAll r.placeholders c) (scanPlaceholders c.buffer.lines)
  rw [(Handle.clearAll_counters r.placeholders c).2.2] at hdrawn
  exact hdrawn

/-! ### Clicks and selections -/

/-- Of a list, only those elements count that make a difference. -/
private theorem flatMap_filter_of_nil {α β : Type} {p q : α → Bool} {f : α → List β}
    (hf : ∀ x, q x = false → f x = []) (l : List α) :
    (l.filter p).flatMap f = ((l.filter q).filter p).flatMap f := by
  induction l with
  | nil => rfl
  | cons x l ih =>
    cases hq : q x with
    | true => cases hp : p x <;> simp [hp, hq, ih]
    | false => cases hp : p x <;> simp [hp, hq, hf x hq, ih]

private theorem foldl_filter_of_same {α β : Type} {p q : α → Bool} {f : β → α → β}
    (hf : ∀ x b, q x = false → f b x = b) (l : List α) (b : β) :
    (l.filter p).foldl f b = ((l.filter q).filter p).foldl f b := by
  induction l generalizing b with
  | nil => rfl
  | cons x l ih =>
    cases hq : q x with
    | true => cases hp : p x <;> simp [hp, hq, ih]
    | false => cases hp : p x <;> simp [hp, hq, hf x _ hq, ih]

namespace Tuned

variable {hub : Hub} {drawn : List (Handle × Range)}

/-- A plain click leaves the hub as it is and asks for the range of the placeholder. -/
theorem dispatch_click (h : Tuned hub drawn) (hown : ∀ l ∈ hub.listeners, ∀ x, l.reaction ≠ .host x)
    (widget : WidgetId) :
    hub.dispatch (.click widget .primary ⟨[]⟩) =
      (drawn.flatMap fun d => if widget = d.1.widget then [.setSelection d.2] else [], hub) := by
  have hasked : (hub.dispatch (.click widget .primary ⟨[]⟩)).1 =
      drawn.flatMap fun d => if widget = d.1.widget then [.setSelection d.2] else [] := by
    rw [Hub.dispatch_eq hown]
    simp only [Reaction.effects_plain_click]
    rw [flatMap_filter_of_nil (q := fun l => l.reaction.selects) fun l hl =>
      Reaction.clicked_of_not_selects hl widget]
    change (hub.selecting.filter _).flatMap _ = _
    rw [h.selecting, List.filter_flatMap, List.flatMap_assoc]
    refine List.flatMap_congr fun d hd => ?_
    obtain ⟨i, j, hids⟩ := List.length_eq_two.1 (h.paired d hd)
    simp [Handle.selectors, hids, placeholderListeners, Reaction.clicked, Event.kind]
  have hsame : (hub.dispatch (.click widget .primary ⟨[]⟩)).2 = hub := by rw [Hub.dispatch_click hown]
  exact Prod.ext hasked hsame

/-- Only one placeholder has the widget. -/
theorem dispatch_click_of_mem (h : Tuned hub drawn)
    (hown : ∀ l ∈ hub.listeners, ∀ x, l.reaction ≠ .host x) {d : Handle × Range} (hd : d ∈ drawn) :
    hub.dispatch (.click d.1.widget .primary ⟨[]⟩) = ([.setSelection d.2], hub) := by
  have hothers : ∀ l : List (Handle × Range), (∀ e ∈ l, e.1.widget ≠ d.1.widget) →
      (l.flatMap fun e => if d.1.widget = e.1.widget then [Effect.setSelection e.2] else []) = [] := by
    intro l hl
    exact List.flatMap_eq_nil_iff.2 fun e he => if_neg fun heq => hl e he heq.symm
  obtain ⟨front, back, rfl⟩ := List.append_of_mem hd
  have hincreasing := List.pairwise_append.1 h.increasing
  have hback := (List.pairwise_cons.1 hincreasing.2.1).1
  rw [h.dispatch_click hown, List.flatMap_append, List.flatMap_cons, if_pos rfl,
    hothers front, hothers back]
  · rfl
  · intro e he heq
    have := hback e he
    rw [heq] at this
    exact Nat.lt_irrefl _ this
  · intro e he heq
    have := hincreasing.2.2 e he d List.mem_cons_self
    rw [heq] at this
    exact Nat.lt_irrefl _ this

theorem dispatch_click_of_not_mem (h : Tuned hub drawn)
    (hown : ∀ l ∈ hub.listeners, ∀ x, l.reaction ≠ .host x) {widget : WidgetId}
    (hnone : ∀ d ∈ drawn, d.1.widget ≠ widget) :
    hub.dispatch (.click widget .primary ⟨[]⟩) = ([], hub) := by
  rw [h.dispatch_click hown]
  congr 1
  exact List.flatMap_eq_nil_iff.2 fun d hd => if_neg fun heq => hnone d hd heq.symm

/-- Before a selection is made the widgets of the placeholders are marked. -/
theorem dispatch_beforeSelection (h : Tuned hub drawn)
    (hown : ∀ l ∈ hub.listeners, ∀ x, l.reaction ≠ .host x) (ranges : List Selection) :
    hub.dispatch (.beforeSelection ranges) =
      ([], drawn.foldl (fun hub d => hub.mark ranges d.1.widget d.2) hub) := by
  have hasked : (hub.dispatch (.beforeSelection ranges)).1 = [] := by
    rw [Hub.dispatch_eq hown]
    exact List.flatMap_eq_nil_iff.2 fun l _ => l.reaction.effects_beforeSelection ranges
  have hmarked : (hub.dispatch (.beforeSelection ranges)).2 =
      drawn.foldl (fun hub d => hub.mark ranges d.1.widget d.2) hub := by
    rw [Hub.dispatch_eq hown]
    simp only [Hub.touch_beforeSelection]
    rw [foldl_filter_of_same (q := fun l => l.reaction.selects) fun l hub hl =>
      Hub.follow_of_not_selects hl ranges hub]
    change (hub.selecting.filter _).foldl _ hub = _
    rw [h.selecting, List.filter_flatMap, List.foldl_flatMap]
    refine List.foldl_ext _ _ _ fun hub d hd => ?_
    obtain ⟨i, j, hids⟩ := List.length_eq_two.1 (h.paired d hd)
    simp [Handle.selectors, hids, placeholderListeners, Hub.follow, Event.kind]
  exact Prod.ext hasked hmarked

end Tuned

/-! ### Widgets that are marked -/

private theorem widget?_mark_of_ne (ranges : List Selection) (hub : Hub) {id id' : WidgetId}
    (hne : id ≠ id') (range : Range) : (hub.mark ranges id range).widget? id' = hub.widget? id' := by
  rw [Hub.mark, Hub.widget?_modifyWidget, if_neg hne]

private theorem widget?_foldl_mark_of_ne (ranges : List Selection) {drawn : List (Handle × Range)}
    {id : WidgetId} (hne : ∀ d ∈ drawn, d.1.widget ≠ id) (hub : Hub) :
    (drawn.foldl (fun hub d => hub.mark ranges d.1.widget d.2) hub).widget? id = hub.widget? id := by
  induction drawn generalizing hub with
  | nil => rfl
  | cons d drawn ih =>
    rw [List.foldl_cons, ih fun e he => hne e (List.mem_cons_of_mem _ he),
      widget?_mark_of_ne ranges hub (hne d List.mem_cons_self)]

/-- Each of the widgets is marked for the range of its own placeholder. -/
theorem widget?_foldl_mark (ranges : List Selection) {drawn : List (Handle × Range)}
    (hincreasing : drawn.Pairwise fun d e => d.1.widget.value < e.1.widget.value) (hub : Hub)
    (hbelow : ∀ d ∈ drawn, d.1.widget.value < hub.widgets.length) {d : Handle × Range} (hd : d ∈ drawn) :
    ∃ w, (drawn.foldl (fun hub d => hub.mark ranges d.1.widget d.2) hub).widget? d.1.widget = some w ∧
      w.selected = selectionHits ranges d.2 := by
  induction drawn generalizing hub with
  | nil => simp at hd
  | cons e drawn ih =>
    obtain ⟨hfirst, hrest⟩ := List.pairwise_cons.1 hincreasing
    rw [List.foldl_cons]
    rcases List.mem_cons.1 hd with rfl | hd
    · have hne : ∀ e ∈ drawn, e.1.widget ≠ d.1.widget := by
        intro e he heq
        have := hfirst e he
        rw [heq] at this
        exact Nat.lt_irrefl _ this
      rw [widget?_foldl_mark_of_ne ranges hne]
      have hlt := hbelow d List.mem_cons_self
      obtain ⟨w, hw⟩ : ∃ w, hub.widget? d.1.widget = some w := ⟨_, List.getElem?_eq_getElem hlt⟩
      rw [Hub.mark, Hub.widget?_modifyWidget, if_pos rfl, hw]
      exact ⟨_, rfl, rfl⟩
    · refine ih hrest _ (fun k hk => ?_) hd
      rw [Hub.mark, Hub.length_widgets_modifyWidget]
      exact hbelow k (List.mem_cons_of_mem _ hk)

/-! ### Passes -/

/-- Besides being accounted for, the listeners of placeholders are those of the handles of the
reconciler. -/
structure Attuned (hub : Hub) (r : Reconciler) : Prop where
  wired : Wired hub r.handles
  classed : r.Classed
  tuned : ∃ drawn, drawn.map (·.1) = r.placeholders ∧ Tuned hub drawn

namespace Attuned

variable {hub : Hub} {r : Reconciler} {c : Canvas}

/-- Once the old placeholders have been cleared, the ones that are drawn answer for their own ranges. -/
theorem drawing (h : Attuned c.hub r) (ps : List Placeholder) :
    Drawing (Handle.clearAll r.placeholders c) ps
      (Reconciler.drawPlaceholders (Handle.clearAll r.placeholders c) ps) ∧
      Tuned (Reconciler.drawPlaceholders (Handle.clearAll r.placeholders c) ps).2.hub
        ((Reconciler.drawPlaceholders (Handle.clearAll r.placeholders c) ps).1.zip
          (ps.map (·.range))) := by
  obtain ⟨drawn, hdrawn, htuned⟩ := h.tuned
  have hcleared := htuned.clearAll
  rw [hdrawn] at hcleared
  have hmoves : Moves .placeholder r.placeholders c (Handle.clearAll r.placeholders c) :=
    moves_clearAll (fun _ hg => hg) c
  exact ⟨Reconciler.drawing_drawPlaceholders ((Later.of_moves hmoves).hub h.wired.numbered) ps,
    hcleared.drawPlaceholders ps⟩

theorem renderPlaceholders (h : Attuned c.hub r) (force : Bool) :
    Attuned (r.renderPlaceholders c force).2.2.hub (r.renderPlaceholders c force).2.1 := by
  obtain ⟨hwired, hclassed⟩ :=
    Reconciler.accounts_renderPlaceholders (accounting_wired _) h.wired h.classed force
  refine ⟨hwired, hclassed, ?_⟩
  unfold Reconciler.renderPlaceholders
  dsimp only
  split
  · exact h.tuned
  · obtain ⟨hdrawing, htuned⟩ := h.drawing (scanPlaceholders c.buffer.lines)
    refine ⟨_, List.map_fst_zip (Nat.le_of_eq ?_), htuned⟩
    rw [List.length_map]
    exact hdrawing.length

/-- The links' handles have listeners of their own. -/
private theorem apart (h : Attuned hub r) :
    ∀ g ∈ r.links.map (·.2), ∀ d ∈ r.placeholders, ∀ id ∈ d.listeners,
    id ∉ g.listeners := by
  intro g hg d hd id hid
  have hne : d ≠ g := by
    rintro rfl
    obtain ⟨p, hp, rfl⟩ := List.mem_map.1 hg
    have hcls := (h.classed.links p hp).1
    rw [h.classed.placeholders _ hd] at hcls
    exact absurd hcls (by decide)
  exact h.wired.apart (List.mem_append_left _ hd) (List.mem_append_right _ hg) hne hid

/-- A pass over the links leaves the listeners of placeholders as they are. -/
theorem tuned_renderLinks (h : Attuned c.hub r) (story : Story) :
    ∃ drawn, drawn.map (·.1) = r.placeholders ∧ Tuned c.hub drawn ∧
      Tuned (r.renderLinks c story).2.2.hub drawn := by
  have hpassage : ∀ p ∈ r.links, p.2.passage.isSome := fun p hp => by simp [(h.classed.links p hp).2]
  obtain ⟨gone, new, hswept⟩ := Reconciler.exists_swept hpassage c story
  obtain ⟨drawn, hdrawn, htuned⟩ := h.tuned
  have hgone : ∀ g ∈ gone, g ∈ r.links.map (·.2) := fun g hg =>
    hswept.old.mem_iff.1 (List.mem_append_right _ hg)
  have hapart : ∀ g ∈ gone, ∀ d ∈ drawn, ∀ id ∈ d.1.listeners, id ∉ g.listeners := by
    intro g hg d hd
    refine h.apart g (hgone g hg) d.1 ?_
    rw [← hdrawn]
    exact List.mem_map_of_mem hd
  rw [hswept.pass]
  exact ⟨drawn, hdrawn, htuned, (htuned.clearOthers hapart).drawMissing _ _ _⟩

theorem renderLinks (h : Attuned c.hub r) (story : Story) :
    Attuned (r.renderLinks c story).2.2.hub (r.renderLinks c story).2.1 := by
  obtain ⟨hwired, hclassed⟩ :=
    Reconciler.accounts_renderLinks (accounting_wired _) h.wired h.classed story
  obtain ⟨drawn, hdrawn, -, htuned⟩ := h.tuned_renderLinks story
  exact ⟨hwired, hclassed, drawn, hdrawn, htuned⟩

theorem teardown (h : Attuned c.hub r) : Attuned (r.teardown c).2.2.hub (r.teardown c).2.1 := by
  obtain ⟨hwired, hclassed, hnone⟩ := Reconciler.accounts_teardown (accounting_wired _) h.wired
  refine ⟨by rw [hnone]; exact hwired, hclassed, [], rfl, .empty ?_⟩
  unfold Hub.selecting
  rw [hwired.listeners_of_nil, List.filter_nil]

theorem dispatch (h : Attuned hub r) (event : Event) : Attuned (hub.dispatch event).2 r := by
  obtain ⟨hlisteners, hnext⟩ := listeners_dispatch h.wired.own event
  obtain ⟨drawn, hdrawn, htuned⟩ := h.tuned
  refine ⟨h.wired.of_same hlisteners hnext, h.classed, drawn, hdrawn, htuned.of_same ?_ ?_⟩
  · unfold Hub.selecting
    rw [hlisteners]
  · exact Nat.le_of_eq (Hub.length_widgets_dispatch h.wired.own event).symm

end Attuned

end Markup

end PassageEditor
