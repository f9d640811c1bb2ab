import PassageEditor.Event.Hub

/-!
# What an event does

Every listener but the host's is about one widget: all that it can do to the hub is to change that widget.
So an event asks for what the listeners of its kind ask for, one after the other (`Hub.dispatch_eq`), and
of a widget it makes what the listeners make of it that are about the widget (`Hub.widget?_dispatch`).
-/

namespace PassageEditor

namespace Reaction

/-- The widget that a reaction is about. -/
def widget? : Reaction → Option WidgetId
  | selectOnClick widget _ => some widget
  | followSelection widget _ => some widget
  | hover widget _ => some widget
  | arm widget _ _ => some widget
  | openOnClick widget _ _ => some widget
  | host _ => none

/-- What a reaction asks for. -/
def effects (event : Event) : Reaction → List Effect
  | selectOnClick widget range =>
    match event with
    | .click target _ _ => if target = widget then [.setSelection range] else []
    | _ => []
  | openOnClick widget designated passage =>
    match event with
    | .click target button modifiers =>
      if target = widget && button = .primary && modifiers.exactly designated then
        [.preventDefault, .openPassage passage] else []
    | _ => []
  | _ => []

/-- What a reaction makes of its widget. -/
def change (event : Event) : Reaction → Widget → Widget
  | followSelection _ range =>
    match event with
    | .beforeSelection ranges => ({ · with selected := selectionHits ranges range })
    | _ => id
  | hover widget entered =>
    match event with
    | .mouseEnter target | .mouseLeave target =>
      if target = widget then (Hub.refreshClickable { · with hovered := entered }) else id
    | _ => id
  | arm _ designated down =>
    match event with
    | .keyDown key | .keyUp key =>
      if key = designated.keyName then (Hub.refreshClickable { · with armed := down }) else id
    | _ => id
  | _ => id

private theorem effects_click_of_ne {reaction : Reaction} {target : WidgetId}
    (hne : reaction.widget? ≠ some target) (button : MouseButton) (modifiers : Modifiers) :
    reaction.effects (.click target button modifiers) = [] := by
  cases reaction with
  | selectOnClick widget range =>
    have hother : target ≠ widget := fun heq => hne (congrArg some heq.symm)
    simp [effects, hother]
  | openOnClick widget designated passage =>
    have hother : target ≠ widget := fun heq => hne (congrArg some heq.symm)
    simp [effects, hother]
  | _ => rfl

private theorem change_click (reaction : Reaction) (target : WidgetId) (button : MouseButton)
    (modifiers : Modifiers) : reaction.change (.click target button modifiers) = id := by
  cases reaction <;> rfl

end Reaction

namespace Hub

/-! ### One listener -/

/-- The hub when a reaction has changed its widget. -/
def touch (event : Event) (h : Hub) (reaction : Reaction) : Hub :=
  match reaction.widget? with
  | some widget => h.modifyWidget widget (reaction.change event)
  | none => h

theorem modifyWidget_id (h : Hub) (widget : WidgetId) : h.modifyWidget widget id = h := by
  unfold modifyWidget
  rw [List.modify_id]

private theorem modifyWidget_ite (h : Hub) (widget : WidgetId) (p : Prop) [Decidable p]
    (f : Widget → Widget) :
    h.modifyWidget widget (if p then f else id) = if p then h.modifyWidget widget f else h := by
  split
  · rfl
  · exact modifyWidget_id h widget

private theorem react_eq (h : Hub) (event : Event) {reaction : Reaction}
    (hown : ∀ x, reaction ≠ .host x) :
    h.react event reaction = (reaction.effects event, h.touch event reaction) := by
  cases reaction with
  | host x => exact absurd rfl (hown x)
  | _ =>
    cases event <;>
      simp only [react, touch, Reaction.effects, Reaction.widget?, Reaction.change,
        modifyWidget_id, modifyWidget_ite]

@[simp]
theorem listeners_touch (event : Event) (h : Hub) (reaction : Reaction) :
    (h.touch event reaction).listeners = h.listeners := by
  unfold touch
  split <;> rfl

@[simp]
theorem nextListener_touch (event : Event) (h : Hub) (reaction : Reaction) :
    (h.touch event reaction).nextListener = h.nextListener := by
  unfold touch
  split <;> rfl

theorem length_widgets_modifyWidget (h : Hub) (id : WidgetId) (f : Widget → Widget) :
    (h.modifyWidget id f).widgets.length = h.widgets.length := List.length_modify _ _ _

/-- Other widgets stay as they are. -/
theorem widget?_modifyWidget (h : Hub) (id widget : WidgetId) (f : Widget → Widget) :
    (h.modifyWidget id f).widget? widget = if id = widget then (h.widget? widget).map f
      else h.widget? widget := by
  have hvalue : id.value = widget.value ↔ id = widget := ⟨congrArg WidgetId.mk, congrArg WidgetId.value⟩
  unfold widget? modifyWidget
  rw [List.getElem?_modify]
  by_cases hsame : id = widget
  · simp [hsame]
  · simp [hsame, hvalue]

@[simp]
theorem length_widgets_touch (event : Event) (h : Hub) (reaction : Reaction) :
    (h.touch event reaction).widgets.length = h.widgets.length := by
  unfold touch
  split
  · exact length_widgets_modifyWidget _ _ _
  · rfl

private theorem widget?_touch (event : Event) (h : Hub) (reaction : Reaction) (widget : WidgetId) :
    (h.touch event reaction).widget? widget =
      if reaction.widget? = some widget then (h.widget? widget).map (reaction.change event)
        else h.widget? widget := by
  unfold touch
  cases hwidget : reaction.widget? with
  | none => simp
  | some own =>
    rw [widget?_modifyWidget]
    simp only [Option.some.injEq]

/-! ### All listeners -/

/-- The listeners that are about a widget. -/
def about (h : Hub) (widget : WidgetId) : List Listener :=
  h.listeners.filter (·.reaction.widget? = some widget)

section Own

variable {h : Hub}

private theorem deliver_eq (h : Hub) (event : Event) {listeners : List Listener}
    (hown : ∀ l ∈ listeners, ∀ x, l.reaction ≠ .host x) :
    deliver event h listeners =
      (listeners.flatMap fun l => l.reaction.effects event,
        listeners.foldl (fun h l => h.touch event l.reaction) h) := by
  induction listeners generalizing h with
  | nil => rfl
  | cons l rest ih =>
    have hrest := ih (h.touch event l.reaction) fun g hg => hown g (List.mem_cons_of_mem _ hg)
    rw [deliver, react_eq h event (hown l List.mem_cons_self)]
    dsimp only
    rw [hrest, List.flatMap_cons, List.foldl_cons]

theorem dispatch_eq (hown : ∀ l ∈ h.listeners, ∀ x, l.reaction ≠ .host x) (event : Event) :
    h.dispatch event =
      ((h.listeners.filter (·.kind = event.kind)).flatMap fun l => l.reaction.effects event,
        (h.listeners.filter (·.kind = event.kind)).foldl (fun h l => h.touch event l.reaction) h) :=
  deliver_eq h event fun l hl => hown l (List.mem_filter.1 hl).1

/-- What no listener changes, no event does. -/
private theorem keeps_dispatch {α : Type} {f : Hub → α} {event : Event}
    (hf : ∀ (h : Hub) (l : Listener), f (h.touch event l.reaction) = f h)
    (hown : ∀ l ∈ h.listeners, ∀ x, l.reaction ≠ .host x) : f (h.dispatch event).2 = f h := by
  have hfold : ∀ (listeners : List Listener) (h : Hub),
      f (listeners.foldl (fun h l => h.touch event l.reaction) h) = f h := by
    intro listeners
    induction listeners with
    | nil => exact fun _ => rfl
    | cons l rest ih => exact fun h => (ih (h.touch event l.reaction)).trans (hf h l)
  rw [dispatch_eq hown]
  exact hfold _ h

theorem length_widgets_dispatch (hown : ∀ l ∈ h.listeners, ∀ x, l.reaction ≠ .host x) (event : Event) :
    (h.dispatch event).2.widgets.length = h.widgets.length :=
  keeps_dispatch (f := fun h => h.widgets.length) (fun h l =>
    length_widgets_touch event h l.reaction) hown

/-- Of the listeners of its kind those make a difference to a widget that are about it. -/
theorem widget?_dispatch (hown : ∀ l ∈ h.listeners, ∀ x, l.reaction ≠ .host x) (event : Event)
    (widget : WidgetId) :
    (h.dispatch event).2.widget? widget =
      (h.widget? widget).map fun w =>
        ((h.about widget).filter (·.kind = event.kind)).foldl
          (fun w l => l.reaction.change event w) w := by
  have hfold : ∀ (listeners : List Listener) (h : Hub),
      (listeners.foldl (fun h l => h.touch event l.reaction) h).widget? widget =
        (h.widget? widget).map fun w =>
          (listeners.filter (·.reaction.widget? = some widget)).foldl
            (fun w l => l.reaction.change event w) w := by
    intro listeners
    induction listeners with
    | nil => simp
    | cons l rest ih =>
      intro h
      rw [List.foldl_cons, ih, widget?_touch]
      by_cases habout : l.reaction.widget? = some widget
      · rw [if_pos habout, List.filter_cons_of_pos (by simpa using habout), Option.map_map]
        rfl
      · rw [if_neg habout, List.filter_cons_of_neg (by simpa using habout)]
  rw [dispatch_eq hown, about, List.filter_filter]
  dsimp only
  rw [hfold, List.filter_filter]
  simp only [Bool.and_comm]

/-- A click changes no widget, and asks for what the listeners about its target ask for. -/
theorem dispatch_click (hown : ∀ l ∈ h.listeners, ∀ x, l.reaction ≠ .host x) (target : WidgetId)
    (button : MouseButton) (modifiers : Modifiers) :
    h.dispatch (.click target button modifiers) =
      (((h.about target).filter (·.kind = .click)).flatMap fun l =>
        l.reaction.effects (.click target button modifiers),
        h) := by
  have hnone : ∀ listeners : List Listener,
      (listeners.flatMap fun l => l.reaction.effects (.click target button modifiers)) =
        (listeners.filter (·.reaction.widget? = some target)).flatMap fun l =>
          l.reaction.effects (.click target button modifiers) := by
    intro listeners
    induction listeners with
    | nil => rfl
    | cons l rest ih =>
      by_cases habout : l.reaction.widget? = some target
      · rw [List.filter_cons_of_pos (by simpa using habout), List.flatMap_cons, List.flatMap_cons, ih]
      · rw [List.filter_cons_of_neg (by simpa using habout), List.flatMap_cons, ih,
          Reaction.effects_click_of_ne habout, List.nil_append]
  refine Prod.ext ?_ ?_
  · rw [dispatch_eq hown, about, List.filter_filter]
    dsimp only
    rw [hnone, List.filter_filter]
    simp only [Bool.and_comm]
    rfl
  · refine keeps_dispatch (f := id) (fun h l => ?_) hown
    unfold touch
    split
    · rw [Reaction.change_click, modifyWidget_id]
    · rfl

end Own

end Hub

/-- An event leaves the listeners as they are where none is the host's. -/
theorem Markup.listeners_dispatch {hub : Hub} (hown : ∀ l ∈ hub.listeners, ∀ x, l.reaction ≠ .host x)
    (event : Event) :
    (hub.dispatch event).2.listeners = hub.listeners ∧
    (hub.dispatch event).2.nextListener = hub.nextListener :=
  ⟨Hub.keeps_dispatch (f := Hub.listeners) (fun h l => Hub.listeners_touch event h l.reaction) hown,
    Hub.keeps_dispatch (f := Hub.nextListener) (fun h l =>
      Hub.nextListener_touch event h l.reaction) hown⟩

end PassageEditor
