import PassageEditor.Proofs.Markup.Equipped
import PassageEditor.Proofs.Markup.Links

/-!
# Links that answer to the mouse and the keyboard

As long as a link is kept, whatever else is edited, drawn and cleared, its widget heeds the mouse going
over it and away from it and the link modifier going down and up, and nothing else (`Heeds`).  A click on
the widget opens the passage if the button and the modifiers are right (`Equipped.dispatch_click_link`).
A widget whose handle is gone answers to no click any more (`Scene.links_answer_of_run`).
-/

namespace PassageEditor

/-! ### Events and modifiers -/

/-- The first event has come, and the second one has not come since. -/
def Lastly (on off : Event) (events : List Event) : Prop :=
  ∃ front back, events = front ++ on :: back ∧ off ∉ back

private theorem not_lastly_nil (on off : Event) : ¬ Lastly on off [] := by
  rintro ⟨front, back, heq, -⟩
  simp at heq

private theorem lastly_concat {on off event : Event} {events : List Event} :
    Lastly on off (events ++ [event]) ↔ event = on ∨ event ≠ off ∧ Lastly on off events := by
  constructor
  · rintro ⟨front, back, heq, hoff⟩
    rcases List.eq_nil_or_concat back with rfl | ⟨back, last, rfl⟩
    · exact .inl (List.singleton_inj.1 (List.append_inj' heq rfl).2)
    · rw [List.concat_eq_append] at heq hoff
      rw [← List.cons_append, ← List.append_assoc] at heq
      obtain ⟨rfl, hlast⟩ := List.append_inj' heq rfl
      obtain rfl := List.singleton_inj.1 hlast
      refine .inr ⟨?_, front, back, rfl, fun hmem => hoff (List.mem_append_left _ hmem)⟩
      rintro rfl
      exact hoff (by simp)
  · rintro (rfl | ⟨hne, front, back, rfl, hoff⟩)
    · exact ⟨events, [], rfl, by simp⟩
    · refine ⟨front, back ++ [event], by simp, ?_⟩
      intro hmem
      rcases List.mem_append.1 hmem with hmem | hmem
      · exact hoff hmem
      · exact hne (List.mem_singleton.1 hmem).symm

private theorem Modifiers.exactly_iff {ms : Modifiers} {designated : Modifier} :
    ms.exactly designated = true ↔ ∀ m, ms.holds m = true ↔ m = designated := by
  have hall : ∀ m : Modifier, m ∈ Modifier.all := fun m => by cases m <;> decide
  unfold exactly conflicts
  rw [Bool.and_eq_true, Bool.not_eq_true', List.any_eq_false]
  constructor
  · rintro ⟨hheld, hnone⟩ m
    constructor
    · intro hm
      by_contra hne
      exact hnone m (hall m) (by simp [hne, hm])
    · rintro rfl
      exact hheld
  · intro h
    refine ⟨(h designated).2 rfl, fun m _ hm => ?_⟩
    simp only [Bool.and_eq_true, decide_eq_true_eq] at hm
    exact hm.1 ((h m).1 hm.2)

namespace Markup

/-! ### The widget of a link -/

/-- What an event makes of the widget of a link. -/
def heed (widget : WidgetId) (designated : Modifier) : Event → Widget → Widget
  | .mouseEnter target =>
    if target = widget then (Hub.refreshClickable { · with hovered := true }) else id
  | .mouseLeave target =>
    if target = widget then (Hub.refreshClickable { · with hovered := false }) else id
  | .keyDown key =>
    if key = designated.keyName then (Hub.refreshClickable { · with armed := true }) else id
  | .keyUp key =>
    if key = designated.keyName then (Hub.refreshClickable { · with armed := false }) else id
  | _ => id

/-- The widget shows what the last event about it and the last event about the link modifier were. -/
structure Heeds (widget : WidgetId) (designated : Modifier) (events : List Event)
    (w : Widget) : Prop where
  clickable : w.clickable = (w.hovered && w.armed)
  hovered : w.hovered = true ↔ Lastly (.mouseEnter widget) (.mouseLeave widget) events
  armed : w.armed = true ↔ Lastly (.keyDown designated.keyName) (.keyUp designated.keyName) events

namespace Heeds

variable {widget : WidgetId} {designated : Modifier} {events : List Event} {w : Widget}

/-- Before any event. -/
private theorem nil (hclickable : w.clickable = false) (hhovered : w.hovered = false)
    (harmed : w.armed = false) :
    Heeds widget designated [] w := by
  refine ⟨?_, ?_, ?_⟩
  · rw [hclickable, hhovered]
    rfl
  · simp [hhovered, not_lastly_nil]
  · simp [harmed, not_lastly_nil]

theorem event (h : Heeds widget designated events w) (event : Event) :
    Heeds widget designated (events ++ [event]) (heed widget designated event w) := by
  have hclickable := h.clickable
  have hhovered := h.hovered
  have harmed := h.armed
  cases event with
  | mouseEnter target | mouseLeave target =>
    by_cases htarget : target = widget
    · constructor <;> simp [heed, htarget, Hub.refreshClickable, lastly_concat, harmed]
    · constructor <;> simp [heed, htarget, lastly_concat, hclickable, hhovered, harmed]
  | keyDown key | keyUp key =>
    by_cases hkey : key = designated.keyName
    · constructor <;> simp [heed, hkey, Hub.refreshClickable, lastly_concat, hhovered]
    · constructor <;> simp [heed, hkey, lastly_concat, hclickable, hhovered, harmed]
  | _ => constructor <;> simp [heed, lastly_concat, hclickable, hhovered, harmed]

end Heeds

namespace Equipped

variable {designated : Modifier} {hub : Hub} {handles : List Handle} {h : Handle} {passage : PassageId}

private theorem reactions_link (hq : Equipped designated hub handles) (hh : h ∈ handles)
    (hcls : h.cls = .passageLink) (hpassage : h.passage = some passage) :
    h.reactions hub = linkListeners h.widget passage designated := by
  have hequips := hq.equips h hh
  rw [hcls, hpassage] at hequips
  exact hequips.eq_linkListeners

private theorem widget?_dispatch_link (hq : Equipped designated hub handles) (hh : h ∈ handles)
    (hcls : h.cls = .passageLink) (hpassage : h.passage = some passage) (event : Event) :
    (hub.dispatch event).2.widget? h.widget =
      (hub.widget? h.widget).map (heed h.widget designated event) := by
  have hreactions : ∀ w : Widget,
      ((hub.about h.widget).filter (·.kind = event.kind)).foldl (fun w l => l.reaction.change event w) w =
        ((linkListeners h.widget passage designated).filter (·.1 = event.kind)).foldl
          (fun w r => r.2.change event w) w := by
    intro w
    rw [hq.about_eq hh, ← hq.reactions_link hh hcls hpassage, Handle.reactions,
      List.filter_map, List.foldl_map]
    rfl
  rw [Hub.widget?_dispatch hq.wired.own]
  simp only [hreactions]
  congr 1
  funext w
  cases event <;> rfl

/-- A click on the widget of a link opens its passage if the button and the modifiers are right. -/
theorem dispatch_click_link (hq : Equipped designated hub handles) (hh : h ∈ handles)
    (hcls : h.cls = .passageLink) (hpassage : h.passage = some passage) (button : MouseButton)
    (modifiers : Modifiers) :
    hub.dispatch (.click h.widget button modifiers) =
      (if button = .primary && modifiers.exactly designated then
          [.preventDefault, .openPassage passage]
        else [],
        hub) := by
  have hreactions :
      (((hub.about h.widget).filter (·.kind = .click)).flatMap fun l =>
          l.reaction.effects (.click h.widget button modifiers)) =
        ((linkListeners h.widget passage designated).filter (·.1 = .click)).flatMap fun r =>
          r.2.effects (.click h.widget button modifiers) := by
    rw [hq.about_eq hh, ← hq.reactions_link hh hcls hpassage, Handle.reactions,
      List.filter_map, List.flatMap_map]
    rfl
  rw [Hub.dispatch_click hq.wired.own, hreactions]
  simp [linkListeners, Reaction.effects]

end Equipped

/-- How a link answers after some events. -/
structure Answers (designated : Modifier) (hub : Hub) (events : List Event) (h : Handle)
    (passage : PassageId) : Prop where
  /-- Its widget is clickable while the mouse is over it and the link modifier is down. -/
  clickable : ∃ w, hub.widget? h.widget = some w ∧
    (w.clickable = true ↔ Lastly (.mouseEnter h.widget) (.mouseLeave h.widget) events ∧
      Lastly (.keyDown designated.keyName) (.keyUp designated.keyName) events)
  /-- No other event changes the widget. -/
  others : ∀ event, event ≠ .mouseEnter h.widget → event ≠ .mouseLeave h.widget →
    event ≠ .keyDown designated.keyName → event ≠ .keyUp designated.keyName →
    (hub.dispatch event).2.widget? h.widget = hub.widget? h.widget
  opens : ∀ modifiers : Modifiers, (∀ m, modifiers.holds m = true ↔ m = designated) →
    hub.dispatch (.click h.widget .primary modifiers) = ([.preventDefault, .openPassage passage], hub)
  ignores : ∀ (button : MouseButton) (modifiers : Modifiers),
    ¬ (button = .primary ∧ ∀ m, modifiers.holds m = true ↔ m = designated) →
    hub.dispatch (.click h.widget button modifiers) = ([], hub)

private theorem Equipped.answers {designated : Modifier} {hub : Hub} {handles : List Handle} {h : Handle}
    {passage : PassageId} (hq : Equipped designated hub handles) (hh : h ∈ handles)
    (hcls : h.cls = .passageLink) (hpassage : h.passage = some passage) {events : List Event} {w : Widget}
    (hw : hub.widget? h.widget = some w) (hheeds : Heeds h.widget designated events w) :
    Answers designated hub events h passage where
  clickable := by
    refine ⟨w, hw, ?_⟩
    rw [hheeds.clickable, Bool.and_eq_true, hheeds.hovered, hheeds.armed]
  others event henter hleave hdown hup := by
    rw [hq.widget?_dispatch_link hh hcls hpassage, hw]
    cases event <;> simp_all [heed]
  opens modifiers hexactly := by
    rw [hq.dispatch_click_link hh hcls hpassage, Modifiers.exactly_iff.2 hexactly]
    rfl
  ignores button modifiers hother := by
    rw [← Modifiers.exactly_iff] at hother
    rw [hq.dispatch_click_link hh hcls hpassage, if_neg]
    simpa using hother

/-! ### Drawing leaves widgets alone -/

private theorem widget?_place {c : Canvas} {widget : WidgetId} {w : Widget}
    (hw : c.hub.widget? widget = some w) (cls : MarkClass) (text : String) (passage : Option PassageId)
    (range : Range) (listeners : WidgetId → List (EventKind × Reaction)) :
    (Handle.place c cls text passage range listeners).2.hub.widget? widget = some w := by
  obtain ⟨hlt, hget⟩ := List.getElem?_eq_some_iff.1 hw
  have hprefix := (grows_place c cls text passage range listeners).widgets
  rw [← hget]
  exact List.prefix_iff_getElem?.1 hprefix _ hlt

private theorem accounting_widget (designated : Modifier) (widget : WidgetId) (w : Widget) :
    Accounting designated fun c _ => c.hub.widget? widget = some w where
  perm h _ := h
  clear h := h
  place text _ range _ h _ := widget?_place h _ text _ range _

/-- A handle that is drawn gets a widget that no event has reached yet. -/
private theorem accounting_untouched (designated : Modifier) (old : List Handle) :
    Accounting designated fun c handles => ∀ h ∈ handles, h ∈ old ∨
      ∃ w, c.hub.widget? h.widget = some w ∧ w.clickable = false ∧
        w.hovered = false ∧ w.armed = false where
  perm h hperm g hg := h g (hperm.mem_iff.2 hg)
  clear h g hg := h g (List.mem_cons_of_mem _ hg)
  place {c handles cls} text {passage} range {listeners} h _ g hg := by
    rcases List.mem_cons.1 hg with rfl | hg
    · let new : WidgetId × Hub := c.hub.addWidget cls.name text passage
      have hnew : (new.2.addAll (listeners new.1)).2.widget? new.1 =
          some ⟨new.1, cls.name, text, passage, false, false, false, false⟩ := by
        unfold Hub.widget?
        rw [widgets_addAll]
        exact List.getElem?_concat_length
      exact .inr ⟨_, hnew, rfl, rfl, rfl⟩
    · exact (h g hg).imp_right fun ⟨w, hw, huntouched⟩ =>
        ⟨w, widget?_place hw _ text _ range _, huntouched⟩

/-! ### Runs with events -/

namespace Scene

/-- What befalls a scene: the user does something, the text or the marks change, or all marks are taken
away. -/
inductive Turn
  | event (e : Event)
  | step (t : Step)
  | teardown

def Turn.event? : Turn → Option Event
  | .event e => some e
  | _ => none

def turn (s : Scene) : Turn → Scene
  | .event e => { s with canvas := { s.canvas with hub := (s.canvas.hub.dispatch e).2 } }
  | .step t => s.step t
  | .teardown =>
    let (_, r, c) := s.marks.teardown s.canvas
    ⟨c, r⟩

/-- What lasts holds after any turns. -/
private theorem lasting_turns {P : Hub → Reconciler → Prop} (hP : Lasting P) {s : Scene}
    (h : P s.canvas.hub s.marks) (turns : List Turn) :
    P (turns.foldl turn s).canvas.hub (turns.foldl turn s).marks := by
  induction turns generalizing s with
  | nil => exact h
  | cons t turns ih =>
    refine ih (s := s.turn t) ?_
    cases t with
    | event e => exact hP.event e h
    | step t =>
      cases t with
      | edit e => exact h
      | placeholders force => exact hP.placeholders force h
      | links story => exact hP.links story h
    | teardown => exact hP.teardown h

/-- What drawing and clearing keep holds after a turn that is no event. -/
private theorem accounts_turn {Q : Hub → List Handle → Prop} {s : Scene}
    (hQ : Accounting s.marks.designated fun c handles => Q c.hub handles) (hclassed : s.marks.Classed)
    (h : Q s.canvas.hub s.marks.handles) {t : Turn} (ht : t.event? = none) :
    Q (s.turn t).canvas.hub (s.turn t).marks.handles := by
  cases t with
  | event e => simp [Turn.event?] at ht
  | step t =>
    cases t with
    | edit e => exact h
    | placeholders force => exact (Reconciler.accounts_renderPlaceholders hQ h hclassed force).1
    | links story => exact (Reconciler.accounts_renderLinks hQ h hclassed story).1
  | teardown =>
    have hnone := (Reconciler.accounts_teardown hQ h).1
    exact hnone

private theorem designated_turns (s : Scene) (turns : List Turn) :
    (turns.foldl turn s).marks.designated = s.marks.designated := by
  induction turns generalizing s with
  | nil => rfl
  | cons t turns ih =>
    rw [List.foldl_cons, ih]
    cases t with
    | event e => rfl
    | step t =>
      cases t with
      | placeholders force => exact Reconciler.designated_renderPlaceholders _ _ _
      | _ => rfl
    | teardown => rfl

/-- The handles of the scene have widgets and listeners of their own. -/
structure Lively (s : Scene) : Prop where
  equipped : Equipped s.marks.designated s.canvas.hub s.marks.handles
  classed : s.marks.Classed

theorem Lively.turns {s : Scene} (h : s.Lively) (turns : List Turn) : (turns.foldl turn s).Lively := by
  have hlasting : Lasting fun hub r => Equipped r.designated hub r.handles ∧ r.Classed :=
    lasting_of_accounting (Q := Equipped) accounting_equipped fun event h => h.dispatch event
  obtain ⟨hequipped, hclassed⟩ := lasting_turns hlasting ⟨h.equipped, h.classed⟩ turns
  exact ⟨hequipped, hclassed⟩

private theorem lively_start (designated : Modifier) (text : String) : (start designated text).Lively :=
  ⟨.empty, by simp [start, Reconciler.empty], by simp [start, Reconciler.empty]⟩

namespace Lively

variable {s : Scene} {h : Handle}

/-- A handle that has been there is there or its widget is silent. -/
private theorem known_turns (hs : s.Lively) (hh : h ∈ s.marks.handles) (turns : List Turn) :
    h ∈ (turns.foldl turn s).marks.handles ∨ Silent h.widget (turns.foldl turn s).canvas.hub := by
  have hlasting : Lasting fun hub r => Known h r.designated hub r.handles ∧ r.Classed :=
    lasting_of_accounting (Q := Known h) (fun _ => accounting_known _ h) fun event hk => hk.dispatch event
  exact (lasting_turns hlasting ⟨⟨hs.equipped, .inl hh⟩, hs.classed⟩ turns).1.known

/-- A handle that is gone does not come back. -/
private theorem not_mem_of_silent (hs : s.Lively) (hsilent : Silent h.widget s.canvas.hub) :
    h ∉ s.marks.handles :=
  fun hh => hs.equipped.about_ne_nil hh hsilent.none

private theorem silent_turns (hs : s.Lively) (hsilent : Silent h.widget s.canvas.hub)
    (turns : List Turn) : Silent h.widget (turns.foldl turn s).canvas.hub := by
  have hlasting : Lasting fun hub r => (Equipped r.designated hub r.handles ∧ Silent h.widget hub) ∧
      r.Classed :=
    lasting_of_accounting
      (Q := fun designated hub handles => Equipped designated hub handles ∧ Silent h.widget hub)
      (fun designated => (accounting_equipped designated).and (accounting_silent designated h.widget))
      fun event hq => ⟨hq.1.dispatch event, hq.2.dispatch hq.1.wired.own event⟩
  exact (lasting_turns hlasting ⟨⟨hs.equipped, hsilent⟩, hs.classed⟩ turns).1.2

/-- A handle that is there before and after some turns is there all along. -/
private theorem mem_handles_between (hs : s.Lively) (hh : h ∈ s.marks.handles) {front back : List Turn}
    (hafter : h ∈ ((front ++ back).foldl turn s).marks.handles) :
    h ∈ (front.foldl turn s).marks.handles := by
  refine (hs.known_turns hh front).resolve_right fun hsilent => ?_
  rw [List.foldl_append] at hafter
  have hgone := (hs.turns front).silent_turns hsilent back
  exact ((hs.turns front).turns back).not_mem_of_silent hgone hafter

/-- The widget of a link that is kept shows what the events since then were. -/
private theorem heeds_turns (hs : s.Lively) (hh : h ∈ s.marks.handles) (hcls : h.cls = .passageLink)
    {passage : PassageId} (hpassage : h.passage = some passage) {w : Widget}
    (hw : s.canvas.hub.widget? h.widget = some w) (hstart : Heeds h.widget s.marks.designated [] w)
    (turns : List Turn) (hafter : h ∈ (turns.foldl turn s).marks.handles) :
    ∃ w, (turns.foldl turn s).canvas.hub.widget? h.widget = some w ∧
      Heeds h.widget s.marks.designated (turns.filterMap Turn.event?) w := by
  induction turns using List.reverseRecOn with
  | nil => exact ⟨w, hw, hstart⟩
  | append_singleton turns t ih =>
    have hbefore : h ∈ (turns.foldl turn s).marks.handles := hs.mem_handles_between hh hafter
    obtain ⟨v, hv, hheeds⟩ := ih hbefore
    have hlively := hs.turns turns
    have hdesignated : (turns.foldl turn s).marks.designated = s.marks.designated :=
      designated_turns s turns
    rw [List.foldl_append, List.filterMap_append]
    generalize turns.foldl turn s = mid at hbefore hv hlively hdesignated
    cases ht : t.event? with
    | none =>
      refine ⟨v, ?_, ?_⟩
      · exact accounts_turn (Q := fun hub _ => hub.widget? h.widget = some v)
          (accounting_widget _ h.widget v)
          hlively.classed hv ht
      · simpa [ht] using hheeds
    | some e =>
      obtain rfl : t = .event e := by
        cases t with
        | event e' => exact congrArg Turn.event (Option.some.inj ht)
        | _ => simp [Turn.event?] at ht
      refine ⟨heed h.widget s.marks.designated e v, ?_, hheeds.event e⟩
      show (mid.canvas.hub.dispatch e).2.widget? h.widget = _
      rw [hlively.equipped.widget?_dispatch_link hbefore hcls hpassage, hv, hdesignated]
      rfl

/-- No event has reached the widget of a handle that a pass has just drawn. -/
private theorem untouched (hs : s.Lively) (story : Story) :
    ∀ h ∈ (s.step (.links story)).marks.handles, h ∈ s.marks.handles ∨
      ∃ w, (s.step (.links story)).canvas.hub.widget? h.widget = some w ∧
        w.clickable = false ∧ w.hovered = false ∧ w.armed = false :=
  (Reconciler.accounts_renderLinks (accounting_untouched _ s.marks.handles) (fun _ hg => .inl hg)
    hs.classed story).1

end Lively

/-- A link that is drawn in a run answers, as long as it is kept, to the events since then, and when it is
gone its widget answers to no click. -/
theorem links_answer_of_run (designated : Modifier) (text : String) :
    (∀ (before : List Turn) (story : Story) (after : List Turn) (key : LinkKey) (h : Handle),
      let s := before.foldl turn (start designated text)
      let drawn := s.turn (.step (.links story))
      let t := after.foldl turn drawn
      h ∉ s.marks.links.map (·.2) → (key, h) ∈ drawn.marks.links → h ∈ t.marks.links.map (·.2) →
        Answers designated t.canvas.hub (after.filterMap Turn.event?) h key.passage) ∧
    ∀ (front back : List Turn) (h : Handle),
      let t := (front ++ back).foldl turn (start designated text)
      h ∈ (front.foldl turn (start designated text)).marks.handles → h ∉ t.marks.handles →
        ∀ (button : MouseButton) (modifiers : Modifiers),
          t.canvas.hub.dispatch (.click h.widget button modifiers) = ([], t.canvas.hub) := by
  have hstart := lively_start designated text
  constructor
  · intro before story after key h s drawn t hnew hdrawn hkept
    have hs : s.Lively := hstart.turns before
    have hlively : drawn.Lively := hs.turns [.step (.links story)]
    have ht : t.Lively := hlively.turns after
    have hdesignated : s.marks.designated = designated := designated_turns _ before
    obtain ⟨hcls, hpassage⟩ := hlively.classed.links (key, h) hdrawn
    have hthere : h ∈ t.marks.handles := List.mem_append_right _ hkept
    have hmade : h ∈ drawn.marks.handles := List.mem_append_right _ (List.mem_map_of_mem hdrawn)
    -- it is a new handle, since those of placeholders are of another class
    have hnone : h ∉ s.marks.handles := by
      intro hold
      rcases List.mem_append.1 hold with hold | hold
      · rw [hs.classed.placeholders h hold] at hcls
        simp at hcls
      · exact hnew hold
    obtain ⟨w, hw, hclickable, hhovered, harmed⟩ := (hs.untouched story h hmade).resolve_left hnone
    have hheeds : Heeds h.widget drawn.marks.designated [] w := .nil hclickable hhovered harmed
    obtain ⟨v, hv, hheeds⟩ := hlively.heeds_turns hmade hcls hpassage hw hheeds after hthere
    have hequipped := ht.equipped
    have hsame : t.marks.designated = designated := (designated_turns drawn after).trans hdesignated
    have hsame' : drawn.marks.designated = designated := hdesignated
    rw [hsame] at hequipped
    rw [hsame'] at hheeds
    exact hequipped.answers hthere hcls hpassage hv hheeds
  · intro front back h t hbefore hgone button modifiers
    have hfront := hstart.turns front
    have ht : t.Lively := hstart.turns (front ++ back)
    have hknown := hfront.known_turns hbefore back
    rw [← List.foldl_append] at hknown
    exact (hknown.resolve_left hgone).dispatch_click ht.equipped.wired.own button modifiers

/-- The mouse goes over a link, and the link modifier goes down; in another run the link is deleted. -/
theorem links_answer_of_run_sole :
    let link : Handle := ⟨⟨0⟩, .passageLink, some ⟨1⟩, ⟨0⟩, [⟨0⟩, ⟨1⟩, ⟨2⟩, ⟨3⟩, ⟨4⟩]⟩
    let drawn := (start .ctrl "[[A]]").turn (.step (.links soleStory))
    let t := [Turn.event (.mouseEnter ⟨0⟩), .event (.keyDown "Control")].foldl turn drawn
    let deleted := [Turn.step (.links soleStory), .step (.edit (.replace "" ⟨0, 0⟩ ⟨0, 5⟩)),
      .step (.links soleStory)].foldl turn (start .ctrl "[[A]]")
    Answers .ctrl t.canvas.hub [.mouseEnter ⟨0⟩, .keyDown "Control"] link ⟨1⟩ ∧
      deleted.canvas.hub.dispatch (.click ⟨0⟩ .primary ⟨[.ctrl]⟩) = ([], deleted.canvas.hub) := by
  intro link drawn t deleted
  constructor
  · exact (links_answer_of_run .ctrl "[[A]]").1 [] soleStory [.event (.mouseEnter ⟨0⟩),
      .event (.keyDown "Control")]
      ⟨⟨1⟩, ⟨0, 0⟩⟩ link (by decide +kernel) (by decide +kernel) (by decide +kernel)
  · exact (links_answer_of_run .ctrl "[[A]]").2 [.step (.links soleStory)]
      [.step (.edit (.replace "" ⟨0, 0⟩ ⟨0, 5⟩)), .step (.links soleStory)] link (by decide +kernel)
      (by decide +kernel) .primary ⟨[.ctrl]⟩

end Scene

end Markup

end PassageEditor
