import PassageEditor.Proofs.Markup.Ownership

/-!
# Whose widget a listener is about

Every handle has the listeners of its class, all about its own widget, and no two handles share a widget
(`Equipped`).  So the listeners that are about the widget of a handle are its own and no others
(`Equipped.about_eq`).  Once the handle is gone its widget is silent: no listener is about it, and since
the numbers of widgets are never used again none ever will be (`Silent`).
-/

namespace PassageEditor.Markup

variable {designated : Modifier}

namespace Equips

variable {widget : WidgetId} {cls : MarkClass} {passage : Option PassageId}
  {listeners : List (EventKind × Reaction)}

private theorem aims (h : Equips designated widget cls passage listeners) :
    ∀ l ∈ listeners, l.2.widget? = some widget := by
  cases h with
  | placeholder range => simp [placeholderListeners, Reaction.widget?]
  | link passage => simp [linkListeners, Reaction.widget?]

private theorem ne_nil (h : Equips designated widget cls passage listeners) : listeners ≠ [] := by
  cases h <;> simp [placeholderListeners, linkListeners]

theorem eq_linkListeners {target : PassageId}
    (h : Equips designated widget .passageLink (some target) listeners) :
    listeners = linkListeners widget target designated := by
  cases h
  rfl

end Equips

namespace Handle

/-- What a handle listens to, and how it reacts. -/
def reactions (h : Handle) (hub : Hub) : List (EventKind × Reaction) :=
  (h.ownListeners hub).map fun l => (l.kind, l.reaction)

/-- A handle with the listeners that have just been added. -/
private theorem reactions_of_added {hub : Hub} (hnumbered : hub.Numbered) {g : Handle}
    {listeners : List (EventKind × Reaction)} (hids : g.listeners = (hub.addAll listeners).1) :
    g.reactions (hub.addAll listeners).2 = listeners := by
  obtain ⟨hfresh, -⟩ := addAll_listeners hub listeners
  have hlength := hub.length_addAll listeners
  have hold : (hub.listeners.filter fun l => g.listeners.contains l.id) = [] := by
    rw [List.filter_eq_nil_iff]
    intro l hl hmem
    have hge := (hfresh l.id (hids ▸ by simpa using hmem)).1
    have hlt := hnumbered l hl
    omega
  have hnew : ∀ l ∈ List.zipWith (fun id l => (⟨id, l.1, l.2⟩ : Listener))
      (hub.addAll listeners).1 listeners,
      g.listeners.contains l.id = true := by
    intro l hl
    rw [hids]
    simpa using (Hub.of_mem_added hl).1
  unfold reactions ownListeners
  rw [hub.listeners_addAll, List.filter_append, hold, List.nil_append,
    List.filter_eq_self.2 hnew, List.map_zipWith]
  exact (List.map_uncurry_zip_eq_zipWith (f := fun _ l => l)).symm.trans
    (List.map_snd_zip (Nat.le_of_eq hlength.symm))

end Handle

/-! ### Handles that are there -/

/-- The handles have widgets and listeners of their own. -/
structure Equipped (designated : Modifier) (hub : Hub) (handles : List Handle) : Prop where
  wired : Wired hub handles
  single : (handles.map (·.widget)).Nodup
  below : ∀ h ∈ handles, h.widget.value < hub.widgets.length
  equips : ∀ h ∈ handles, Equips designated h.widget h.cls h.passage (h.reactions hub)

theorem accounting_equipped (designated : Modifier) :
    Accounting designated fun c handles => Equipped designated c.hub handles where
  perm h hperm :=
    ⟨h.wired.perm hperm, (hperm.map _).nodup_iff.1 h.single, fun g hg => h.below g (hperm.mem_iff.2 hg),
      fun g hg => h.equips g (hperm.mem_iff.2 hg)⟩
  clear {c g handles} h := by
    obtain ⟨hnew, hsingle⟩ := List.nodup_cons.1 h.single
    refine ⟨h.wired.release, hsingle, fun k hk => h.below k (List.mem_cons_of_mem _ hk), fun k hk => ?_⟩
    have hne : k ≠ g := fun heq => hnew (heq ▸ List.mem_map_of_mem hk)
    have hown : k.ownListeners (g.clear c).hub = k.ownListeners c.hub :=
      Handle.ownListeners_release c.hub fun id hid =>
        h.wired.apart (List.mem_cons_of_mem _ hk) List.mem_cons_self hne hid
    unfold Handle.reactions
    rw [hown]
    exact h.equips k (List.mem_cons_of_mem _ hk)
  place {c handles cls} text {passage} range {listeners} h hequips := by
    let widget : WidgetId × Hub := c.hub.addWidget cls.name text passage
    have hwidgets : (Handle.place c cls text passage range listeners).2.hub.widgets.length =
        c.hub.widgets.length + 1 := by
      show (widget.2.addAll (listeners widget.1)).2.widgets.length = _
      rw [widgets_addAll]
      exact List.length_append
    refine ⟨(accounting_wired designated).place text range h.wired hequips, ?_, ?_, ?_⟩
    · refine List.nodup_cons.2 ⟨?_, h.single⟩
      intro hmem
      obtain ⟨k, hk, heq⟩ := List.mem_map.1 hmem
      have hvalue : k.widget.value = c.hub.widgets.length := congrArg WidgetId.value heq
      have hlt := h.below k hk
      omega
    · intro k hk
      rw [hwidgets]
      rcases List.mem_cons.1 hk with rfl | hk
      · exact Nat.lt_succ_self _
      · exact Nat.lt_succ_of_lt (h.below k hk)
    · intro k hk
      rcases List.mem_cons.1 hk with rfl | hk
      · have hnumbered : widget.2.Numbered := h.wired.numbered
        have hreactions : (Handle.place c cls text passage range listeners).1.reactions
            (Handle.place c cls text passage range listeners).2.hub = listeners widget.1 :=
          Handle.reactions_of_added hnumbered (List.nil_append _)
        rw [hreactions]
        exact hequips widget.1
      · have hbelow : ∀ id ∈ k.listeners, id.value < widget.2.nextListener :=
          fun id hid => h.wired.below hk hid
        have hown : k.ownListeners (Handle.place c cls text passage range listeners).2.hub =
            k.ownListeners c.hub :=
          Handle.ownListeners_addAll hbelow _
        unfold Handle.reactions
        rw [hown]
        exact h.equips k hk

namespace Equipped

variable {hub : Hub} {handles : List Handle} {h : Handle}

theorem empty : Equipped designated .empty [] := ⟨.empty, List.nodup_nil, by simp, by simp⟩

theorem dispatch (hq : Equipped designated hub handles) (event : Event) :
    Equipped designated (hub.dispatch event).2 handles := by
  obtain ⟨hlisteners, hnext⟩ := listeners_dispatch hq.wired.own event
  refine ⟨hq.wired.of_same hlisteners hnext, hq.single, fun g hg => ?_, fun g hg => ?_⟩
  · rw [Hub.length_widgets_dispatch hq.wired.own]
    exact hq.below g hg
  · unfold Handle.reactions Handle.ownListeners
    rw [hlisteners]
    exact hq.equips g hg

/-- The listeners about the widget of a handle are its own. -/
theorem about_eq (hq : Equipped designated hub handles) (hh : h ∈ handles) :
    hub.about h.widget = h.ownListeners hub := by
  have haims : ∀ k ∈ handles, ∀ l ∈ hub.listeners, l.id ∈ k.listeners →
      l.reaction.widget? = some k.widget := by
    intro k hk l hl hid
    have hown : l ∈ k.ownListeners hub := List.mem_filter.2 ⟨hl, by simpa using hid⟩
    have hmem : (l.kind, l.reaction) ∈ k.reactions hub := List.mem_map_of_mem hown
    exact (hq.equips k hk).aims _ hmem
  refine List.filter_congr fun l hl => ?_
  obtain ⟨k, hk, hid⟩ := List.mem_flatMap.1 (hq.wired.ids.mem_iff.1 (List.mem_map_of_mem hl))
  by_cases hown : l.id ∈ h.listeners
  · simp [hown, haims h hh l hl hown]
  · have hne : k.widget ≠ h.widget := by
      intro heq
      obtain rfl := List.inj_on_of_nodup_map hq.single hk hh heq
      exact hown hid
    simp [hown, haims k hk l hl hid, hne]

theorem about_ne_nil (hq : Equipped designated hub handles) (hh : h ∈ handles) :
    hub.about h.widget ≠ [] := by
  rw [hq.about_eq hh]
  intro hnone
  refine (hq.equips h hh).ne_nil ?_
  unfold Handle.reactions
  rw [hnone]
  rfl

end Equipped

/-! ### Handles that are gone -/

/-- The widget was made, and no listener is about it. -/
structure Silent (widget : WidgetId) (hub : Hub) : Prop where
  made : widget.value < hub.widgets.length
  none : hub.about widget = []

namespace Silent

variable {widget : WidgetId} {hub : Hub}

theorem dispatch (hown : ∀ l ∈ hub.listeners, ∀ x, l.reaction ≠ .host x) (h : Silent widget hub)
    (event : Event) : Silent widget (hub.dispatch event).2 := by
  refine ⟨?_, ?_⟩
  · rw [Hub.length_widgets_dispatch hown]
    exact h.made
  · unfold Hub.about
    rw [(listeners_dispatch hown event).1]
    exact h.none

/-- A click on the widget comes to nothing. -/
theorem dispatch_click (hown : ∀ l ∈ hub.listeners, ∀ x, l.reaction ≠ .host x) (h : Silent widget hub)
    (button : MouseButton) (modifiers : Modifiers) :
    hub.dispatch (.click widget button modifiers) = ([], hub) := by
  rw [Hub.dispatch_click hown, h.none]
  rfl

/-- Nothing that is cleared makes a listener. -/
private theorem clear {c : Canvas} (h : Silent widget c.hub) (g : Handle) :
    Silent widget (g.clear c).hub := by
  refine ⟨h.made, ?_⟩
  have hsub : ((g.clear c).hub.about widget).Sublist (c.hub.about widget) := List.filter_sublist.filter _
  exact List.sublist_nil.1 (h.none ▸ hsub)

/-- Nothing that is drawn is about a widget that was there before. -/
private theorem place {c : Canvas} (h : Silent widget c.hub) {cls : MarkClass} (text : String)
    {passage : Option PassageId} (range : Range) {listeners : WidgetId → List (EventKind × Reaction)}
    (hequips : ∀ w, Equips designated w cls passage (listeners w)) :
    Silent widget (Handle.place c cls text passage range listeners).2.hub := by
  let new : WidgetId × Hub := c.hub.addWidget cls.name text passage
  have hlisteners : (Handle.place c cls text passage range listeners).2.hub.listeners = c.hub.listeners ++
      List.zipWith (fun id l => ⟨id, l.1, l.2⟩) (new.2.addAll (listeners new.1)).1 (listeners new.1) :=
    new.2.listeners_addAll _
  have hmade := h.made
  refine ⟨?_, ?_⟩
  · show widget.value < (new.2.addAll (listeners new.1)).2.widgets.length
    rw [widgets_addAll]
    have hlength : new.2.widgets.length = c.hub.widgets.length + 1 := List.length_append
    omega
  · have hold : (c.hub.listeners.filter (·.reaction.widget? = some widget)) = [] := h.none
    unfold Hub.about
    rw [hlisteners, List.filter_append, hold, List.nil_append, List.filter_eq_nil_iff]
    intro l hl
    obtain ⟨-, x, hx, hreaction⟩ := Hub.of_mem_added hl
    have haims : l.reaction.widget? = some new.1 := by
      rw [hreaction]
      exact (hequips new.1).aims x hx
    have hne : new.1 ≠ widget := by
      intro heq
      have hvalue : c.hub.widgets.length = widget.value := congrArg WidgetId.value heq
      omega
    simpa [haims] using hne

end Silent

theorem accounting_silent (designated : Modifier) (widget : WidgetId) :
    Accounting designated fun c _ => Silent widget c.hub where
  perm h _ := h
  clear h := h.clear _
  place text _ range _ h hequips := h.place text range hequips

/-! ### There or gone -/

/-- The handle is there, or its widget is silent. -/
structure Known (g : Handle) (designated : Modifier) (hub : Hub) (handles : List Handle) : Prop where
  equipped : Equipped designated hub handles
  known : g ∈ handles ∨ Silent g.widget hub

theorem accounting_known (designated : Modifier) (g : Handle) :
    Accounting designated fun c handles => Known g designated c.hub handles where
  perm h hperm := ⟨(accounting_equipped designated).perm h.equipped hperm,
    h.known.imp_left hperm.mem_iff.1⟩
  clear {c k handles} h := by
    have hequipped := (accounting_equipped designated).clear h.equipped
    refine ⟨hequipped, ?_⟩
    rcases h.known with hmem | hsilent
    · rcases List.mem_cons.1 hmem with rfl | hmem
      · -- the listeners about its widget were its own, and they have been taken away
        refine .inr ⟨h.equipped.below g List.mem_cons_self, ?_⟩
        show ((c.hub.listeners.filter fun l => !g.listeners.contains l.id).filter _) = []
        have habout := h.equipped.about_eq List.mem_cons_self
        unfold Hub.about Handle.ownListeners at habout
        rw [List.filter_comm, habout, List.filter_filter, List.filter_eq_nil_iff]
        intro l _
        simp
      · exact .inl hmem
    · exact .inr (hsilent.clear k)
  place {c handles cls} text {passage} range {listeners} h hequips :=
    ⟨(accounting_equipped designated).place text range h.equipped hequips,
      h.known.imp (List.mem_cons_of_mem _) fun hsilent =>
        hsilent.place text range hequips⟩

theorem Known.dispatch {g : Handle} {hub : Hub} {handles : List Handle}
    (h : Known g designated hub handles) (event : Event) :
    Known g designated (hub.dispatch event).2 handles :=
  ⟨h.equipped.dispatch event, h.known.imp_right fun hsilent =>
    hsilent.dispatch h.equipped.wired.own event⟩

end PassageEditor.Markup
