import PassageEditor.Proofs.Session.Listeners
import PassageEditor.Proofs.Session.MarkFrames
import PassageEditor.Proofs.Session.UpToDate

/-!
# Invariants of the hub and the marks

Of a session, its hub and its marks change by passes over the marks, by taking all marks away, and by
events, and by nothing else.  What these keep is upheld by whatever the host, the format and others do
(`Desk.upholds_run`); the operations are gone through once, for every such property (`Upheld`).  So
whatever the commands of the format and the host do to the marks of the buffer, the listeners of the hub
stay those of the handles (`Desk.strung_run`).
-/

namespace PassageEditor

/-- What lasts, and holds where nothing is drawn yet. -/
structure Upheld (P : Hub → Markup.Reconciler → Prop) : Prop extends Markup.Lasting P where
  start : ∀ designated, P .empty (.empty designated)

namespace Session

open Markup

variable {P : Hub → Reconciler → Prop} {s t : Session}

/-- The property holds of the hub and the marks, and there are handles on a buffer only. -/
structure Upholds (P : Hub → Reconciler → Prop) (s : Session) : Prop where
  holds : P s.hub s.marks
  bare : s.buffer = none → s.marks.handles = []

private theorem Upholds.of_rig (h : s.Upholds P) (hhub : t.hub = s.hub) (hrig : t.rig = s.rig) :
    t.Upholds P := by
  have hmarks : t.marks = s.marks := congrArg Rig.marks hrig
  refine ⟨?_, fun hnone => ?_⟩
  · rw [hhub, hmarks]
    exact h.holds
  · rw [hmarks]
    exact h.bare (buffer_eq_none_of_rig hrig hnone)

/-- Without handles it does not matter whether there is a buffer. -/
private theorem Upholds.onBuffer (h : s.Upholds P) (hnone : s.marks.handles = []) (b : Option Buffer) :
    ({ s with buffer := b } : Session).Upholds P := ⟨h.holds, fun _ => hnone⟩

private theorem hub_registerMode (s : Session) : s.registerMode.hub = s.hub := by
  rw [registerMode_def]
  split <;> rfl

private theorem hub_refreshToolbar (s : Session) : s.refreshToolbar.hub = s.hub :=
  keeps_refreshToolbar hub (fun _ _ => rfl) s

section Operations

variable (hP : Upheld P) (h : s.Upholds P)

include h

private theorem upholds_closeCompletion : s.closeCompletion.Upholds P :=
  h.of_rig (keeps_closeCompletion (f := Session.hub) (fun _ _ _ => rfl) s) (rig_closeCompletion s)

private theorem upholds_registerMode : s.registerMode.Upholds P :=
  h.of_rig (hub_registerMode s) (rig_registerMode s)

private theorem upholds_refreshToolbar : s.refreshToolbar.Upholds P :=
  h.of_rig (hub_refreshToolbar s) (rig_refreshToolbar s)

include hP

/-! ### Drawing -/

private theorem upholds_redraw (b : Buffer) (force : Bool) : (s.redraw b force).Upholds P :=
  ⟨hP.links s.story (hP.placeholders (c := ⟨b, s.hub⟩) force h.holds),
    fun hnone => by simp [redraw] at hnone⟩

private theorem upholds_redrawPlaceholders (b : Buffer) : (s.redrawPlaceholders b).Upholds P :=
  ⟨hP.placeholders (c := ⟨b, s.hub⟩) true h.holds, fun hnone => by simp [redrawPlaceholders] at hnone⟩

/-- Where all marks are taken off a buffer, no handle is left. -/
private theorem upholds_undraw (b : Buffer) :
    (s.undraw b).2.Upholds P ∧ (s.undraw b).2.marks.handles = [] :=
  ⟨⟨hP.teardown (c := ⟨b, s.hub⟩) h.holds, fun _ => rfl⟩, rfl⟩

private theorem upholds_bufferChanged (b : Buffer) : (s.bufferChanged b).Upholds P := by
  have hedited : ({ s with draft := s.draft.edit b.text s.now } : Session).Upholds P := ⟨h.holds, h.bare⟩
  exact upholds_redraw hP hedited b false

/-! ### Selections and events -/

private theorem upholds_select (ranges : List Selection) : (s.select ranges).Upholds P :=
  ⟨hP.event _ h.holds, fun hnone => h.bare (Option.map_eq_none_iff.1 hnone)⟩

private theorem upholds_dispatchEvent (event : Event) : (s.dispatchEvent event).2.Upholds P := by
  have hfold : ∀ (effects : List Effect) (t : Session), t.Upholds P →
      (effects.foldl applyEffect t).Upholds P := by
    intro effects
    induction effects with
    | nil => exact fun _ => id
    | cons e effects ih =>
      refine fun t ht => ih _ ?_
      cases e with
      | setSelection range => exact upholds_select hP ht _
      | openPassage id => exact ⟨ht.holds, ht.bare⟩
      | preventDefault => exact ht
  exact hfold _ _ ⟨hP.event event h.holds, h.bare⟩

private theorem upholds_changeSelection (ranges : List Selection) :
    (s.changeSelection ranges).2.Upholds P := by
  rw [changeSelection_eq]
  split
  · exact h
  · exact (upholds_select hP h ranges).of_rig
      (keeps_followSelection (f := Session.hub) (fun _ _ _ => rfl) _)
      (rig_followSelection _)

/-! ### Every request -/

private theorem upholds_attach (b : Buffer) : (s.attach b).2.Upholds P := by
  have hdrawn : ∀ u : Session, u.Upholds P →
      ((u.redraw (b.setText u.localText) false).registerMode).refreshToolbar.Upholds P := fun u hu =>
    upholds_refreshToolbar (upholds_registerMode (upholds_redraw hP hu _ _))
  rw [attach_def, whileLive_def]
  split
  · exact h
  · cases s.buffer with
    | none => exact hdrawn _ h
    | some old => exact hdrawn _ (upholds_undraw hP h old).1

private theorem upholds_detach : s.detach.2.Upholds P := by
  unfold detach
  cases s.buffer with
  | none => exact h
  | some b =>
    obtain ⟨hundrawn, hnone⟩ := upholds_undraw hP h b
    exact ⟨hundrawn.holds, fun _ => hnone⟩

private theorem upholds_execCommand (name : String) : (s.execCommand name).2.Upholds P := by
  rw [execCommand_def, whileLive_def, withBuffer_def]
  split
  · exact h
  · cases s.buffer with
    | none => exact h
    | some b =>
      dsimp only
      generalize s.runCommand b name = ran
      obtain ⟨_ | _, b'⟩ := ran
      · exact ⟨h.holds, fun hnone => by simp at hnone⟩
      · exact (upholds_bufferChanged hP h b').of_rig rfl rfl

private theorem upholds_afterPick (b : Buffer) : (s.afterPick b).Upholds P := by
  have hclosed : ({ s with completion := none } : Session).Upholds P := h.of_rig rfl rfl
  exact upholds_bufferChanged hP hclosed _

theorem upholds_runTask (task : Task) : (s.runTask task).Upholds P :=
  invariant_runTask (Upholds P) h (fun _ _ ht => ht.of_rig rfl rfl)
    (upholds_dispatchEvent hP h) (upholds_select hP h)
    (fun b _ _ => upholds_redrawPlaceholders hP h b) (upholds_refreshToolbar h) task

private theorem upholds_withoutExtensions : s.withoutExtensions.Upholds P := by
  have hclosed :
      ({ s.closeCompletion with
          tracker := none, mode := none, toolbar := [], tasks := [] } : Session).Upholds P :=
    (upholds_closeCompletion h).of_rig rfl rfl
  unfold withoutExtensions
  dsimp only
  split
  · exact hclosed
  · exact upholds_redraw hP (upholds_undraw hP hclosed _).1 _ _

/-- Nothing is drawn after the last crash. -/
private theorem upholds_shutDown (message : String) :
    (s.shutDown message).Upholds P ∧ (s.shutDown message).marks.handles = [] := by
  have hclosed : ({ s.closeCompletion with
      crashMessage := some (Payload.flattened 160 message), tasks := [] } : Session).Upholds P :=
    (upholds_closeCompletion h).of_rig rfl rfl
  unfold shutDown
  dsimp only
  split
  · rename_i hb
    exact ⟨hclosed, hclosed.bare hb⟩
  · obtain ⟨hundrawn, hnone⟩ := upholds_undraw hP hclosed _
    exact ⟨hundrawn.onBuffer hnone _, hnone⟩

private theorem upholds_reportCrash (message : String) : (s.reportCrash message).2.Upholds P := by
  have hworse : ({ s with health := s.health.afterCrash } : Session).Upholds P := ⟨h.holds, h.bare⟩
  unfold reportCrash
  dsimp only
  split
  · exact hworse
  · exact upholds_withoutExtensions hP hworse
  · exact (upholds_shutDown hP hworse message).1

omit hP in
private theorem upholds_refreshFormat (formats : Registry) : (s.refreshFormat formats).2.Upholds P := by
  rw [refreshFormat_def]
  dsimp only
  split
  · exact h
  · have hnext :
        ({ s with
            extensions := formats.extensionsFor s.story.format s.config
          } : Session).rebuildVariables.Upholds P :=
      ⟨h.holds, h.bare⟩
    exact upholds_refreshToolbar (upholds_registerMode hnext)

private theorem upholds_serve (request : Request) : (s.serve request).Upholds P := by
  have hlisted : ∀ {t : Session}, t.hub = s.hub → t.rig = s.rig → t.Upholds P := h.of_rig
  cases request with
  | attach b => exact upholds_attach hP h b
  | detach => exact upholds_detach hP h
  | exec name => exact upholds_execCommand hP h name
  | pick index =>
    exact invariant_pickCompletion (Upholds P) h (upholds_afterPick hP h)
      (fun _ name ht => upholds_execCommand hP ht name) index
  | trigger =>
    exact hlisted (keeps_triggerCompletion (f := Session.hub) (fun _ _ _ => rfl) s)
      (rig_triggerCompletion s)
  | refresh =>
    exact hlisted (keeps_refreshCompletion (f := Session.hub) (fun _ _ _ => rfl) s)
      (rig_refreshCompletion s)
  | close => exact upholds_closeCompletion h
  | select ranges => exact upholds_changeSelection hP h ranges
  | key key => exact invariant_handleKey (Upholds P) h (upholds_dispatchEvent hP h) key
  | event event => exact upholds_dispatchEvent hP h event
  | runTasks =>
    exact invariant_runTasks (Upholds P) h (fun _ _ ht => ht.of_rig rfl rfl) fun _ task ht =>
      upholds_runTask hP ht task
  | crash message => exact upholds_reportCrash hP h message
  | refreshFormat formats => exact upholds_refreshFormat h formats
  | drainEvents => exact h.of_rig rfl rfl

/-! ### Taking a story over -/

private theorem upholds_freshenMarks : s.freshenMarks.Upholds P := by
  unfold freshenMarks
  split
  · exact h
  · split
    · exact h
    · exact upholds_redraw hP h _ false

private theorem upholds_adopt (story : Story) (r : Revision) : (s.adopt story r).Upholds P := by
  rw [adopt_def]
  dsimp only
  refine upholds_freshenMarks hP ⟨h.holds, fun hnone => h.bare ?_⟩
  dsimp only at hnone
  split at hnone
  · exact Option.map_eq_none_iff.1 hnone
  · exact hnone

end Operations

end Session

namespace Desk

open Session Markup

variable {P : Hub → Reconciler → Prop} {d : Desk}

private theorem hub_tick (d : Desk) (now : Nat) : (d.tick now).2.session.hub = d.session.hub := by
  rw [session_tick]

private theorem upholds_localChange (hP : Upheld P) (h : d.session.Upholds P) (now : Nat) :
    (d.localChange now).2.session.Upholds P := by
  have htick : (d.tick now).2.session.Upholds P := h.of_rig (d.hub_tick now) (d.rig_tick now)
  rw [session_localChange]
  split
  · exact h
  · split
    · exact htick
    · exact (upholds_bufferChanged hP htick _).of_rig
        (keeps_followEdit (f := Session.hub) (fun _ _ _ => rfl) _) (rig_followEdit _)

private theorem upholds_turn (hP : Upheld P) (h : d.session.Upholds P) (t : Turn) :
    (d.turn t).session.Upholds P := by
  have htick : ∀ now, (d.tick now).2.session.Upholds P :=
    fun now => h.of_rig (d.hub_tick now) (d.rig_tick now)
  have hadopt : ∀ s : Session, s.Upholds P → ∀ story r, (s.adopt story r).Upholds P := fun _ hs =>
    upholds_adopt hP hs
  cases t with
  | written change => exact h
  | typed change => exact ⟨h.holds, fun hnone => h.bare (Option.map_eq_none_iff.1 hnone)⟩
  | op op =>
    cases op with
    | request request => exact upholds_serve hP h request
    | localChange now => exact upholds_localChange hP h now
    | advance now => exact htick now
    | storyChange story now => exact keeps_storyChange htick hadopt story now
    | syncFromStore now => exact keeps_syncFromStore htick hadopt now

/-- A property that is upheld holds after any run. -/
theorem upholds_run (hP : Upheld P) {store : Store} {formats : Registry} {story : StoryId}
    {passage : PassageId} {config : Config} {s : Session}
    (h : open? store formats story passage config = .ok s) (turns : List Turn) :
    (turns.foldl turn ⟨store, s⟩).session.Upholds P := by
  induction turns using List.reverseRecOn with
  | nil =>
    obtain ⟨st, r, pattern, hst, hr, rfl⟩ := open_eq h
    exact ⟨hP.start _, fun _ => rfl⟩
  | append_singleton turns t ih =>
    rw [List.foldl_append]
    exact upholds_turn hP ih t

end Desk

open Markup

/-- That the listeners are accounted for is upheld. -/
private theorem upheld_wired : Upheld fun hub r => Wired hub r.handles ∧ r.Classed where
  start _ := ⟨.empty, by simp [Reconciler.empty], by simp [Reconciler.empty]⟩
  toLasting := by
    refine lasting_of_accounting (Q := fun _ hub handles => Wired hub handles) accounting_wired ?_
    intro _ hub handles event h
    obtain ⟨hlisteners, hnext⟩ := listeners_dispatch h.own event
    exact h.of_same hlisteners hnext

namespace Session

variable {s : Session}

/-- The listeners of the hub are those of the handles, and there are handles on a buffer only. -/
structure Strung (s : Session) : Prop where
  wired : Wired s.hub s.marks.handles
  classed : s.marks.Classed
  bare : s.buffer = none → s.marks.handles = []

private theorem strung_iff_upholds : s.Strung ↔ s.Upholds fun hub r => Wired hub r.handles ∧ r.Classed :=
  ⟨fun h => ⟨⟨h.wired, h.classed⟩, h.bare⟩, fun h => ⟨h.holds.1, h.holds.2, h.bare⟩⟩

/-- Nothing is drawn after the last crash. -/
theorem strung_shutDown (h : s.Strung) (message : String) :
    (s.shutDown message).Strung ∧ (s.shutDown message).marks.handles = [] := by
  obtain ⟨hupholds, hnone⟩ := upholds_shutDown upheld_wired (strung_iff_upholds.1 h) message
  exact ⟨strung_iff_upholds.2 hupholds, hnone⟩

end Session

namespace Desk

open Session

theorem strung_run {store : Store} {formats : Registry} {story : StoryId} {passage : PassageId}
    {config : Config} {s : Session} (h : open? store formats story passage config = .ok s)
    (turns : List Turn) : (turns.foldl turn ⟨store, s⟩).session.Strung :=
  strung_iff_upholds.2 (upholds_run upheld_wired h turns)

end Desk

end PassageEditor
