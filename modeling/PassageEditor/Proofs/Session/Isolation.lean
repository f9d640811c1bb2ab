import PassageEditor.Proofs.Session.UpToDate

/-!
# Isolation of the format after a crash

The health tells how often the editor has crashed (`Desk.health_turn`).  From the first crash on nothing
is left in the session of what the format has put there (`Isolated`), and every turn keeps it so
(`Desk.isolated_turn`).
-/

namespace PassageEditor

namespace Session

variable {s t : Session}

/-- What the format has put into a session beside the mode, and whether it may. -/
def contributed (s : Session) : Health × Option Tracker × List ToolbarItem :=
  (s.health, s.tracker, s.toolbar)

/-- What a session has of the format, the name under which it calls it, and whether it may. -/
structure Bearing where
  format : FormatRef
  extensions : Option LoadedExtensions
  mode : Option String
  health : Health
  tracker : Option Tracker
  toolbar : List ToolbarItem

def bearing (s : Session) : Bearing := ⟨s.format, s.extensions, s.mode, s.health, s.tracker, s.toolbar⟩

private theorem contributed_of_bearing (h : t.bearing = s.bearing) : t.contributed = s.contributed :=
  congrArg (fun b : Bearing => (b.health, b.tracker, b.toolbar)) h

/-- The editor has crashed, and nothing that came from the format is left. -/
structure Isolated (s : Session) : Prop where
  health : s.health ≠ .full
  tracker : s.tracker = none
  toolbar : s.toolbar = []

theorem Isolated.of_contributed (h : s.Isolated) (heq : t.contributed = s.contributed) : t.Isolated := by
  simp only [contributed, Prod.mk.injEq] at heq
  obtain ⟨hhealth, htracker, htoolbar⟩ := heq
  exact ⟨hhealth ▸ h.health, htracker.trans h.tracker, htoolbar.trans h.toolbar⟩

private theorem Isolated.of_bearing (h : s.Isolated) (heq : t.bearing = s.bearing) : t.Isolated :=
  h.of_contributed (contributed_of_bearing heq)

theorem activeExtensions_eq_none (h : s.health ≠ .full) : s.activeExtensions = none := by
  simp [activeExtensions, Health.extensionsEnabled, h]

theorem modeName_of_crash (h : s.health ≠ .full) : s.modeName = plainMode := by
  simp [modeName, Health.extensionsEnabled, h]

/-! ### What leaves all of the format alone -/

theorem bearing_dispatchEvent (s : Session) (event : Event) :
    (s.dispatchEvent event).2.bearing = s.bearing :=
  keeps_dispatchEvent bearing (fun _ _ => rfl) (fun _ _ => rfl) (fun _ _ => rfl) s event

theorem bearing_handleKey (s : Session) (key : String) : (s.handleKey key).2.bearing = s.bearing :=
  keeps_handleKey bearing (bearing_dispatchEvent s) key

theorem bearing_changeSelection (s : Session) (ranges : List Selection) :
    (s.changeSelection ranges).2.bearing = s.bearing := by
  rw [changeSelection_eq]
  split
  · rfl
  · exact keeps_followSelection (fun _ _ _ => rfl) _

theorem bearing_execCommand (s : Session) (name : String) :
    (s.execCommand name).2.bearing = s.bearing := by
  rw [execCommand_def]
  refine keeps_whileLive bearing (keeps_withBuffer bearing fun b _ => ?_)
  rcases s.runCommand b name with ⟨_ | _, c⟩ <;> rfl

theorem bearing_pickCompletion (s : Session) (index : Nat) :
    (s.pickCompletion index).2.bearing = s.bearing :=
  invariant_pickCompletion (·.bearing = s.bearing) rfl (fun _ => rfl)
    (fun t name => (bearing_execCommand t name).trans) index

theorem bearing_detach (s : Session) : s.detach.2.bearing = s.bearing := by
  unfold detach
  split <;> rfl

theorem contributed_registerMode (s : Session) : s.registerMode.contributed = s.contributed := by
  rw [registerMode_def]
  split <;> rfl

private theorem bearing_freshenMarks (s : Session) : s.freshenMarks.bearing = s.bearing := by
  unfold freshenMarks
  split
  · rfl
  · split <;> rfl

/-- A story that is taken over is shown to the tracker. -/
theorem bearing_adopt (s : Session) (story : Story) (r : Revision) :
    (s.adopt story r).bearing =
      { s.bearing with tracker := s.tracker.map fun t => (t.sync story).2 } := by
  rw [adopt_def]
  dsimp only
  rw [bearing_freshenMarks]
  rfl

theorem health_registerMode (s : Session) : s.registerMode.health = s.health :=
  congrArg Prod.fst (contributed_registerMode s)

/-! ### What keeps a session isolated -/

private theorem isolated_refreshToolbar (h : s.Isolated) : s.refreshToolbar.Isolated := by
  rw [refreshToolbar_def, activeExtensions_eq_none h.health]
  exact ⟨h.health, h.tracker, rfl⟩

private theorem isolated_rebuildVariables (h : s.Isolated) : s.rebuildVariables.Isolated := by
  rw [rebuildVariables_def, activeExtensions_eq_none h.health]
  exact ⟨h.health, rfl, h.toolbar⟩

private theorem isolated_attach (h : s.Isolated) (b : Buffer) : (s.attach b).2.Isolated := by
  rw [attach_def, whileLive_def]
  split
  · exact h
  · refine isolated_refreshToolbar (h.of_contributed ?_)
    rw [contributed_registerMode]
    cases s.buffer <;> rfl

private theorem isolated_refreshFormat (h : s.Isolated) (formats : Registry) :
    (s.refreshFormat formats).2.Isolated := by
  rw [refreshFormat_def]
  dsimp only
  split
  · exact h
  · have hnext :
        ({ s with extensions := formats.extensionsFor s.story.format s.config } : Session).Isolated :=
      ⟨h.health, h.tracker, h.toolbar⟩
    exact isolated_refreshToolbar ((isolated_rebuildVariables hnext).of_contributed
      (contributed_registerMode _))

theorem isolated_runTask (h : s.Isolated) (task : Task) : (s.runTask task).Isolated :=
  invariant_runTask Isolated h (fun _ _ ht => ht.of_contributed rfl)
    (fun event => h.of_bearing (bearing_dispatchEvent s event)) (fun _ => h.of_contributed rfl)
    (fun _ _ _ => h.of_contributed rfl) (isolated_refreshToolbar h) task

private theorem isolated_adopt (h : s.Isolated) (story : Story) (r : Revision) :
    (s.adopt story r).Isolated := by
  refine h.of_bearing ?_
  rw [bearing_adopt, h.tracker, Option.map_none, ← h.tracker]
  rfl

private theorem isolated_withoutExtensions (h : s.health ≠ .full) : s.withoutExtensions.Isolated := by
  have hhealth : s.closeCompletion.health = s.health :=
    keeps_closeCompletion (f := health) (fun _ _ _ => rfl) s
  unfold withoutExtensions
  dsimp only
  split
  · exact ⟨hhealth ▸ h, rfl, rfl⟩
  · exact ⟨hhealth ▸ h, rfl, rfl⟩

theorem bearing_shutDown (s : Session) (message : String) : (s.shutDown message).bearing = s.bearing := by
  have hclosed : s.closeCompletion.bearing = s.bearing := keeps_closeCompletion (fun _ _ _ => rfl) s
  unfold shutDown
  dsimp only
  split
  · exact hclosed
  · exact hclosed

/-- The first crash takes away what the format has put in, and a later one finds nothing of it. -/
private theorem isolated_reportCrash (h : s.health ≠ .full → s.Isolated) (message : String) :
    (s.reportCrash message).2.Isolated := by
  unfold reportCrash
  dsimp only
  have hlater : s.health ≠ .full → ({ s with health := .crashed } : Session).Isolated := fun hne =>
    ⟨by simp, (h hne).tracker, (h hne).toolbar⟩
  cases hhealth : s.health with
  | full => exact isolated_withoutExtensions (by simp [Health.afterCrash])
  | extensionsDisabled =>
    exact (hlater (by simp [hhealth])).of_bearing (bearing_shutDown _ message)
  | crashed => exact (hlater (by simp [hhealth])).of_bearing (bearing_shutDown _ message)

private theorem isolated_serve (h : s.Isolated) (request : Request) : (s.serve request).Isolated := by
  cases request with
  | attach b => exact isolated_attach h b
  | detach => exact h.of_bearing (bearing_detach s)
  | exec name => exact h.of_bearing (bearing_execCommand s name)
  | pick index => exact h.of_bearing (bearing_pickCompletion s index)
  | trigger => exact h.of_bearing (keeps_triggerCompletion (fun _ _ _ => rfl) s)
  | refresh => exact h.of_bearing (keeps_refreshCompletion (fun _ _ _ => rfl) s)
  | close => exact h.of_bearing (keeps_closeCompletion (fun _ _ _ => rfl) s)
  | select ranges => exact h.of_bearing (bearing_changeSelection s ranges)
  | key key => exact h.of_bearing (bearing_handleKey s key)
  | event event => exact h.of_bearing (bearing_dispatchEvent s event)
  | runTasks =>
    exact invariant_runTasks Isolated h (fun _ _ ht => ht.of_contributed rfl) fun _ task ht =>
      isolated_runTask ht task
  | crash message => exact isolated_reportCrash (fun _ => h) message
  | refreshFormat formats => exact isolated_refreshFormat h formats
  | drainEvents => exact h.of_contributed rfl

end Session

namespace Desk

open Session

variable {d : Desk}

theorem bearing_tick (d : Desk) (now : Nat) : (d.tick now).2.session.bearing = d.session.bearing := by
  rw [session_tick]
  rfl

theorem bearing_localChange (d : Desk) (now : Nat) :
    (d.localChange now).2.session.bearing = d.session.bearing := by
  rw [session_localChange]
  split
  · rfl
  · split
    · exact bearing_tick d now
    · exact (keeps_followEdit (fun _ _ _ => rfl) _).trans (bearing_tick d now)

theorem isolated_turn (h : d.session.Isolated) (t : Turn) : (d.turn t).session.Isolated := by
  have htick : ∀ now, (d.tick now).2.session.Isolated := fun now => h.of_bearing (bearing_tick d now)
  cases t with
  | typed change => exact h.of_contributed rfl
  | written change => exact h
  | op op =>
    cases op with
    | request request => exact isolated_serve h request
    | localChange now => exact h.of_bearing (bearing_localChange d now)
    | advance now => exact htick now
    | storyChange story now => exact keeps_storyChange htick (fun _ => isolated_adopt) story now
    | syncFromStore now => exact keeps_syncFromStore htick (fun _ => isolated_adopt) now

theorem isolated_more (h : d.session.Isolated) (more : List Turn) :
    (more.foldl turn d).session.Isolated := by
  induction more using List.reverseRecOn with
  | nil => exact h
  | append_singleton more t ih =>
    rw [List.foldl_append]
    exact isolated_turn ih t

/-! ### Health -/

/-- The turn reports a crash of the editor. -/
def Turn.isCrash : Turn → Bool
  | .op (.request (.crash _)) => true
  | _ => false

theorem Turn.eq_of_isCrash {t : Turn} (h : t.isCrash = true) :
    ∃ message, t = .op (.request (.crash message)) := by
  unfold isCrash at h
  split at h
  · exact ⟨_, rfl⟩
  · simp at h

/-- A crash is the only thing that changes the health. -/
theorem health_turn (d : Desk) (t : Turn) :
    (d.turn t).session.health = if t.isCrash then d.session.health.afterCrash else d.session.health := by
  have htick : ∀ now, (d.tick now).2.session.health = d.session.health := fun now =>
    congrArg Bearing.health (bearing_tick d now)
  have hadopt : ∀ s : Session, s.health = d.session.health →
      ∀ story r, (s.adopt story r).health = d.session.health :=
    fun s hs story r => (congrArg (·.2.1) (offer_adopt s story r)).trans hs
  cases t with
  | typed change => rfl
  | written change => rfl
  | op op =>
    cases op with
    | localChange now => exact congrArg Bearing.health (bearing_localChange d now)
    | advance now => exact htick now
    | storyChange story now => exact keeps_storyChange htick hadopt story now
    | syncFromStore now => exact keeps_syncFromStore htick hadopt now
    | request request =>
      cases request with
      | attach b => exact congrArg (·.2.1) (offer_attach d.session b)
      | detach => exact congrArg Bearing.health (bearing_detach d.session)
      | exec name => exact congrArg Bearing.health (bearing_execCommand d.session name)
      | pick index => exact congrArg Bearing.health (bearing_pickCompletion d.session index)
      | trigger => exact keeps_triggerCompletion (f := health) (fun _ _ _ => rfl) d.session
      | refresh => exact keeps_refreshCompletion (f := health) (fun _ _ _ => rfl) d.session
      | close => exact keeps_closeCompletion (f := health) (fun _ _ _ => rfl) d.session
      | select ranges => exact congrArg Bearing.health (bearing_changeSelection d.session ranges)
      | key key => exact congrArg Bearing.health (bearing_handleKey d.session key)
      | event event => exact congrArg Bearing.health (bearing_dispatchEvent d.session event)
      | runTasks => exact congrArg (·.2.1) (offer_runTasks d.session)
      | crash message =>
        obtain ⟨tracker, hoffer, -⟩ := offer_reportCrash d.session message
        exact congrArg (·.2.1) hoffer
      | refreshFormat formats => exact (offer_refreshFormat d.session formats).2.1
      | drainEvents => rfl

/-- Once the health is not full, the session is isolated. -/
theorem isolated_turn_of_crash (h : d.session.health ≠ .full → d.session.Isolated) (t : Turn)
    (hafter : (d.turn t).session.health ≠ .full) : (d.turn t).session.Isolated := by
  by_cases hbefore : d.session.health = .full
  · -- the health has just changed, so the turn was a crash
    have hcrash : t.isCrash = true := by
      by_contra hno
      rw [health_turn, if_neg hno] at hafter
      exact hafter hbefore
    obtain ⟨message, rfl⟩ := Turn.eq_of_isCrash hcrash
    exact isolated_reportCrash h message
  · exact isolated_turn (h hbefore) t

end Desk

end PassageEditor
