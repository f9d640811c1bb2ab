import Mathlib.Logic.Function.Iterate
import PassageEditor.Proofs.Session.Calls
import PassageEditor.Proofs.Session.Isolation

/-!
# No calls after a crash

An isolated session never calls the format: the record of calls of each turn is empty, and so is that of
every run after the first crash (`silence_of_run`).
-/

namespace PassageEditor

namespace Called

open Session Completion

variable {α : Type} {s : Session}

/-! ### Refusals -/

private theorem hooks_whileLiveM {op : Called (Result α)} (h : op.hooks = []) :
    (s.whileLiveM op).hooks = [] := by
  unfold whileLiveM
  split
  · rfl
  · exact h

private theorem hooks_withBufferM {op : Buffer → Called (Result α)} (h : ∀ b, (op b).hooks = []) :
    (s.withBufferM op).hooks = [] := by
  unfold withBufferM
  split
  · rfl
  · exact h _

/-! ### What the format would contribute -/

private theorem hooks_referencedPassagesM (h : s.health ≠ .full) :
    (s.referencedPassagesM : Called _).hooks = [] := by
  unfold referencedPassagesM
  rw [activeExtensions_eq_none h]
  rfl

private theorem hooks_rebuildVariablesM (h : s.health ≠ .full) :
    (s.rebuildVariablesM : Called _).hooks = [] := by
  unfold rebuildVariablesM freshTrackerM
  rw [activeExtensions_eq_none h]
  rfl

private theorem hooks_registerModeM (h : s.health ≠ .full) : (s.registerModeM : Called _).hooks = [] := by
  unfold registerModeM
  rw [activeExtensions_eq_none h]
  rfl

private theorem hooks_refreshToolbarM (h : s.health ≠ .full) :
    (s.refreshToolbarM : Called _).hooks = [] := by
  unfold refreshToolbarM
  rw [activeExtensions_eq_none h]
  rfl

/-- The mode and the toolbar come one after the other. -/
private theorem hooks_dress {β : Type} (h : s.health ≠ .full) (f : Session → β) :
    (do
      let s ← s.registerModeM
      let s ← s.refreshToolbarM
      pure (f s) : Called β).hooks = [] := by
  have hmode : s.registerMode.health ≠ .full := by rwa [health_registerMode]
  simp [hooks_registerModeM h, hooks_refreshToolbarM hmode]

private theorem hooks_attachM (h : s.health ≠ .full) (b : Buffer) :
    (s.attachM b : Called _).hooks = [] := by
  unfold attachM
  refine hooks_whileLiveM (hooks_dress ?_ _)
  cases s.buffer <;> exact h

private theorem hooks_refreshFormatM (h : s.health ≠ .full) (formats : Registry) :
    (s.refreshFormatM formats : Called _).hooks = [] := by
  unfold refreshFormatM
  dsimp only
  split
  · rfl
  · have hnext :
        ({ s with extensions := formats.extensionsFor s.story.format s.config } : Session).health ≠ .full :=
      h
    rw [hooks_bind, hooks_rebuildVariablesM hnext, value_rebuildVariablesM, List.nil_append]
    refine hooks_dress ?_ _
    exact h

/-! ### Completion lists -/

/-- Only lists of variables call the format. -/
private theorem hooks_completeM {sources : Sources} (h : sources.tracker = none) (kind : CompletionKind)
    (b : Buffer) : (completeM kind b sources : Called _).hooks = [] := by
  cases kind with
  | link => rfl
  | command => rfl
  | variableName => simp [completeM, h]

private theorem hooks_openCompletionM (h : s.tracker = none) (b : Buffer) (kind : CompletionKind) :
    (s.openCompletionM b kind : Called _).hooks = [] := by
  have hcomplete :
      (completeM kind b
        ⟨s.story, s.revision.passage.id, s.toolbar, s.tracker, s.pattern⟩ : Called _).hooks = [] :=
    hooks_completeM h kind b
  unfold openCompletionM
  rw [hooks_bind, hcomplete]
  split
  · rfl
  · rfl
  · split <;> rfl

private theorem hooks_triggerCompletionM (h : s.tracker = none) :
    (s.triggerCompletionM : Called _).hooks = [] := by
  unfold triggerCompletionM
  refine hooks_whileLiveM (hooks_withBufferM fun b => ?_)
  split
  · rfl
  · exact hooks_openCompletionM h b _

private theorem hooks_refreshCompletionM (h : s.tracker = none) :
    (s.refreshCompletionM : Called _).hooks = [] := by
  unfold refreshCompletionM
  refine hooks_whileLiveM ?_
  split
  · rfl
  · refine hooks_withBufferM fun b => ?_
    split
    · rfl
    · exact hooks_openCompletionM h b _

private theorem hooks_followEditM (h : s.tracker = none) : (s.followEditM : Called _).hooks = [] := by
  unfold followEditM
  split
  · exact hooks_refreshCompletionM h
  · exact hooks_triggerCompletionM h

private theorem hooks_followSelectionM (h : s.tracker = none) :
    (s.followSelectionM : Called _).hooks = [] := by
  unfold followSelectionM
  split
  · exact hooks_refreshCompletionM h
  · refine hooks_withBufferM fun b => ?_
    split
    · exact hooks_openCompletionM h b _
    · rfl

private theorem hooks_changeSelectionM (h : s.tracker = none) (ranges : List Selection) :
    (s.changeSelectionM ranges : Called _).hooks = [] := by
  have hselected : (s.select ranges).tracker = none := h
  unfold changeSelectionM
  refine hooks_whileLiveM (hooks_withBufferM fun _ => ?_)
  simp [hooks_followSelectionM hselected]

/-! ### Commands -/

private theorem hooks_runCommandM (h : s.health ≠ .full) (b : Buffer) (name : String) :
    (s.runCommandM b name : Called _).hooks = [] := by
  unfold runCommandM
  rw [activeExtensions_eq_none h]
  dsimp only [Option.bind_none]
  split <;> rfl

private theorem hooks_execCommandM (h : s.health ≠ .full) (name : String) :
    (s.execCommandM name : Called _).hooks = [] := by
  unfold execCommandM
  refine hooks_whileLiveM (hooks_withBufferM fun b => ?_)
  rw [hooks_bind, hooks_runCommandM h]
  split <;> rfl

private theorem hooks_pickCompletionM (h : s.health ≠ .full) (index : Nat) :
    (s.pickCompletionM index : Called _).hooks = [] := by
  unfold pickCompletionM
  refine hooks_whileLiveM ?_
  split
  · rfl
  · refine hooks_withBufferM fun b => ?_
    split
    · rfl
    · rename_i command c _
      have hpicked :
          (({ s with completion := none } : Session).bufferChanged c.closeHints).health ≠ .full := h
      dsimp only
      split
      · rfl
      · rw [hooks_bind, hooks_execCommandM hpicked]
        split <;> rfl

/-! ### Work that was put off -/

private theorem hooks_runTaskM (h : s.health ≠ .full) (task : Task) :
    (s.runTaskM task : Called _).hooks = [] := by
  unfold runTaskM
  split
  · rfl
  · dsimp only
    split
    · rfl
    · cases task with
      | restoreSelections => rfl
      | activatePlaceholder => rfl
      | refreshToolbar => exact hooks_refreshToolbarM h
      | renderPlaceholders focusFirst =>
        dsimp only
        split
        · split <;> rfl
        · rfl

private theorem hooks_drainTasksM (h : s.Isolated) (fuel : Nat) :
    (drainTasksM fuel s : Called _).hooks = [] := by
  induction fuel generalizing s with
  | zero => rfl
  | succ fuel ih =>
    unfold drainTasksM
    split
    · rfl
    · rename_i task rest _
      have hrest : ({ s with tasks := rest } : Session).Isolated := h.of_contributed rfl
      have hafter : (({ s with tasks := rest } : Session).runTask task).Isolated :=
        isolated_runTask hrest task
      simp [hooks_runTaskM hrest.health, ih hafter]

/-! ### Turns -/

private theorem hooks_adoptM (h : s.tracker = none) (story : Story) (r : Revision) :
    (s.adoptM story r : Called _).hooks = [] := by
  unfold adoptM syncedTrackerM
  rw [h]
  rfl

private theorem hooks_serveM (h : s.Isolated) (request : Request) :
    (s.serveM request : Called _).hooks = [] := by
  cases request with
  | attach b => simp [serveM, hooks_attachM h.health b]
  | exec name => simp [serveM, hooks_execCommandM h.health name]
  | pick index => simp [serveM, hooks_pickCompletionM h.health index]
  | trigger => simp [serveM, hooks_triggerCompletionM h.tracker]
  | refresh => simp [serveM, hooks_refreshCompletionM h.tracker]
  | select ranges => simp [serveM, hooks_changeSelectionM h.tracker ranges]
  | runTasks => simp [serveM, runTasksM, hooks_drainTasksM h]
  | refreshFormat formats => simp [serveM, hooks_refreshFormatM h.health formats]
  | _ => rfl

variable {d : Desk}

private theorem tracker_tick (h : d.session.tracker = none) (now : Nat) :
    (d.tick now).2.session.tracker = none :=
  (congrArg Bearing.tracker (d.bearing_tick now)).trans h

private theorem hooks_localChangeM (h : d.session.tracker = none) (now : Nat) :
    (d.localChangeM now : Called _).hooks = [] := by
  have htick := tracker_tick h now
  unfold Desk.localChangeM
  split
  · rfl
  · have hedit : ∀ b, (((d.tick now).2.session.bufferChanged b).followEditM : Called _).hooks = [] :=
      fun b =>
      hooks_followEditM htick
    simp [Desk.onSessionM, hooks_withBufferM, hedit]

private theorem hooks_storyChangeM (h : d.session.tracker = none) (story : Story) (now : Nat) :
    (d.storyChangeM story now : Called _).hooks = [] := by
  have htick := tracker_tick h now
  unfold Desk.storyChangeM
  dsimp only
  generalize (if (d.tick now).1 = true then ((d.tick now).2.store.story? story.id).getD story
    else story) = brought
  split
  · rfl
  · split
    · rfl
    · simp [hooks_adoptM htick]

private theorem hooks_syncFromStoreM (h : d.session.tracker = none) (now : Nat) :
    (d.syncFromStoreM now : Called _).hooks = [] := by
  unfold Desk.syncFromStoreM
  dsimp only
  split
  · rfl
  · exact hooks_storyChangeM (tracker_tick h now) _ _

private theorem hooks_turnM (h : d.session.Isolated) (t : Desk.Turn) :
    (d.turnM t : Called _).hooks = [] := by
  cases t with
  | typed change => rfl
  | written change => rfl
  | op op =>
    cases op with
    | request request => simp [Desk.turnM, Desk.stepM, hooks_serveM h request]
    | localChange now => simp [Desk.turnM, Desk.stepM, hooks_localChangeM h.tracker now]
    | storyChange story now => simp [Desk.turnM, Desk.stepM, hooks_storyChangeM h.tracker story now]
    | syncFromStore now => simp [Desk.turnM, Desk.stepM, hooks_syncFromStoreM h.tracker now]
    | advance now => rfl

private theorem hooks_runM (h : d.session.Isolated) (turns : List Desk.Turn) :
    (d.runM turns : Called _).hooks = [] := by
  induction turns generalizing d with
  | nil => rfl
  | cons t turns ih =>
    have hrun : (d.runM (t :: turns) : Called _) = d.turnM t >>= fun e => e.runM turns := List.foldlM_cons
    rw [hrun, hooks_bind, hooks_turnM h, value_turnM, List.nil_append]
    exact ih (Desk.isolated_turn h t)

/-! ### A whole run -/

section Run

variable {store : Store} {formats : Registry} {story : StoryId} {passage : PassageId}
  {config : Config} {s : Session}

/-- The health counts the crashes, and with the first one the session is isolated. -/
private theorem isolated_run (h : Session.open? store formats story passage config = .ok s)
    (turns : List Desk.Turn) :
    let d := turns.foldl Desk.turn ⟨store, s⟩
    d.session.health = Health.afterCrash^[turns.countP Desk.Turn.isCrash] .full ∧
      (d.session.health ≠ .full → d.session.Isolated) := by
  induction turns using List.reverseRecOn with
  | nil =>
    have hfull : s.health = .full := by
      obtain ⟨st, r, pattern, -, -, rfl⟩ := Session.open_eq h
      rfl
    exact ⟨hfull, fun hne => absurd hfull hne⟩
  | append_singleton turns t ih =>
    obtain ⟨hhealth, hisolated⟩ := ih
    dsimp only
    rw [List.foldl_append]
    refine ⟨?_, Desk.isolated_turn_of_crash hisolated t⟩
    show (Desk.turn _ t).session.health = _
    rw [Desk.health_turn, hhealth, List.countP_append]
    by_cases hcrash : t.isCrash = true
    · rw [if_pos hcrash, List.countP_singleton, if_pos hcrash, Function.iterate_succ_apply']
    · rw [if_neg hcrash, List.countP_singleton, if_neg hcrash, Nat.add_zero]

/-- After any turns the health is what the crashes among them have made of it.  Once it is not full,
nothing of the format is there, whatever turns follow, and none of them calls a hook.  An action that
panics counts as its requests and a crash. -/
theorem silence_of_run (h : Session.open? store formats story passage config = .ok s)
    (turns : List Desk.Turn) :
    let d := turns.foldl Desk.turn ⟨store, s⟩
    d.session.health = Health.afterCrash^[turns.countP Desk.Turn.isCrash] .full ∧
      (d.session.health ≠ .full → ∀ more : List Desk.Turn,
        let e : Called Desk := d.runM more
        let t := e.value.session
        e.value = more.foldl Desk.turn d ∧ e.hooks = [] ∧ t.health ≠ .full ∧
        t.tracker = none ∧ t.toolbar = [] ∧
          t.modeName = "text" ∧ t.referencedPassages = [] ∧
          (t.referencedPassagesM : Called _).hooks = []) ∧
      ∀ (requests : List Request) (payload : Payload),
        (d.session.runGuarded fun t => ((.error payload : Except Payload (Except SessionError Unit)),
          requests.foldl Session.serve t)).2 =
            (requests.foldl Session.serve d.session).serve (.crash payload.summary) := by
  intro d
  obtain ⟨hhealth, hisolated⟩ := isolated_run h turns
  refine ⟨hhealth, fun hne more => ?_, fun requests payload => rfl⟩
  have hvalue := value_runM d more
  have hmore := Desk.isolated_more (hisolated hne) more
  rw [← hvalue] at hmore
  have hpassages : (d.runM more : Called _).value.session.referencedPassages = [] := by
    rw [referencedPassages_def, activeExtensions_eq_none hmore.health]
  exact ⟨hvalue, hooks_runM (hisolated hne) more, hmore.health, hmore.tracker, hmore.toolbar,
    modeName_of_crash hmore.health, hpassages, hooks_referencedPassagesM hmore.health⟩

/-! ### A busy format -/

/-- A format that brings something of everything. -/
def busyFormat : Registry :=
  let toolbar : Buffer → ToolbarContext → Outcome (List ToolbarItem) :=
    fun _ _ => .ok [.button ⟨"type", "Type", "", false, false⟩]
  let command : CommandHook := fun b => (b.typeText "x", .ok ())
  let hooks : VariableHooks := ⟨[], none, some fun names _ => .ok names, fun _ => .ok [.native "it"]⟩
  ⟨[(⟨"Harlowe", "3.3.8"⟩, ⟨⟨"Harlowe", "3.3.8"⟩, .loaded, none,
    some ⟨0, some (.ok ()), some toolbar, [("type", command)],
      some fun text => .ok [text], some hooks⟩⟩)], 1⟩

/-- A store with one empty passage of that format. -/
def busyStore : Store := ⟨[⟨⟨1⟩, "Story", ⟨"Harlowe", "3.3.8"⟩, [⟨0, .fresh ⟨1⟩ "Start" "" []⟩]⟩], 0, 1⟩

/-- A name is looked for, a command runs, and others write to the passage. -/
def busyTurns : List Desk.Turn :=
  [.op (.request (.attach (.ofText ""))), .typed (·.typeText "@"), .op (.localChange 0),
    .op (.request (.exec "type")),
    .op (.request .runTasks), .written (·.updatePassage ⟨1⟩ ⟨1⟩ (.ofText "new")), .op (.syncFromStore 0)]

/-- Then the editor crashes. -/
def crashedTurns : List Desk.Turn := busyTurns ++ [.op (.request (.crash "oops"))]

/-- The turns call all kinds of hooks, and after a crash the same turns call none. -/
theorem silence_of_run_busy :
    ∃ s, Session.open? busyStore busyFormat ⟨1⟩ ⟨1⟩ .default = .ok s ∧
      (Desk.runM ⟨busyStore, s⟩ busyTurns : Called _).hooks =
        [.mode, .toolbar, .suggestVariableName, .command, .toolbar, .parseDefinitions] ∧
      let d := crashedTurns.foldl Desk.turn ⟨busyStore, s⟩
      d.session.health = .extensionsDisabled ∧ (d.runM busyTurns : Called _).hooks = [] ∧
        (d.runM busyTurns : Called _).value.session.toolbar = [] := by
  have hcalls : ((Session.open? busyStore busyFormat ⟨1⟩ ⟨1⟩ .default).toOption.map fun s =>
      (Desk.runM ⟨busyStore, s⟩ busyTurns : Called _).hooks) =
        some [.mode, .toolbar, .suggestVariableName, .command, .toolbar, .parseDefinitions] := by
    decide +kernel
  rcases h : Session.open? busyStore busyFormat ⟨1⟩ ⟨1⟩ .default with e | s
  · simp [h, Except.toOption] at hcalls
  rw [h, Except.toOption, Option.map_some, Option.some.injEq] at hcalls
  obtain ⟨hhealth, hlater, -⟩ := silence_of_run h crashedTurns
  have hcount : crashedTurns.countP Desk.Turn.isCrash = 1 := rfl
  rw [hcount] at hhealth
  obtain ⟨-, hsilent, -, -, htoolbar, -⟩ := hlater (hhealth ▸ by decide) busyTurns
  exact ⟨s, rfl, hcalls, hhealth, hsilent, htoolbar⟩

end Run

end Called

end PassageEditor
