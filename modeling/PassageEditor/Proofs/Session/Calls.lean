import PassageEditor.Proofs.Format.Calls
import PassageEditor.Proofs.Session.Run

/-!
# The calls of a session

The operations of a session, run with a record of the hooks that they call.  Each gives what it gives
without the record, and so does a whole run (`Called.value_runM`).
-/

namespace PassageEditor

/-- The turns of a run one after the other. -/
def Desk.runM {m : Type → Type} [Monad m] [CallsFormat m] (d : Desk) (turns : List Desk.Turn) : m Desk :=
  turns.foldlM turnM d

namespace Called

open Session Completion

variable {α : Type}

/-! ### What the format contributes -/

section Session

variable (s : Session)

@[simp]
theorem value_referencedPassagesM : (s.referencedPassagesM : Called _).value = s.referencedPassages := by
  rw [referencedPassagesM, referencedPassages_def]
  cases s.activeExtensions with
  | none => rfl
  | some x => exact value_parseReferencesM _ _ _

@[simp]
theorem value_rebuildVariablesM : (s.rebuildVariablesM : Called _).value = s.rebuildVariables := by
  rw [rebuildVariablesM, freshTrackerM, rebuildVariables_def]
  cases s.activeExtensions.bind (·.variableHooks) <;> simp

@[simp]
theorem value_registerModeM : (s.registerModeM : Called _).value = s.registerMode := by
  rw [registerModeM, registerMode_def]
  cases s.activeExtensions <;> cases s.buffer <;> simp

@[simp]
theorem value_refreshToolbarM : (s.refreshToolbarM : Called _).value = s.refreshToolbar := by
  rw [refreshToolbarM, refreshToolbar_def]
  cases s.activeExtensions.bind (·.toolbar) <;> cases s.buffer <;> simp

@[simp]
theorem value_refreshFormatM (formats : Registry) :
    (s.refreshFormatM formats : Called _).value = s.refreshFormat formats := by
  rw [refreshFormatM, refreshFormat_def]
  dsimp only
  split
  · rfl
  · simp

/-! ### Completion lists -/

@[simp]
theorem value_openCompletionM (b : Buffer) (kind : CompletionKind) :
    (s.openCompletionM b kind : Called _).value = s.openCompletion b kind := by
  rw [openCompletionM, openCompletion_def, value_bind, value_completeM]
  rcases complete kind b ⟨s.story, s.revision.passage.id, s.toolbar, s.tracker, s.pattern⟩ with e | _ |
    list
  · rfl
  · rfl
  · by_cases hempty : list.items.isEmpty <;> simp [hempty]

@[simp]
theorem value_whileLiveM (op : Called (Result α)) : (s.whileLiveM op).value = s.whileLive op.value := by
  rw [whileLiveM, whileLive_def]
  split <;> rfl

@[simp]
theorem value_withBufferM (op : Buffer → Called (Result α)) :
    (s.withBufferM op).value = s.withBuffer fun b => (op b).value := by
  rw [withBufferM, withBuffer_def]
  cases s.buffer <;> rfl

@[simp]
theorem value_triggerCompletionM : (s.triggerCompletionM : Called _).value = s.triggerCompletion := by
  rw [triggerCompletionM, triggerCompletion_def, value_whileLiveM, value_withBufferM]
  congr 2
  funext b
  cases (detectPrefix? b).bind fun mark => classify mark b.cursor with
  | none => rfl
  | some kind => exact value_openCompletionM s b kind

@[simp]
theorem value_refreshCompletionM : (s.refreshCompletionM : Called _).value = s.refreshCompletion := by
  rw [refreshCompletionM, refreshCompletion_def, value_whileLiveM]
  congr 1
  cases s.completion with
  | none => rfl
  | some list =>
    dsimp only
    rw [value_withBufferM]
    congr 1
    funext b
    split
    · rfl
    · exact value_openCompletionM s b list.kind

@[simp]
theorem value_followEditM : (s.followEditM : Called _).value = s.followEdit := by
  rw [followEditM, followEdit_def]
  split
  · exact value_refreshCompletionM s
  · exact value_triggerCompletionM s

@[simp]
theorem value_followSelectionM : (s.followSelectionM : Called _).value = s.followSelection := by
  rw [followSelectionM, followSelection_def]
  split
  · exact value_refreshCompletionM s
  · rw [value_withBufferM]
    congr 1
    funext b
    split
    · exact value_openCompletionM s b .link
    · rfl

/-! ### Operations on the buffer -/

@[simp]
theorem value_attachM (b : Buffer) : (s.attachM b : Called _).value = s.attach b := by
  rw [attachM, attach_def, value_whileLiveM]
  cases s.buffer <;> simp

@[simp]
theorem value_runCommandM (b : Buffer) (name : String) :
    (s.runCommandM b name : Called _).value = s.runCommand b name := by
  rw [runCommandM, runCommand_def]
  cases s.activeExtensions.bind (·.commands.lookup name) with
  | none => cases b.execCommand name <;> rfl
  | some command =>
    simp only [value_bind, value_callM]
    cases s.format.call .command (command b).2 <;> rfl

@[simp]
theorem value_execCommandM (name : String) :
    (s.execCommandM name : Called _).value = s.execCommand name := by
  rw [execCommandM, execCommand_def, value_whileLiveM, value_withBufferM]
  congr 2
  funext b
  rw [value_bind, value_runCommandM]
  rcases s.runCommand b name with ⟨_ | _, c⟩ <;> rfl

@[simp]
theorem value_pickCompletionM (index : Nat) :
    (s.pickCompletionM index : Called _).value = s.pickCompletion index := by
  rw [pickCompletionM, pickCompletion_def, value_whileLiveM]
  congr 1
  cases s.completion with
  | none => rfl
  | some list =>
    dsimp only
    rw [value_withBufferM]
    congr 1
    funext b
    rcases applyPick b list index with e | ⟨_ | name, c⟩
    · rfl
    · rfl
    · dsimp only
      rw [value_bind, value_execCommandM]
      rcases execCommand _ name with ⟨_ | _, t⟩ <;> rfl

@[simp]
theorem value_changeSelectionM (ranges : List Selection) :
    (s.changeSelectionM ranges : Called _).value = s.changeSelection ranges := by
  rw [changeSelectionM, changeSelection_def, value_whileLiveM, value_withBufferM]
  simp

/-! ### Work that was put off -/

@[simp]
theorem value_runTaskM (task : Task) : (s.runTaskM task : Called _).value = s.runTask task := by
  rw [runTaskM, runTask_def]
  cases s.buffer with
  | none => rfl
  | some b =>
    dsimp only
    split
    · rfl
    · cases task with
      | refreshToolbar => exact value_refreshToolbarM s
      | restoreSelections ranges => rfl
      | activatePlaceholder widget => rfl
      | renderPlaceholders focusFirst =>
        dsimp only
        cases (s.redrawPlaceholders b).buffer.bind (s.redrawPlaceholders b).marks.firstPlaceholder? with
        | none => rfl
        | some found => cases focusFirst <;> rfl

@[simp]
theorem value_drainTasksM (fuel : Nat) (s : Session) :
    (drainTasksM fuel s : Called _).value = drainTasks fuel s := by
  induction fuel generalizing s with
  | zero => rfl
  | succ fuel ih =>
    rw [drainTasksM, drainTasks_succ]
    cases s.tasks with
    | nil => rfl
    | cons task rest => simp [ih]

@[simp]
theorem value_runTasksM : (s.runTasksM : Called _).value = s.runTasks := value_drainTasksM _ s

/-! ### The story and the store -/

@[simp]
theorem value_adoptM (story : Story) (r : Revision) :
    (s.adoptM story r : Called _).value = s.adopt story r := by
  rw [adoptM, syncedTrackerM, adopt_def]
  cases s.tracker <;> simp

@[simp]
theorem value_serveM (request : Request) : (s.serveM request : Called _).value = s.serve request := by
  cases request <;> simp only [serveM, value_map, value_pure, value_attachM,
    value_execCommandM, value_pickCompletionM,
    value_triggerCompletionM, value_refreshCompletionM, value_changeSelectionM, value_runTasksM,
    value_refreshFormatM] <;> rfl

end Session

variable (d : Desk)

@[simp]
theorem value_localChangeM (now : Nat) : (d.localChangeM now : Called _).value = d.localChange now := by
  rw [Desk.localChangeM, Desk.localChange_def]
  split
  · rfl
  · simp [Desk.onSessionM]

@[simp]
theorem value_storyChangeM (story : Story) (now : Nat) :
    (d.storyChangeM story now : Called _).value = d.storyChange story now := by
  rw [Desk.storyChangeM, Desk.storyChange_def]
  dsimp only
  generalize (if (d.tick now).1 = true then ((d.tick now).2.store.story? story.id).getD story
    else story) = brought
  cases brought.find? (d.tick now).2.session.revision.passage.id with
  | none => rfl
  | some r =>
    dsimp only
    split
    · rfl
    · simp

@[simp]
theorem value_syncFromStoreM (now : Nat) :
    (d.syncFromStoreM now : Called _).value = d.syncFromStore now := by
  rw [Desk.syncFromStoreM, Desk.syncFromStore_def]
  dsimp only
  cases (d.tick now).2.store.story? (d.tick now).2.session.story.id with
  | none => rfl
  | some story => exact value_storyChangeM _ _ _

@[simp]
theorem value_turnM (t : Desk.Turn) : (d.turnM t : Called _).value = d.turn t := by
  rcases t with ⟨request | now | ⟨story, now⟩ | now | now⟩ | change | change
  · exact congrArg (fun s => ({ d with session := s } : Desk)) (value_serveM d.session request)
  · exact congrArg (·.2) (value_localChangeM d now)
  · exact congrArg (·.2) (value_storyChangeM d story now)
  · exact congrArg (·.2) (value_syncFromStoreM d now)
  · rfl
  · rfl
  · rfl

theorem value_runM (turns : List Desk.Turn) :
    (d.runM turns : Called _).value = turns.foldl Desk.turn d := by
  simp [Desk.runM]

end Called

end PassageEditor
