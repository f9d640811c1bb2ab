import PassageEditor.Proofs.Format.Equations
import PassageEditor.Session.Desk

/-!
# Operations of a session as functions

In `Id` a call of the format is its answer, so that each operation of a session is the function that its
equation gives.
-/

namespace PassageEditor

namespace Session

variable {α : Type} (s : Session)

theorem whileLive_def (op : Result α) :
    s.whileLive op = if s.health = .crashed then (.error .crashed, s) else op := rfl

theorem withBuffer_def (op : Buffer → Result α) :
    s.withBuffer op =
      match s.buffer with
      | none => (.error .noEditorAttached, s)
      | some b => op b := rfl

/-! ### What the format contributes -/

theorem referencedPassages_def :
    s.referencedPassages =
      match s.activeExtensions with
      | none => []
      | some x => x.parseReferences s.format s.localText := rfl

theorem rebuildVariables_def :
    s.rebuildVariables = { s with
      tracker := (s.activeExtensions.bind (·.variableHooks)).map fun hooks =>
        ((Tracker.empty hooks s.format).sync s.story).2 } := by
  have hfresh : Id.run s.freshTrackerM = (s.activeExtensions.bind (·.variableHooks)).map fun hooks =>
      ((Tracker.empty hooks s.format).sync s.story).2 := by
    unfold freshTrackerM
    cases s.activeExtensions.bind (·.variableHooks) <;> rfl
  rw [← hfresh]
  rfl

theorem registerMode_def :
    s.registerMode =
      match s.activeExtensions, s.buffer with
      | some x, some b =>
        let (mode, b) := x.registerMode s.format b
        { s with mode := mode, buffer := some b }
      | _, _ => { s with mode := none } := rfl

theorem refreshToolbar_def :
    s.refreshToolbar =
      match s.activeExtensions.bind (·.toolbar), s.buffer with
      | some build, some b =>
        let context : ToolbarContext := ⟨s.config.theme.name, s.config.foreground, s.config.locale⟩
        { s with toolbar := s.format.callOr .toolbar [] (build b context) }
      | _, _ => { s with toolbar := [] } := rfl

theorem refreshFormat_def (formats : Registry) :
    s.refreshFormat formats =
      let next := formats.extensionsFor s.story.format s.config
      if s.extensions.map (·.stamp) = next.map (·.stamp) then (false, s)
      else (true, ({ s with extensions := next }.rebuildVariables.registerMode).refreshToolbar) := rfl

/-! ### Completion -/

theorem openCompletion_def (b : Buffer) (kind : CompletionKind) :
    s.openCompletion b kind =
      match Completion.complete kind b
          ⟨s.story, s.revision.passage.id, s.toolbar, s.tracker, s.pattern⟩ with
      | .error e => (.error (.completion e), s)
      | .ok none => (.ok none, s.closeCompletion)
      | .ok (some list) =>
        if list.items.isEmpty then (.ok none, s.closeCompletion)
        else
          (.ok (some list), { s with completion := some list, buffer := some (b.showHints list.hints) }) :=
  rfl

theorem triggerCompletion_def :
    s.triggerCompletion = s.whileLive (s.withBuffer fun b =>
      match (Completion.detectPrefix? b).bind fun mark => Completion.classify mark b.cursor with
      | none => (.ok none, s)
      | some kind => s.openCompletion b kind) := rfl

theorem refreshCompletion_def :
    s.refreshCompletion = s.whileLive
      (match s.completion with
      | none => (.ok none, s)
      | some list =>
        s.withBuffer fun b =>
          if b.cursor.line ≠ list.range.start.line ∨
            b.cursor < list.range.start then (.ok none, s.closeCompletion)
          else s.openCompletion b list.kind) := rfl

theorem followEdit_def :
    s.followEdit = if s.completion.isSome then s.refreshCompletion else s.triggerCompletion := rfl

theorem followSelection_def :
    s.followSelection =
      if s.completion.isSome then s.refreshCompletion
      else s.withBuffer fun b => if isInLink b then s.openCompletion b .link else (.ok none, s) := rfl

/-! ### Operations on the buffer -/

theorem attach_def (b : Buffer) :
    s.attach b = s.whileLive (
      let s := match s.buffer with
        | none => s
        | some old => (s.undraw old).2
      (.ok (), ((s.redraw (b.setText s.localText) false).registerMode).refreshToolbar)) := rfl

theorem runCommand_def (b : Buffer) (name : String) :
    s.runCommand b name =
      match s.activeExtensions.bind (·.commands.lookup name) with
      | some command =>
        let (b, outcome) := command b
        match s.format.call .command outcome with
        | .ok () => (.ok (), b)
        | .error fault => (.error (.extension fault), b)
      | none =>
        match b.execCommand name with
        | .ok b => (.ok (), b)
        | .error e => (.error (.surface e), b) := rfl

theorem execCommand_def (name : String) :
    s.execCommand name = s.whileLive (s.withBuffer fun b =>
      match s.runCommand b name with
      | (.error e, b) => (.error e, { s with buffer := some b })
      | (.ok (), b) =>
        let s := s.bufferChanged b
        (.ok (), { s with
          tasks :=
            s.tasks ++ [.restoreSelections b.selections, .renderPlaceholders true, .refreshToolbar] })) :=
  rfl

theorem pickCompletion_def (index : Nat) :
    s.pickCompletion index = s.whileLive
      (match s.completion with
      | none => (.error .noActiveCompletion, s)
      | some list =>
        s.withBuffer fun b =>
          match Completion.applyPick b list index with
          | .error e => (.error (.completion e), s)
          | .ok (command, b) =>
            let s := { s with completion := none }.bufferChanged b.closeHints
            match command with
            | none => (.ok none, s)
            | some name =>
              match s.execCommand name with
              | (.error e, s) => (.error e, s)
              | (.ok (), s) => (.ok (some name), s)) := rfl

theorem changeSelection_def (ranges : List Selection) :
    s.changeSelection ranges = s.whileLive (s.withBuffer fun _ =>
      let (r, s) := (s.select ranges).followSelection
      (r.map fun _ => (), s)) := rfl

/-! ### Work that was put off -/

theorem runTask_def (task : Task) :
    s.runTask task =
      match s.buffer with
      | none => s
      | some b =>
        if s.health = .crashed then s
        else
          match task with
          | .restoreSelections ranges => s.select ranges
          | .renderPlaceholders focusFirst =>
            let s := s.redrawPlaceholders b
            match s.buffer.bind s.marks.firstPlaceholder? with
            | some (_, widget) =>
              if focusFirst then { s with tasks := s.tasks ++ [.activatePlaceholder widget] } else s
            | none => s
          | .refreshToolbar => s.refreshToolbar
          | .activatePlaceholder widget => s.activatePlaceholder widget := rfl

@[simp]
theorem drainTasks_zero : drainTasks 0 s = (0, s) := rfl

theorem drainTasks_succ (fuel : Nat) :
    drainTasks (fuel + 1) s =
      match s.tasks with
      | [] => (0, s)
      | task :: rest =>
        let (n, s) := drainTasks fuel ({ s with tasks := rest }.runTask task)
        (n + 1, s) := rfl

theorem runTasks_def : s.runTasks = drainTasks (2 * s.tasks.length) s := rfl

/-! ### The story and the store -/

theorem adopt_def (story : Story) (r : Revision) :
    s.adopt story r =
      let (_, draft) := s.draft.retarget ⟨s.nextSerial, story.id, r.passage.id⟩ s.now
      let (changed, draft) := draft.adopt r.passage.text
      freshenMarks { s with
        draft := draft
        nextSerial := s.nextSerial + 1
        story := story
        revision := r
        buffer := if changed then s.buffer.map (·.setText r.passage.text) else s.buffer
        tracker := s.tracker.map fun t => (t.sync story).2 } := by
  have hsynced : Id.run (s.syncedTrackerM story) = s.tracker.map fun t => (t.sync story).2 := by
    unfold syncedTrackerM
    cases s.tracker <;> rfl
  rw [← hsynced]
  rfl

end Session

namespace Desk

variable (d : Desk) (now : Nat)

theorem localChange_def :
    d.localChange now =
      if d.session.health = .crashed then (.error .crashed, d)
      else
        let (_, d) := d.tick now
        let (r, s) := d.session.withBuffer fun b =>
          let (r, s) := (d.session.bufferChanged b).followEdit
          (r.map fun _ => (), s)
        (r, { d with session := s }) := rfl

theorem storyChange_def (story : Story) :
    d.storyChange story now =
      let (fired, d) := d.tick now
      let story := if fired then (d.store.story? story.id).getD story else story
      match story.find? d.session.revision.passage.id with
      | none => (.error (.passageNotFound d.session.revision.passage.id), d)
      | some r =>
        if r.stamp = d.session.revision.stamp ∧ story.samePassages d.session.story then (.ok (), d)
        else (.ok (), { d with session := d.session.adopt story r }) := rfl

theorem syncFromStore_def :
    d.syncFromStore now =
      let (_, d) := d.tick now
      match d.store.story? d.session.story.id with
      | none => (.error (.storyNotFound d.session.story.id), d)
      | some story => d.storyChange story now := rfl

end Desk

end PassageEditor
