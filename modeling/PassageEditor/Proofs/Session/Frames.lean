import PassageEditor.Proofs.Buffer.Splice
import PassageEditor.Proofs.Markup.Text
import PassageEditor.Proofs.Session.Equations

/-!
# What operations leave alone

Of a session, its edits and commits depend on the view alone: the story and the passage, the draft, the
clock, and the text that the attached buffer shows.  Marks, lists, selections, events, the toolbar and
whatever the format contributes may change without a trace in the view; each operation that changes
nothing else has a lemma here that says so.  The lemmas for an operation that is made up of others hold of
any part of a session, and of any property (`keeps_...`, `invariant_...`).
-/

namespace PassageEditor

namespace Buffer

/-- Buffers with the same lines have the same text. -/
private theorem text_eq_of_lines_eq {b c : Buffer} (h : b.lines = c.lines) : b.text = c.text := by
  rw [text, text, chars, chars, h]

/-- Selecting is all that a selection does. -/
theorem exists_setSelections (b : Buffer) (ranges : List Selection) :
    ∃ selections, ∃ h : selections ≠ [], b.setSelections ranges =
      { b with selections := selections, selected := h } := by
  unfold setSelections
  split
  · exact ⟨b.selections, b.selected, rfl⟩
  · rename_i h
    exact ⟨_, mt List.map_eq_nil_iff.1 h, rfl⟩

theorem selections_setSelections {b : Buffer} {ranges : List Selection} (h : ranges ≠ []) :
    (b.setSelections ranges).selections = ranges.map fun s => ⟨b.clamp s.anchor, b.clamp s.head⟩ := by
  rw [setSelections, dif_neg h]

/-- A built-in command selects, and is remembered. -/
theorem exists_execCommand {b c : Buffer} {name : String} (h : b.execCommand name = .ok c) :
    ∃ selection executed, c = { b.selectOnly selection with executed := executed } := by
  unfold execCommand at h
  split at h
  · simp at h
  · exact ⟨_, _, (Except.ok.inj h).symm⟩

@[simp]
theorem text_setSelections (b : Buffer) (ranges : List Selection) :
    (b.setSelections ranges).text = b.text := by
  obtain ⟨selections, _, h⟩ := b.exists_setSelections ranges
  rw [h]
  rfl

end Buffer

/-- Of the buffer, a syntax mode is added to the modes alone. -/
theorem Extensions.exists_registerMode (x : Extensions) (format : FormatRef) (b : Buffer) :
    ∃ modes, (x.registerMode format b).2 = { b with modes := modes } := by
  rw [registerMode_def]
  split
  · exact ⟨b.modes, rfl⟩
  · split
    · exact ⟨_, rfl⟩
    · exact ⟨b.modes, rfl⟩

private theorem Extensions.text_registerMode (x : Extensions) (format : FormatRef) (b : Buffer) :
    (x.registerMode format b).2.text = b.text := by
  obtain ⟨modes, h⟩ := x.exists_registerMode format b
  rw [h]
  rfl

namespace Session

/-! ### What is made up of smaller operations

Whatever part of a session is looked at, an operation leaves it alone if the smaller ones do that it is
made up of. -/

section Keeps

variable {α β : Type} {s : Session}

/-- A refusal changes nothing. -/
theorem invariant_whileLive {op : Result α} (P : Session → Prop) (h : P s) (hop : P op.2) :
    P (s.whileLive op).2 := by
  rw [whileLive_def]
  split
  · exact h
  · exact hop

theorem invariant_withBuffer {op : Buffer → Result α} (P : Session → Prop) (h : P s)
    (hop : ∀ b, s.buffer = some b → P (op b).2) : P (s.withBuffer op).2 := by
  rw [withBuffer_def]
  split
  · exact h
  · exact hop _ ‹_›

theorem keeps_whileLive {op : Result α} (f : Session → β) (h : f op.2 = f s) :
    f (s.whileLive op).2 = f s :=
  invariant_whileLive (f · = f s) rfl h

theorem keeps_withBuffer {op : Buffer → Result α} (f : Session → β)
    (h : ∀ b, s.buffer = some b → f (op b).2 = f s) : f (s.withBuffer op).2 = f s :=
  invariant_withBuffer (f · = f s) rfl h

/-- Listeners ask for selections and for passages to be opened, and for nothing else. -/
theorem keeps_dispatchEvent (f : Session → β) (hhub : ∀ (s : Session) hub, f { s with hub := hub } = f s)
    (hopened : ∀ (s : Session) opened, f { s with opened := opened } = f s)
    (hselect : ∀ (s : Session) ranges, f (s.select ranges) = f s) (s : Session) (event : Event) :
    f (s.dispatchEvent event).2 = f s := by
  have heffect : ∀ (t : Session) e, f (t.applyEffect e) = f t := by
    intro t e
    cases e with
    | setSelection range => exact hselect t _
    | openPassage id => exact hopened t _
    | preventDefault => rfl
  have hfold : ∀ (effects : List Effect) (t : Session), f (effects.foldl applyEffect t) = f t := by
    intro effects
    induction effects with
    | nil => exact fun _ => rfl
    | cons e effects ih => exact fun t => (ih _).trans (heffect t e)
  exact (hfold _ _).trans (hhub s _)

/-- A key selects a placeholder by a click on its widget. -/
private theorem invariant_cycle (P : Session → Prop) (h : P s)
    (hevent : ∀ event, P (s.dispatchEvent event).2) (next : List Range → Position → Option Range) :
    P (s.cycle next).2 := by
  unfold cycle
  refine invariant_whileLive P h (invariant_withBuffer P h fun b _ => ?_)
  dsimp only
  split
  · exact h
  · split
    · exact hevent _
    · exact h

theorem invariant_handleKey (P : Session → Prop) (h : P s) (hevent : ∀ event, P (s.dispatchEvent event).2)
    (key : String) : P (s.handleKey key).2 := by
  unfold handleKey
  split
  · exact invariant_cycle P h hevent _
  · exact invariant_cycle P h hevent _
  · exact h

theorem keeps_handleKey (f : Session → β) (hevent : ∀ event, f (s.dispatchEvent event).2 = f s)
    (key : String) : f (s.handleKey key).2 = f s :=
  invariant_handleKey (f · = f s) rfl hevent key

/-- What is kept by each kind of work that is put off, and does not depend on what else is waiting. -/
theorem invariant_runTask (P : Session → Prop) (h : P s)
    (htasks : ∀ (s : Session) tasks, P s → P { s with tasks := tasks })
    (hevent : ∀ event, P (s.dispatchEvent event).2) (hselect : ∀ ranges, P (s.select ranges))
    (hdraw : ∀ b, s.health ≠ .crashed → s.buffer = some b → P (s.redrawPlaceholders b))
    (htoolbar : P s.refreshToolbar) (task : Task) : P (s.runTask task) := by
  rw [runTask_def]
  split
  · exact h
  rename_i b hb
  split
  · exact h
  rename_i hlive
  cases task with
  | restoreSelections ranges => exact hselect ranges
  | renderPlaceholders focusFirst =>
    dsimp only
    split
    · split
      · exact htasks _ _ (hdraw b hlive hb)
      · exact hdraw b hlive hb
    · exact hdraw b hlive hb
  | refreshToolbar => exact htoolbar
  | activatePlaceholder widget => exact hevent _

/-- What each piece of work that was put off keeps, all of it keeps. -/
theorem invariant_runTasks (P : Session → Prop) (h : P s)
    (htasks : ∀ (s : Session) tasks, P s → P { s with tasks := tasks })
    (htask : ∀ (s : Session) task, P s → P (s.runTask task)) : P s.runTasks.2 := by
  have hdrain : ∀ fuel (t : Session), P t → P (drainTasks fuel t).2 := by
    intro fuel
    induction fuel with
    | zero => exact fun _ => id
    | succ fuel ih =>
      intro t ht
      rw [drainTasks_succ]
      split
      · exact ht
      · exact ih _ (htask _ _ (htasks t _ ht))
  exact hdrain _ s h

end Keeps

/-! ### The view -/

structure View where
  story : Story
  revision : Revision
  config : Config
  draft : Draft WriteTarget
  nextSerial : Nat
  now : Nat
  /-- The text of the attached buffer. -/
  shown : Option String

def view (s : Session) : View :=
  ⟨s.story, s.revision, s.config, s.draft, s.nextSerial, s.now, s.buffer.map (·.text)⟩

theorem shown_of_buffer {s : Session} {b : Buffer} (h : s.buffer = some b) :
    s.view.shown = some b.text := by
  simp [view, h]

private theorem view_shown_self {s : Session} {b : Buffer} (h : s.buffer = some b) :
    { s.view with shown := some b.text } = s.view := by
  rw [← shown_of_buffer h]

/-! ### Marks -/

@[simp]
theorem view_redraw (s : Session) (b : Buffer) (force : Bool) :
    (s.redraw b force).view = { s.view with shown := some b.text } := by
  have : (s.marks.reconcile ⟨b, s.hub⟩ s.story force).2.2.buffer.text = b.text :=
    Buffer.text_eq_of_lines_eq (Markup.Reconciler.lines_reconcile _ _ _ _)
  simp [redraw, view, this]

theorem view_redrawPlaceholders {s : Session} {b : Buffer} (h : s.buffer = some b) :
    (s.redrawPlaceholders b).view = s.view := by
  have : (s.marks.renderPlaceholders ⟨b, s.hub⟩ true).2.2.buffer.text = b.text :=
    Buffer.text_eq_of_lines_eq (Markup.Reconciler.lines_renderPlaceholders _ _ _)
  simp [redrawPlaceholders, view, this, h]

@[simp]
theorem view_undraw (s : Session) (b : Buffer) : (s.undraw b).2.view = s.view := rfl

@[simp]
theorem text_undraw (s : Session) (b : Buffer) : (s.undraw b).1.text = b.text :=
  Buffer.text_eq_of_lines_eq (Markup.Reconciler.lines_teardown _ _)

@[simp]
theorem view_bufferChanged (s : Session) (b : Buffer) :
    (s.bufferChanged b).view =
      { s.view with draft := s.draft.edit b.text s.now, shown := some b.text } := by
  unfold bufferChanged
  rw [view_redraw]
  rfl

/-! ### What the format contributes -/

@[simp]
theorem view_rebuildVariables (s : Session) : s.rebuildVariables.view = s.view := rfl

@[simp]
theorem view_registerMode (s : Session) : s.registerMode.view = s.view := by
  rw [registerMode_def]
  split
  · rename_i x b hx hb
    simp [view, hb, Extensions.text_registerMode]
  · rfl

theorem exists_refreshToolbar (s : Session) :
    ∃ toolbar, s.refreshToolbar = { s with toolbar := toolbar } := by
  rw [refreshToolbar_def]
  split
  · exact ⟨_, rfl⟩
  · exact ⟨_, rfl⟩

theorem keeps_refreshToolbar {β : Type} (f : Session → β)
    (hf : ∀ (s : Session) toolbar, f { s with toolbar := toolbar } = f s) (s : Session) :
    f s.refreshToolbar = f s := by
  obtain ⟨toolbar, h⟩ := s.exists_refreshToolbar
  rw [h, hf]

@[simp]
theorem view_refreshToolbar (s : Session) : s.refreshToolbar.view = s.view :=
  keeps_refreshToolbar view (fun _ _ => rfl) s

@[simp]
theorem view_refreshFormat (s : Session) (formats : Registry) :
    (s.refreshFormat formats).2.view = s.view := by
  rw [refreshFormat_def]
  dsimp only
  split
  · rfl
  · simp only [view_refreshToolbar, view_registerMode, view_rebuildVariables]
    rfl

/-! ### Completion lists -/

/-- The session with another list, and other hints on its buffer. -/
def withList (s : Session) (completion : Option CompletionList) (hints : Option Hints) : Session :=
  { s with completion := completion, buffer := s.buffer.map fun b => { b with hints := hints } }

section Lists

variable {β : Type} {f : Session → β}
  (hf : ∀ (s : Session) completion hints, f (s.withList completion hints) = f s) (s : Session)

include hf

theorem keeps_closeCompletion : f s.closeCompletion = f s := by
  unfold closeCompletion
  split
  · exact hf s none none
  · rfl

theorem keeps_openCompletion {b : Buffer} (hb : s.buffer = some b) (kind : CompletionKind) :
    f (s.openCompletion b kind).2 = f s := by
  rw [openCompletion_def]
  split
  · rfl
  · exact keeps_closeCompletion hf s
  · rename_i list _
    split
    · exact keeps_closeCompletion hf s
    · have hopened := hf s (some list) (some list.hints)
      rw [withList, hb] at hopened
      exact hopened

theorem keeps_triggerCompletion : f s.triggerCompletion.2 = f s := by
  rw [triggerCompletion_def]
  refine keeps_whileLive f (keeps_withBuffer f fun b hb => ?_)
  split
  · rfl
  · exact keeps_openCompletion hf s hb _

theorem keeps_refreshCompletion : f s.refreshCompletion.2 = f s := by
  rw [refreshCompletion_def]
  refine keeps_whileLive f ?_
  split
  · rfl
  · refine keeps_withBuffer f fun b hb => ?_
    split
    · exact keeps_closeCompletion hf s
    · exact keeps_openCompletion hf s hb _

end Lists

private theorem view_withList (s : Session) (completion : Option CompletionList) (hints : Option Hints) :
    (s.withList completion hints).view = s.view := by
  unfold withList view
  rw [Option.map_map]
  rfl

@[simp]
theorem view_closeCompletion (s : Session) : s.closeCompletion.view = s.view :=
  keeps_closeCompletion view_withList s

private theorem view_openCompletion {s : Session} {b : Buffer} (h : s.buffer = some b)
    (kind : CompletionKind) :
    (s.openCompletion b kind).2.view = s.view := keeps_openCompletion view_withList s h kind

@[simp]
theorem view_triggerCompletion (s : Session) : s.triggerCompletion.2.view = s.view :=
  keeps_triggerCompletion view_withList s

@[simp]
theorem view_refreshCompletion (s : Session) : s.refreshCompletion.2.view = s.view :=
  keeps_refreshCompletion view_withList s

theorem view_followEdit (s : Session) : s.followEdit.2.view = s.view := by
  rw [followEdit_def]
  split
  · exact view_refreshCompletion s
  · exact view_triggerCompletion s

theorem view_followSelection (s : Session) : s.followSelection.2.view = s.view := by
  rw [followSelection_def]
  split
  · exact view_refreshCompletion s
  · refine keeps_withBuffer view fun b hb => ?_
    split
    · exact view_openCompletion hb _
    · rfl

/-! ### Selections and events -/

@[simp]
theorem view_select (s : Session) (ranges : List Selection) : (s.select ranges).view = s.view := by
  cases h : s.buffer <;> simp [select, view, h]

@[simp]
theorem view_dispatchEvent (s : Session) (event : Event) : (s.dispatchEvent event).2.view = s.view :=
  keeps_dispatchEvent view (fun _ _ => rfl) (fun _ _ => rfl) view_select s event

@[simp]
theorem view_changeSelection (s : Session) (ranges : List Selection) :
    (s.changeSelection ranges).2.view = s.view := by
  rw [changeSelection_def]
  exact keeps_whileLive view (keeps_withBuffer view fun _ _ =>
    (view_followSelection _).trans (view_select s ranges))

@[simp]
theorem view_handleKey (s : Session) (key : String) : (s.handleKey key).2.view = s.view :=
  keeps_handleKey view (view_dispatchEvent s) key

/-! ### Work that was put off -/

@[simp]
theorem view_runTask (s : Session) (task : Task) : (s.runTask task).view = s.view :=
  invariant_runTask (·.view = s.view) rfl (fun _ _ => id) (view_dispatchEvent s) (view_select s)
    (fun _ _ => view_redrawPlaceholders) (view_refreshToolbar s) task

@[simp]
theorem view_runTasks (s : Session) : s.runTasks.2.view = s.view :=
  invariant_runTasks (·.view = s.view) rfl (fun _ _ => id) fun t task => (view_runTask t task).trans

/-! ### Crashes -/

private theorem view_withoutExtensions (s : Session) : s.withoutExtensions.view = s.view := by
  have hclosed := view_closeCompletion s
  unfold withoutExtensions
  generalize s.closeCompletion = t at hclosed ⊢
  dsimp only
  split
  · exact hclosed
  · rename_i b hb
    rw [view_redraw, view_undraw, text_undraw]
    exact (view_shown_self hb).trans hclosed

private theorem view_shutDown (s : Session) (message : String) : (s.shutDown message).view = s.view := by
  have hclosed := view_closeCompletion s
  unfold shutDown
  generalize s.closeCompletion = t at hclosed ⊢
  dsimp only
  split
  · exact hclosed
  · rename_i b hb
    have htext : some (t.undraw b).1.text = some b.text := congrArg some (text_undraw t b)
    exact ((congrArg (fun x => { t.view with shown := x }) htext).trans (view_shown_self hb)).trans
      hclosed

@[simp]
theorem view_reportCrash (s : Session) (message : String) : (s.reportCrash message).2.view = s.view := by
  unfold reportCrash
  dsimp only
  cases s.health.afterCrash with
  | full => rfl
  | extensionsDisabled => exact view_withoutExtensions _
  | crashed => exact view_shutDown _ message

/-! ### Attaching and detaching -/

theorem view_attach (s : Session) (b : Buffer) :
    (s.attach b).2.view = if s.health = .crashed then s.view
      else { s.view with shown := some s.localText } := by
  rw [attach_def, whileLive_def]
  split
  · rfl
  · dsimp only
    rw [view_refreshToolbar, view_registerMode, view_redraw, Buffer.text_setText]
    cases s.buffer <;> rfl

theorem view_detach (s : Session) :
    s.detach.2.view = if s.buffer.isSome then { s.view with draft := s.draft.drop.2, shown := none }
      else s.view := by
  unfold detach
  cases h : s.buffer <;> rfl

/-! ### Commands -/

/-- What a command does where it is run at all: how it ends, and the buffer that it leaves. -/
def ran? (s : Session) (name : String) : Option (Except SessionError Unit × Buffer) :=
  if s.health = .crashed then none else s.buffer.map fun b => s.runCommand b name

theorem ran?_eq_some_iff {s : Session} {name : String} {ran : Except SessionError Unit × Buffer} :
    s.ran? name = some ran ↔
      s.health ≠ .crashed ∧ ∃ b, s.buffer = some b ∧ s.runCommand b name = ran := by
  unfold ran?
  split
  · rename_i hcrashed
    simp [hcrashed]
  · rename_i hlive
    simp [hlive, Option.map_eq_some_iff]

/-- A command that succeeds is an edit; one that fails leaves its changes on the buffer alone. -/
theorem view_execCommand (s : Session) (name : String) :
    (s.execCommand name).2.view =
      match s.ran? name with
      | none => s.view
      | some (.error _, b) => { s.view with shown := some b.text }
      | some (.ok (), b) => { s.view with draft := s.draft.edit b.text s.now, shown := some b.text } := by
  rw [execCommand_def, whileLive_def, withBuffer_def]
  unfold ran?
  by_cases hl : s.health = .crashed
  · simp [hl]
  simp only [if_neg hl]
  cases s.buffer with
  | none => rfl
  | some b =>
    simp only [Option.map_some]
    rcases s.runCommand b name with ⟨_ | _, c⟩
    · rfl
    · exact view_bufferChanged s c

/-- What a pick does where there is an entry to pick: the command that it asks for, and the buffer that it
leaves. -/
def picked? (s : Session) (index : Nat) : Option (Option String × Buffer) :=
  if s.health = .crashed then none
  else s.completion.bind fun list => s.buffer.bind fun b => (Completion.applyPick b list index).toOption

theorem picked?_eq_some_iff {s : Session} {index : Nat} {pick : Option String × Buffer} :
    s.picked? index = some pick ↔ s.health ≠ .crashed ∧
      ∃ list b, s.completion = some list ∧ s.buffer = some b ∧
        Completion.applyPick b list index = .ok pick := by
  have hok : ∀ r : Except CompletionError (Option String × Buffer), r.toOption = some pick ↔
      r = .ok pick := by
    intro r
    cases r <;> simp [Except.toOption]
  unfold picked?
  split
  · rename_i hcrashed
    simp [hcrashed]
  · rename_i hlive
    simp only [Option.bind_eq_some_iff, hok, hlive, ne_eq, not_false_eq_true, true_and, exists_and_left]

/-- The session when the text of an entry is in the buffer. -/
def afterPick (s : Session) (b : Buffer) :
    Session := { s with completion := none }.bufferChanged b.closeHints

theorem view_afterPick (s : Session) (b : Buffer) :
    (s.afterPick b).view = { s.view with draft := s.draft.edit b.text s.now, shown := some b.text } :=
  view_bufferChanged { s with completion := none } b.closeHints

/-- Where there is nothing to pick, the pick is refused. -/
theorem pickCompletion_of_not_picked {s : Session} {index : Nat} (h : s.picked? index = none) :
    ∃ e, s.pickCompletion index = (.error e, s) ∧
      (e = .crashed ∨ e = .noActiveCompletion ∨ e = .noEditorAttached ∨
        ∃ count, e = .completion (.noSuchItem index count)) := by
  unfold picked? at h
  simp only [pickCompletion_def, whileLive_def, withBuffer_def]
  by_cases hl : s.health = .crashed
  · exact ⟨.crashed, by rw [if_pos hl], .inl rfl⟩
  rw [if_neg hl] at h ⊢
  cases hlist : s.completion with
  | none => exact ⟨.noActiveCompletion, rfl, .inr (.inl rfl)⟩
  | some list =>
    cases hb : s.buffer with
    | none => exact ⟨.noEditorAttached, rfl, .inr (.inr (.inl rfl))⟩
    | some b =>
      rw [hlist, hb, Option.bind_some, Option.bind_some] at h
      have happly : Completion.applyPick b list index = .error (.noSuchItem index list.items.length) := by
        unfold Completion.applyPick at h ⊢
        cases hitem : list.items[index]? with
        | none => rfl
        | some item => simp [hitem, Except.toOption] at h
      exact ⟨_, by dsimp only; rw [happly], .inr (.inr (.inr ⟨_, rfl⟩))⟩

theorem pickCompletion_of_text {s : Session} {index : Nat} {b : Buffer}
    (h : s.picked? index = some (none, b)) :
    s.pickCompletion index = (.ok none, s.afterPick b) := by
  obtain ⟨hlive, list, old, hlist, hold, happly⟩ := picked?_eq_some_iff.1 h
  simp only [pickCompletion_def, whileLive_def, withBuffer_def]
  rw [if_neg hlive, hlist, hold]
  dsimp only
  rw [happly]
  rfl

/-- The command runs when the rest of the pick is done. -/
theorem pickCompletion_of_command {s : Session} {index : Nat} {name : String} {b : Buffer}
    (h : s.picked? index = some (some name, b)) :
    s.pickCompletion index =
      (((s.afterPick b).execCommand name).1.map fun _ => some name,
        ((s.afterPick b).execCommand name).2) := by
  obtain ⟨hlive, list, old, hlist, hold, happly⟩ := picked?_eq_some_iff.1 h
  simp only [pickCompletion_def, whileLive_def, withBuffer_def]
  rw [if_neg hlive, hlist, hold]
  dsimp only
  rw [happly]
  dsimp only
  generalize hx : execCommand _ name = x
  have hrun : (s.afterPick b).execCommand name = x := hx
  rw [hrun]
  rcases x with ⟨_ | _, t⟩ <;> rfl

/-- Picking an entry is an edit, and the command that it asks for runs after that. -/
theorem pickCompletion_eq (s : Session) (index : Nat) :
    (s.pickCompletion index).2 =
      match s.picked? index with
      | none => s
      | some (none, b) => s.afterPick b
      | some (some name, b) => ((s.afterPick b).execCommand name).2 := by
  rcases hpicked : s.picked? index with _ | ⟨_ | name, b⟩
  · obtain ⟨e, hrefused, -⟩ := pickCompletion_of_not_picked hpicked
    rw [hrefused]
  · rw [pickCompletion_of_text hpicked]
  · rw [pickCompletion_of_command hpicked]

/-- What holds when the text of an entry has been put in, and is kept by commands, holds after a pick. -/
theorem invariant_pickCompletion {s : Session} (P : Session → Prop) (h : P s)
    (hpick : ∀ b, P (s.afterPick b)) (hexec : ∀ (s : Session) name, P s → P (s.execCommand name).2)
    (index : Nat) : P (s.pickCompletion index).2 := by
  rw [pickCompletion_eq]
  rcases s.picked? index with _ | ⟨_ | name, b⟩
  · exact h
  · exact hpick b
  · exact hexec _ name (hpick b)

/-! ### Taking a story over -/

@[simp]
theorem view_freshenMarks (s : Session) : s.freshenMarks.view = s.view := by
  unfold freshenMarks
  split
  · rfl
  · rename_i b hb
    split
    · rfl
    · rw [view_redraw]
      exact view_shown_self hb

/-- The draft has a new target, and the text of the revision where no commit is pending. -/
theorem view_adopt (s : Session) (story : Story) (r : Revision) :
    (s.adopt story r).view =
      let draft := (s.draft.retarget ⟨s.nextSerial, story.id, r.passage.id⟩ s.now).2
      { s.view with
        story := story
        revision := r
        draft := (draft.adopt r.passage.text).2
        nextSerial := s.nextSerial + 1
        shown :=
          if (draft.adopt r.passage.text).1 then s.view.shown.map fun _ => r.passage.text
            else s.view.shown } := by
  rw [adopt_def]
  dsimp only
  rw [view_freshenMarks]
  rcases hadopt : (s.draft.retarget ⟨s.nextSerial, story.id, r.passage.id⟩ s.now).2.adopt
    r.passage.text with ⟨_ | _, _⟩
  · rfl
  · simp only [view, ↓reduceIte]
    cases s.buffer <;> simp [Buffer.text_setText]

/-! ### Opening -/

section Open

variable {store : Store} {formats : Registry} {story : StoryId} {passage : PassageId}
  {config : Config} {s : Session}

theorem open_eq (h : open? store formats story passage config = .ok s) :
    ∃ st r pattern, store.story? story = some st ∧ st.find? passage = some r ∧
      s = rebuildVariables
        { story := st, revision := r, config := config, pattern := pattern, hub := .empty, buffer := none
          marks := .empty config.linkModifier
          draft := .ofText r.passage.text ⟨0, story, passage⟩ config.debounce
          nextSerial := 1, extensions := formats.extensionsFor st.format config, format := st.format
          tracker := none, health := .full, crashMessage := none, mode := none, toolbar := []
          completion := none, tasks := [], opened := [], now := 0 } := by
  unfold open? at h
  split at h
  · simp at h
  · simp at h
  rename_i pattern _ _
  split at h
  · simp at h
  rename_i st hst
  split at h
  · simp at h
  rename_i r hr
  exact ⟨st, r, pattern, hst, hr, (Except.ok.inj h).symm⟩

/-- A session that has just been opened has the text of its passage and nothing else to show. -/
theorem view_open (h : open? store formats story passage config = .ok s) :
    ∃ st r, store.story? story = some st ∧ st.find? passage = some r ∧
      s.view =
        ⟨st, r, config, .ofText r.passage.text ⟨0, story, passage⟩ config.debounce, 1, 0, none⟩ := by
  obtain ⟨st, r, pattern, hst, hr, rfl⟩ := open_eq h
  exact ⟨st, r, hst, hr, rfl⟩

end Open

end Session

namespace Desk

/-! ### Time -/

theorem view_tick (d : Desk) (now : Nat) :
    (d.tick now).2.session.view =
      { d.session.view with
        now := max d.session.now now
        draft := (d.session.draft.poll (max d.session.now now)).2 } := by
  unfold tick
  dsimp only
  split <;> rename_i h <;> rw [h] <;> rfl

end Desk

end PassageEditor
