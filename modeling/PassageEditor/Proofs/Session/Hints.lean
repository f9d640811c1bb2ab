import PassageEditor.Proofs.Session.UpToDate

/-!
# The list that the buffer shows

An open list is kept by the session and shown on the attached buffer as hints over its range.  Operations
that open a list or close it do both at once, and the others leave both alone, so that the two agree
(`Session.Hinted`).  They come apart where a buffer is attached while a list is open, since the list stays
and the buffer has never heard of it, and where the host or a command of the format changes the hints by
itself (`Desk.Unhints`); at no other time (`Desk.hints_of_run`).
-/

namespace PassageEditor

/-! ### Hints and edits -/

namespace Buffer

@[simp]
theorem hints_setText (b : Buffer) (text : String) : (b.setText text).hints = b.hints := by
  unfold setText
  split <;> rfl

@[simp]
theorem hints_setSelections (b : Buffer) (ranges : List Selection) :
    (b.setSelections ranges).hints = b.hints := by
  obtain ⟨selections, _, h⟩ := b.exists_setSelections ranges
  rw [h]

private theorem hints_execCommand {b c : Buffer} {name : String} (h : b.execCommand name = .ok c) :
    c.hints = b.hints := by
  obtain ⟨selection, executed, rfl⟩ := exists_execCommand h
  rfl

end Buffer

private theorem Extensions.hints_registerMode (x : Extensions) (format : FormatRef) (b : Buffer) :
    (x.registerMode format b).2.hints = b.hints := by
  obtain ⟨modes, h⟩ := x.exists_registerMode format b
  rw [h]

namespace Session

variable {s t : Session}

/-- The attached buffer shows the open list, and nothing where no list is open. -/
def Hinted (s : Session) : Prop := ∀ b, s.buffer = some b → b.hints = s.completion.map (·.hints)

/-- The open list, and the hints of the attached buffer. -/
def popup (s : Session) : Option CompletionList × Option (Option Hints) :=
  (s.completion, s.buffer.map (·.hints))

private theorem hinted_iff_popup :
    s.Hinted ↔ ∀ hints, s.popup.2 = some hints → hints = s.popup.1.map (·.hints) := by
  constructor
  · intro h hints hshown
    obtain ⟨b, hb, rfl⟩ := Option.map_eq_some_iff.1 hshown
    exact h b hb
  · intro h b hb
    exact h b.hints (by simp [popup, hb])

/-- Whether the two agree is seen from the list and the hints. -/
private theorem hinted_of_popup_eq (h : t.popup = s.popup) : t.Hinted ↔ s.Hinted := by
  rw [hinted_iff_popup, hinted_iff_popup, h]

private theorem Hinted.of_popup_eq (h : s.Hinted) (heq : t.popup = s.popup) : t.Hinted :=
  (hinted_of_popup_eq heq).2 h

/-- With a given buffer it is that one that counts. -/
private theorem hinted_iff_of_popup {hints : Option Hints} {completion : Option CompletionList}
    (h : s.popup = (completion, some hints)) : s.Hinted ↔ hints = completion.map (·.hints) := by
  rw [hinted_iff_popup, h]
  constructor
  · exact fun hall => hall hints rfl
  · rintro heq hints' hsome
    obtain rfl := Option.some.inj hsome
    exact heq

/-! ### What leaves both alone -/

@[simp]
theorem popup_redraw (s : Session) (b : Buffer) (force : Bool) :
    (s.redraw b force).popup = (s.completion, some b.hints) := by
  have : (s.marks.reconcile ⟨b, s.hub⟩ s.story force).2.2.buffer.hints = b.hints :=
    Buffer.hints_eq_of_unmarked_eq (Markup.Reconciler.unmarked_reconcile _ _ _ _)
  simp [redraw, popup, this]

private theorem popup_redrawPlaceholders {b : Buffer} (h : s.buffer = some b) :
    (s.redrawPlaceholders b).popup = s.popup := by
  have : (s.marks.renderPlaceholders ⟨b, s.hub⟩ true).2.2.buffer.hints = b.hints :=
    Buffer.hints_eq_of_unmarked_eq (Markup.Reconciler.unmarked_renderPlaceholders _ _ _)
  simp [redrawPlaceholders, popup, this, h]

private theorem hints_undraw (s : Session) (b : Buffer) : (s.undraw b).1.hints = b.hints :=
  Buffer.hints_eq_of_unmarked_eq (Markup.Reconciler.unmarked_teardown _ _)

private theorem popup_bufferChanged (s : Session) (b : Buffer) :
    (s.bufferChanged b).popup = (s.completion, some b.hints) :=
  popup_redraw _ b false

@[simp]
theorem popup_registerMode (s : Session) : s.registerMode.popup = s.popup := by
  rw [registerMode_def]
  split
  · rename_i x b hx hb
    simp [popup, hb, Extensions.hints_registerMode]
  · rfl

@[simp]
theorem popup_refreshToolbar (s : Session) : s.refreshToolbar.popup = s.popup :=
  keeps_refreshToolbar popup (fun _ _ => rfl) s

private theorem popup_refreshFormat (s : Session) (formats : Registry) :
    (s.refreshFormat formats).2.popup = s.popup := by
  rw [refreshFormat_def]
  dsimp only
  split
  · rfl
  · rw [popup_refreshToolbar, popup_registerMode]
    rfl

private theorem popup_select (s : Session) (ranges : List Selection) :
    (s.select ranges).popup = s.popup := by
  cases h : s.buffer <;> simp [select, popup, h]

private theorem popup_dispatchEvent (s : Session) (event : Event) :
    (s.dispatchEvent event).2.popup = s.popup :=
  keeps_dispatchEvent popup (fun _ _ => rfl) (fun _ _ => rfl) popup_select s event

private theorem popup_runTask (s : Session) (task : Task) : (s.runTask task).popup = s.popup :=
  invariant_runTask (·.popup = s.popup) rfl (fun _ _ => id) (popup_dispatchEvent s) (popup_select s)
    (fun _ _ => popup_redrawPlaceholders) (popup_refreshToolbar s) task

private theorem popup_runTasks (s : Session) : s.runTasks.2.popup = s.popup :=
  invariant_runTasks (·.popup = s.popup) rfl (fun _ _ => id) fun t task => (popup_runTask t task).trans

private theorem popup_freshenMarks (s : Session) : s.freshenMarks.popup = s.popup := by
  unfold freshenMarks
  split
  · rfl
  · rename_i b hb
    split
    · rfl
    · rw [popup_redraw, popup, hb]
      rfl

/-- A story that is taken over may change the text, but the list stays open over it. -/
private theorem popup_adopt (s : Session) (story : Story) (r : Revision) :
    (s.adopt story r).popup = s.popup := by
  rw [adopt_def]
  dsimp only
  rw [popup_freshenMarks]
  simp only [popup]
  split
  · cases s.buffer <;> simp
  · rfl

/-! ### Opening and closing -/

/-- When the list is closed, so are its hints. -/
private theorem hinted_closeCompletion (h : s.Hinted) : s.closeCompletion.Hinted := by
  unfold closeCompletion
  split
  · intro b hb
    obtain ⟨c, -, rfl⟩ := Option.map_eq_some_iff.1 hb
    rfl
  · exact h

/-- When a list is opened, its hints are shown in place of any others. -/
private theorem hinted_openCompletion (h : s.Hinted) (b : Buffer) (kind : CompletionKind) :
    (s.openCompletion b kind).2.Hinted := by
  rw [openCompletion_def]
  split
  · exact h
  · exact hinted_closeCompletion h
  · split
    · exact hinted_closeCompletion h
    · intro c hc
      obtain rfl := Option.some.inj hc
      rfl

private theorem hinted_triggerCompletion (h : s.Hinted) : s.triggerCompletion.2.Hinted := by
  rw [triggerCompletion_def]
  refine invariant_whileLive Hinted h (invariant_withBuffer Hinted h fun b _ => ?_)
  split
  · exact h
  · exact hinted_openCompletion h b _

private theorem hinted_refreshCompletion (h : s.Hinted) : s.refreshCompletion.2.Hinted := by
  rw [refreshCompletion_def]
  refine invariant_whileLive Hinted h ?_
  split
  · exact h
  · refine invariant_withBuffer Hinted h fun b _ => ?_
    split
    · exact hinted_closeCompletion h
    · exact hinted_openCompletion h b _

private theorem hinted_followEdit (h : s.Hinted) : s.followEdit.2.Hinted := by
  rw [followEdit_def]
  split
  · exact hinted_refreshCompletion h
  · exact hinted_triggerCompletion h

private theorem hinted_changeSelection (h : s.Hinted) (ranges : List Selection) :
    (s.changeSelection ranges).2.Hinted := by
  rw [changeSelection_eq]
  split
  · exact h
  have hselected : (s.select ranges).Hinted := h.of_popup_eq (popup_select s ranges)
  rw [followSelection_def]
  split
  · exact hinted_refreshCompletion hselected
  · refine invariant_withBuffer Hinted hselected fun b _ => ?_
    split
    · exact hinted_openCompletion hselected b .link
    · exact hselected

private theorem hinted_bufferChanged {b : Buffer} (h : s.Hinted) (hb : s.buffer = some b) :
    (s.bufferChanged b).Hinted := by
  rw [hinted_iff_of_popup (popup_bufferChanged s b)]
  exact h b hb

/-- The text of an entry is put in when the list and its hints have been closed. -/
theorem hinted_afterPick (s : Session) (b : Buffer) : (s.afterPick b).Hinted := by
  have hpopup : (s.afterPick b).popup = (none, some none) := popup_bufferChanged _ b.closeHints
  rw [hinted_iff_of_popup hpopup]
  rfl

/-! ### Crashes -/

private theorem hinted_withoutExtensions (h : s.Hinted) : s.withoutExtensions.Hinted := by
  have hclosed := hinted_closeCompletion h
  unfold withoutExtensions
  generalize s.closeCompletion = u at hclosed
  dsimp only
  split
  · exact hclosed
  · rename_i b hb
    rw [hinted_iff_of_popup (popup_redraw _ _ true), hints_undraw]
    exact hclosed b hb

private theorem hinted_shutDown (h : s.Hinted) (message : String) : (s.shutDown message).Hinted := by
  have hclosed := hinted_closeCompletion h
  unfold shutDown
  generalize s.closeCompletion = u at hclosed
  dsimp only
  split
  · exact hclosed
  · rename_i b hb
    intro c hc
    obtain rfl := Option.some.inj hc
    rw [hints_undraw]
    exact hclosed b hb

private theorem hinted_reportCrash (h : s.Hinted) (message : String) :
    (s.reportCrash message).2.Hinted := by
  have hhealth : ({ s with health := s.health.afterCrash } : Session).Hinted := h
  unfold reportCrash
  dsimp only
  split
  · exact hhealth
  · exact hinted_withoutExtensions hhealth
  · exact hinted_shutDown hhealth message

/-! ### Commands -/

/-- A command of the format is there to be run, and it changes the hints of the buffer. -/
def Meddles (s : Session) (name : String) : Prop :=
  s.health ≠ .crashed ∧ ∃ b, s.buffer = some b ∧
    ∃ command, s.activeExtensions.bind (·.commands.lookup name) = some command ∧
      (command b).1.hints ≠ b.hints

/-- Of the commands, those of the format alone have a say in the hints, whether they succeed or fail. -/
private theorem hints_runCommand (s : Session) (b : Buffer) (name : String) :
    (s.runCommand b name).2.hints =
      match s.activeExtensions.bind (·.commands.lookup name) with
      | some command => (command b).1.hints
      | none => b.hints := by
  rw [runCommand_def]
  cases s.activeExtensions.bind (·.commands.lookup name) with
  | some command =>
    dsimp only
    split <;> rfl
  | none =>
    dsimp only
    split
    · rename_i c hran
      exact Buffer.hints_execCommand hran
    · rfl

private theorem meddles_iff {name : String} :
    s.Meddles name ↔ ∃ b ran, s.buffer = some b ∧ s.ran? name = some ran ∧ ran.2.hints ≠ b.hints := by
  constructor
  · rintro ⟨hl, b, hb, command, hc, hne⟩
    have hhints := hints_runCommand s b name
    rw [hc] at hhints
    exact ⟨b, _, hb, ran?_eq_some_iff.2 ⟨hl, b, hb, rfl⟩, fun heq => hne (hhints.symm.trans heq)⟩
  · rintro ⟨b, ran, hb, hsome, hne⟩
    obtain ⟨hl, b', hb', rfl⟩ := ran?_eq_some_iff.1 hsome
    obtain rfl := Option.some.inj (hb.symm.trans hb')
    rw [hints_runCommand] at hne
    cases hc : s.activeExtensions.bind (·.commands.lookup name) with
    | some command =>
      rw [hc] at hne
      exact ⟨hl, b, hb, command, hc, hne⟩
    | none =>
      rw [hc] at hne
      exact absurd rfl hne

/-- A command leaves the list, and the hints as it has made them. -/
private theorem popup_execCommand (s : Session) (name : String) :
    (s.execCommand name).2.popup =
      match s.ran? name with
      | none => s.popup
      | some (_, b) => (s.completion, some b.hints) := by
  rw [execCommand_def, whileLive_def, withBuffer_def]
  unfold ran?
  by_cases hl : s.health = .crashed
  · simp [hl]
  simp only [if_neg hl]
  cases s.buffer with
  | none => rfl
  | some b =>
    simp only [Option.map_some]
    rcases s.runCommand b name with ⟨_ | _, c⟩
    · rfl
    · exact popup_bufferChanged s c

private theorem hinted_execCommand_iff (h : s.Hinted) (name : String) :
    (s.execCommand name).2.Hinted ↔ ¬ s.Meddles name := by
  have hpopup := popup_execCommand s name
  rw [meddles_iff]
  rcases hran : s.ran? name with _ | ran
  · rw [hran] at hpopup
    simpa using (hinted_of_popup_eq hpopup).2 h
  · obtain ⟨-, b, hb, -⟩ := ran?_eq_some_iff.1 hran
    rw [hran] at hpopup
    rw [hinted_iff_of_popup hpopup, ← h b hb]
    constructor
    · rintro heq ⟨b', ran', hb', hran', hne⟩
      obtain rfl := Option.some.inj (hb.symm.trans hb')
      obtain rfl := Option.some.inj hran'
      exact hne heq
    · intro hno
      by_contra hne
      exact hno ⟨b, ran, hb, rfl, hne⟩

/-! ### Every request -/

/-- The request leaves the hints at odds with the list: a buffer is attached that does not show the open
list, or a command meddles with the hints, called by itself or by the entry that is picked. -/
def Unhints (s : Session) : Request → Prop
  | .attach b => s.health ≠ .crashed ∧ b.hints ≠ s.completion.map (·.hints)
  | .exec name => s.Meddles name
  | .pick index => ∃ name b, s.picked? index = some (some name, b) ∧ (s.afterPick b).Meddles name
  | _ => False

/-- A buffer that is attached keeps the hints that it has, and the list stays open. -/
private theorem hinted_attach_iff (h : s.Hinted) (b : Buffer) :
    (s.attach b).2.Hinted ↔ ¬ s.Unhints (.attach b) := by
  rw [attach_def, whileLive_def]
  by_cases hl : s.health = .crashed
  · simpa [hl, Unhints] using h
  rw [if_neg hl]
  have hpopup : ∀ u : Session, u.completion = s.completion →
      ((u.redraw (b.setText u.localText) false).registerMode).refreshToolbar.popup =
        (s.completion, some b.hints) := by
    intro u hu
    rw [popup_refreshToolbar, popup_registerMode, popup_redraw, Buffer.hints_setText, hu]
  simp only [Unhints, hl, ne_eq, not_false_eq_true, true_and, not_not]
  refine hinted_iff_of_popup (hpopup _ ?_)
  cases s.buffer <;> rfl

private theorem hinted_pickCompletion_iff (h : s.Hinted) (index : Nat) :
    (s.pickCompletion index).2.Hinted ↔ ¬ s.Unhints (.pick index) := by
  rw [pickCompletion_eq]
  simp only [Unhints]
  rcases hpicked : s.picked? index with _ | ⟨_ | name, b⟩
  · simpa using h
  · simpa using hinted_afterPick s b
  · rw [hinted_execCommand_iff (hinted_afterPick s b)]
    simp

private theorem hinted_serve_iff (h : s.Hinted) (request : Request) :
    (s.serve request).Hinted ↔ ¬ s.Unhints request := by
  have hkept : ∀ u : Session, u.popup = s.popup → (u.Hinted ↔ ¬ False) := fun u hu => by
    simpa using h.of_popup_eq hu
  have hwell : ∀ u : Session, u.Hinted → (u.Hinted ↔ ¬ False) := fun u hu => by simpa using hu
  cases request with
  | attach b => exact hinted_attach_iff h b
  | exec name => exact hinted_execCommand_iff h name
  | pick index => exact hinted_pickCompletion_iff h index
  | detach =>
    refine hwell _ ?_
    show s.detach.2.Hinted
    unfold detach
    split
    · exact h
    · exact fun b hb => by simp at hb
  | trigger => exact hwell _ (hinted_triggerCompletion h)
  | refresh => exact hwell _ (hinted_refreshCompletion h)
  | close => exact hwell _ (hinted_closeCompletion h)
  | select ranges => exact hwell _ (hinted_changeSelection h ranges)
  | key key => exact hkept _ (keeps_handleKey popup (popup_dispatchEvent s) key)
  | event event => exact hkept _ (popup_dispatchEvent s event)
  | runTasks => exact hkept _ (popup_runTasks s)
  | crash message => exact hwell _ (hinted_reportCrash h message)
  | refreshFormat formats => exact hkept _ (popup_refreshFormat s formats)
  | drainEvents => exact hkept _ rfl

end Session

namespace Desk

open Session

variable {d : Desk}

/-! ### A whole run -/

/-- The turn leaves the hints at odds with the list: by a request of that kind, or because the host
changes the hints by itself. -/
def Unhints (d : Desk) : Turn → Prop
  | .op (.request request) => d.session.Unhints request
  | .typed change => ∃ b, d.session.buffer = some b ∧ (change b).hints ≠ b.hints
  | _ => False

private theorem popup_tick (d : Desk) (now : Nat) : (d.tick now).2.session.popup = d.session.popup := by
  rw [session_tick]
  rfl

/-- A turn keeps the hints in step with the list, unless it is one of those that do not. -/
private theorem hinted_turn_iff (h : d.session.Hinted) (t : Turn) :
    (d.turn t).session.Hinted ↔ ¬ d.Unhints t := by
  have htick : ∀ now, (d.tick now).2.session.Hinted := fun now => h.of_popup_eq (popup_tick d now)
  have hadopt : ∀ s : Session, s.Hinted → ∀ story r, (s.adopt story r).Hinted := fun s hs story r =>
    hs.of_popup_eq (popup_adopt s story r)
  cases t with
  | written change => exact iff_of_true h id
  | typed change =>
    simp only [Unhints, not_exists, not_and, not_not]
    constructor
    · intro hafter b hb
      have hchanged : (change b).hints = d.session.completion.map (·.hints) :=
        hafter (change b) (congrArg (Option.map change) hb)
      exact hchanged.trans (h b hb).symm
    · intro hsame c hc
      obtain ⟨b, hb, rfl⟩ := Option.map_eq_some_iff.1 hc
      exact (hsame b hb).trans (h b hb)
  | op op =>
    cases op with
    | request request => exact hinted_serve_iff h request
    | advance now => exact iff_of_true (htick now) id
    | storyChange story now => exact iff_of_true (keeps_storyChange htick hadopt story now) id
    | syncFromStore now => exact iff_of_true (keeps_syncFromStore htick hadopt now) id
    | localChange now =>
      refine iff_of_true ?_ id
      show (d.localChange now).2.session.Hinted
      rw [session_localChange]
      split
      · exact h
      · split
        · exact htick now
        · rename_i b hb
          exact hinted_followEdit (hinted_bufferChanged (htick now) hb)

section Run

variable {store : Store} {formats : Registry} {story : StoryId} {passage : PassageId}
  {config : Config} {s : Session}

/-- Through any run, while the attached buffer shows the open list, with its range and its labels, and no
hints where none is open, the next turn keeps it so unless a buffer is attached whose own hints are not
those, or the host or a command of the format changes the hints.  In a run without such turns the two
always agree. -/
theorem hints_of_run (h : Session.open? store formats story passage config = .ok s) (turns : List Turn) :
    let run := fun turns : List Turn => turns.foldl turn ⟨store, s⟩
    (∀ t, (run turns).session.Hinted → ((run (turns ++ [t])).session.Hinted ↔ ¬ (run turns).Unhints t)) ∧
    ((∀ before t, before ++ [t] <+: turns → ¬ (run before).Unhints t) → (run turns).session.Hinted) := by
  intro run
  have hturn : ∀ t, run (turns ++ [t]) = (run turns).turn t := fun t => by simp [run, List.foldl_append]
  have hstart : s.Hinted := by
    obtain ⟨st, r, pattern, -, -, rfl⟩ := open_eq h
    exact fun b hb => by simp [rebuildVariables_def] at hb
  refine ⟨fun t hbefore => ?_, fun hnone => ?_⟩
  · rw [hturn]
    exact hinted_turn_iff hbefore t
  · exact holds_after_run (P := fun d : Desk => d.session.Hinted) hstart turns fun before t hp hbefore =>
      (hinted_turn_iff hbefore t).2 (hnone before t hp)

/-! ### A buffer that has never heard of the list -/

/-- An at sign is typed. -/
def atSignTyped : List Turn := [.op (.request (.attach (.ofText ""))), .typed (·.typeText "@")]

/-- The host tells of it, and the list opens. -/
def atSignTold : List Turn := atSignTyped ++ [.op (.localChange 0)]

/-- Then another buffer is attached in the place of the first. -/
def attachedAnew : List Turn := atSignTold ++ [.op (.request (.attach (.ofText "")))]

/-- The list stays open, and the new buffer shows no hints. -/
theorem list_open_without_hints :
    ((Session.open? Listed.offeringStore Listed.offeringFormat ⟨1⟩ ⟨1⟩ .default).toOption.map fun s =>
      let told := (atSignTold.foldl turn ⟨Listed.offeringStore, s⟩).session
      let anew := (attachedAnew.foldl turn ⟨Listed.offeringStore, s⟩).session
      (told.completion.map (·.hints), told.buffer.map (·.hints), anew.completion.map (·.hints),
        anew.buffer.map (·.hints))) =
      some (some ⟨⟨⟨0, 0⟩, ⟨0, 1⟩⟩, ["it"]⟩, some (some ⟨⟨⟨0, 0⟩, ⟨0, 1⟩⟩, ["it"]⟩),
        some ⟨⟨⟨0, 0⟩, ⟨0, 1⟩⟩, ["it"]⟩, some none) := by
  decide +kernel

/-- When the edit is told, the list opens and its hints are shown. -/
theorem hints_of_run_at_sign :
    ∃ s, Session.open? Listed.offeringStore Listed.offeringFormat ⟨1⟩ ⟨1⟩ .default = .ok s ∧
      (atSignTyped.foldl turn ⟨Listed.offeringStore, s⟩).session.Hinted ∧
      (atSignTold.foldl turn ⟨Listed.offeringStore, s⟩).session.completion.isSome ∧
      (atSignTold.foldl turn ⟨Listed.offeringStore, s⟩).session.Hinted := by
  have hvalues :
      ((Session.open? Listed.offeringStore Listed.offeringFormat ⟨1⟩ ⟨1⟩ .default).toOption.map fun s =>
      ((atSignTyped.foldl turn ⟨Listed.offeringStore, s⟩).session.popup,
        (atSignTold.foldl turn ⟨Listed.offeringStore, s⟩).session.completion.isSome)) =
      some ((none, some none), true) := by
    decide +kernel
  rcases h : Session.open? Listed.offeringStore Listed.offeringFormat ⟨1⟩ ⟨1⟩ .default with e | s
  · simp [h, Except.toOption] at hvalues
  rw [h, Except.toOption, Option.map_some, Option.some.injEq, Prod.mk.injEq] at hvalues
  obtain ⟨hpopup, hopened⟩ := hvalues
  have hbefore : (atSignTyped.foldl turn ⟨Listed.offeringStore, s⟩).session.Hinted :=
    (hinted_iff_of_popup hpopup).2 rfl
  exact ⟨s, rfl, hbefore, hopened, ((hints_of_run h atSignTyped).1 (.op (.localChange 0)) hbefore).2 id⟩

end Run

end Desk

end PassageEditor
