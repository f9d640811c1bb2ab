import PassageEditor.Proofs.Session.Commit
import PassageEditor.Proofs.Session.UpToDate

/-!
# How operations fail

An operation that ends in an error was refused, could not look the variables of the passage up, or ran a
command that failed (`Session.Fails`, `Desk.error_step`).  Each operation has a lemma here that says which
errors it ends in, and what it has done until then.
-/

namespace PassageEditor

namespace SessionError

/-- There is no editor to work on, or nothing of what was asked for. -/
def isRefusal : SessionError → Bool
  | crashed | noEditorAttached | noActiveCompletion | storyNotFound _ | passageNotFound _
  | completion (.noSuchItem _ _) => true
  | _ => false

end SessionError

/-- A fault names the format of the call. -/
private theorem FormatRef.format_of_call {α : Type} {format : FormatRef} {hook : HookKind} {x : Outcome α}
    {fault : ExtensionFault} (h : format.call hook x = .error fault) : fault.format = format := by
  cases x with
  | ok a => simp [call] at h
  | failed e =>
    obtain rfl := Except.error.inj h
    rfl
  | panicked p =>
    obtain rfl := Except.error.inj h
    rfl

private theorem Buffer.eq_unknown_of_execCommand {b : Buffer} {name : String} {e : CommandError}
    (h : b.execCommand name = .error e) : e = .unknown name := by
  unfold execCommand at h
  split at h
  · exact (Except.error.inj h).symm
  · simp at h

namespace Completion

private theorem eq_lookup_of_complete {kind : CompletionKind} {b : Buffer} {sources : Sources}
    {e : CompletionError} (h : complete kind b sources = .error e) : ∃ source, e = .lookup source := by
  rw [complete_def] at h
  split at h
  · simp at h
  · simp at h
  · split at h
    · simp at h
    · rw [names?_def] at h
      split at h
      · simp at h
      · dsimp only at h
        split at h
        · simp at h
        · split at h
          · exact ⟨_, (Except.error.inj h).symm⟩
          · simp at h

end Completion

namespace Session

variable {s : Session} {e : SessionError} {α : Type}

/-- The error that a result is. -/
def errorIn : Except SessionError α → Option SessionError
  | .error e => some e
  | .ok _ => none

theorem errorIn_map {β : Type} (f : α → β) (r : Except SessionError α) :
    errorIn (r.map f) = errorIn r := by
  cases r <;> rfl

/-- The error that a request is answered with. -/
def error? (s : Session) : Request → Option SessionError
  | .attach b => errorIn (s.attach b).1
  | .exec name => errorIn (s.execCommand name).1
  | .pick index => errorIn (s.pickCompletion index).1
  | .trigger => errorIn s.triggerCompletion.1
  | .refresh => errorIn s.refreshCompletion.1
  | .select ranges => errorIn (s.changeSelection ranges).1
  | .key key => errorIn (s.handleKey key).1
  | _ => none

/-- There is no editor to work on. -/
inductive Lacks (s : Session) : SessionError → Prop
  | life (h : s.health = .crashed) : Lacks s .crashed
  | buffer (h : s.buffer = none) : Lacks s .noEditorAttached

/-- The variables of the passage were looked up before they had been scanned. -/
def Unscanned (s : Session) (e : SessionError) : Prop :=
  ¬ s.Ready ∧ ∃ source, e = .completion (.lookup source)

/-- There is no command of that name, or its code has failed, and the fault is put down to the format. -/
inductive OfCommand (format : FormatRef) : SessionError → Prop
  | unknown (name : String) : OfCommand format (.surface (.unknown name))
  | fault (fault : ExtensionFault) (hformat : fault.format = format) : OfCommand format (.extension fault)

/-- How an operation ends in an error. -/
inductive Fails (s t : Session) (e : SessionError) : Prop
  | refused (herror : e.isRefusal) (hsame : t = s)
  | unscanned (h : s.Unscanned e)
  | command (h : OfCommand s.format e)

theorem Lacks.isRefusal (h : s.Lacks e) : e.isRefusal := by
  cases h <;> rfl

theorem Unscanned.not_isRefusal (h : s.Unscanned e) : ¬ e.isRefusal := by
  obtain ⟨-, source, rfl⟩ := h
  simp [SessionError.isRefusal]

/-! ### Conditions of an operation -/

private theorem error_whileLive {op : Result α} (h : errorIn (s.whileLive op).1 = some e) :
    s.Lacks e ∧ (s.whileLive op).2 = s ∨
      s.health ≠ .crashed ∧ errorIn op.1 = some e ∧ s.whileLive op = op := by
  rw [whileLive_def] at h ⊢
  by_cases hcrashed : s.health = .crashed
  · rw [if_pos hcrashed] at h ⊢
    obtain rfl := Option.some.inj h
    exact .inl ⟨.life hcrashed, rfl⟩
  · rw [if_neg hcrashed] at h ⊢
    exact .inr ⟨hcrashed, h, rfl⟩

private theorem error_withBuffer {op : Buffer → Result α} (h : errorIn (s.withBuffer op).1 = some e) :
    s.Lacks e ∧ (s.withBuffer op).2 = s ∨
      ∃ b, s.buffer = some b ∧ errorIn (op b).1 = some e ∧ s.withBuffer op = op b := by
  rw [withBuffer_def] at h ⊢
  cases hb : s.buffer with
  | none =>
    rw [hb] at h
    obtain rfl := Option.some.inj h
    exact .inl ⟨.buffer hb, rfl⟩
  | some b =>
    rw [hb] at h
    exact .inr ⟨b, rfl, h, rfl⟩

/-- Most operations need an editor that has not crashed, and a buffer. -/
private theorem error_onBuffer {op : Buffer → Result α}
    (h : errorIn (s.whileLive (s.withBuffer op)).1 = some e) :
    s.Lacks e ∧ (s.whileLive (s.withBuffer op)).2 = s ∨
      s.health ≠ .crashed ∧ ∃ b, s.buffer = some b ∧ errorIn (op b).1 = some e ∧
        s.whileLive (s.withBuffer op) = op b := by
  rcases error_whileLive h with hlacks | ⟨hlive, h, heq⟩
  · exact .inl hlacks
  · rw [heq]
    exact (error_withBuffer h).imp_right fun hop => ⟨hlive, hop⟩

/-! ### Lists -/

/-- A list can be made unless the variables have not been scanned. -/
private theorem unscanned_openCompletion {b : Buffer} {kind : CompletionKind}
    (h : errorIn (s.openCompletion b kind).1 = some e) : s.Unscanned e := by
  let sources : Completion.Sources := ⟨s.story, s.revision.passage.id, s.toolbar, s.tracker, s.pattern⟩
  rw [openCompletion_def] at h
  split at h
  · rename_i source hfound
    obtain rfl := Option.some.inj h
    obtain ⟨lookup, rfl⟩ := Completion.eq_lookup_of_complete hfound
    refine ⟨fun hready => ?_, lookup, rfl⟩
    have hscanned : ∀ t, sources.tracker = some t → t.index.isScanned sources.passage := hready
    obtain ⟨list, hlist⟩ := Completion.complete_isOk hscanned kind b
    simp [sources, hfound] at hlist
  · simp [errorIn] at h
  · split at h <;> simp [errorIn] at h

private theorem error_triggerCompletion (h : errorIn s.triggerCompletion.1 = some e) :
    s.Lacks e ∧ s.triggerCompletion.2 = s ∨ s.Unscanned e := by
  rw [triggerCompletion_def] at h ⊢
  refine (error_onBuffer h).imp_right ?_
  rintro ⟨-, b, -, hop, -⟩
  split at hop
  · simp [errorIn] at hop
  · exact unscanned_openCompletion hop

private theorem error_refreshCompletion (h : errorIn s.refreshCompletion.1 = some e) :
    s.Lacks e ∧ s.refreshCompletion.2 = s ∨ s.Unscanned e := by
  rw [refreshCompletion_def] at h ⊢
  rcases error_whileLive h with hlacks | ⟨-, hop, heq⟩
  · exact .inl hlacks
  rw [heq]
  split at hop
  · simp [errorIn] at hop
  · refine (error_withBuffer hop).imp_right ?_
    rintro ⟨b, -, hop, -⟩
    split at hop
    · simp [errorIn] at hop
    · exact unscanned_openCompletion hop

theorem not_lacks {b : Buffer} (hlive : s.health ≠ .crashed) (hb : s.buffer = some b) : ¬ s.Lacks e := by
  rintro (hcrashed | hnone)
  · exact hlive hcrashed
  · simp [hb] at hnone

private theorem unscanned_refreshCompletion {b : Buffer} (hlive : s.health ≠ .crashed)
    (hb : s.buffer = some b) (h : errorIn s.refreshCompletion.1 = some e) : s.Unscanned e :=
  (error_refreshCompletion h).resolve_left fun hlacks => not_lacks hlive hb hlacks.1

private theorem unscanned_followEdit {b : Buffer} (hlive : s.health ≠ .crashed) (hb : s.buffer = some b)
    (h : errorIn s.followEdit.1 = some e) : s.Unscanned e := by
  rw [followEdit_def] at h
  split at h
  · exact unscanned_refreshCompletion hlive hb h
  · exact (error_triggerCompletion h).resolve_left fun hlacks => not_lacks hlive hb hlacks.1

private theorem unscanned_followSelection {b : Buffer} (hlive : s.health ≠ .crashed)
    (hb : s.buffer = some b) (h : errorIn s.followSelection.1 = some e) : s.Unscanned e := by
  rw [followSelection_def] at h
  split at h
  · exact unscanned_refreshCompletion hlive hb h
  · rw [withBuffer_def, hb] at h
    dsimp only at h
    split at h
    · exact unscanned_openCompletion h
    · simp [errorIn] at h

/-! ### Every request -/

/-- After the selection, which nothing can refuse, all that can fail is to make a list. -/
private theorem error_changeSelection {ranges : List Selection}
    (h : errorIn (s.changeSelection ranges).1 = some e) :
    s.Lacks e ∧ (s.changeSelection ranges).2 = s ∨ s.Unscanned e := by
  rw [changeSelection_def] at h ⊢
  refine (error_onBuffer h).imp_right ?_
  rintro ⟨hlive, b, hb, hop, -⟩
  have hselected : (s.select ranges).buffer = some (b.setSelections ranges) := by simp [select, hb]
  dsimp only at hop
  rw [errorIn_map] at hop
  exact unscanned_followSelection (s := s.select ranges) hlive hselected hop

private theorem error_cycle {next : List Range → Position → Option Range}
    (h : errorIn (s.cycle next).1 = some e) :
    s.Lacks e ∧ (s.cycle next).2 = s := by
  refine (error_onBuffer h).resolve_right ?_
  rintro ⟨-, b, -, hop, -⟩
  dsimp only at hop
  split at hop
  · simp [errorIn] at hop
  · split at hop <;> simp [errorIn] at hop

private theorem error_handleKey {key : String} (h : errorIn (s.handleKey key).1 = some e) :
    s.Lacks e ∧ (s.handleKey key).2 = s := by
  unfold handleKey at h ⊢
  split at h
  · exact error_cycle h
  · exact error_cycle h
  · simp [errorIn] at h

/-- A command that is not there is no command of the buffer either, and leaves the buffer as it is. -/
theorem error_runCommand {b c : Buffer} {name : String} (h : s.runCommand b name = (.error e, c)) :
    e = .surface (.unknown name) ∧ c = b ∨ ∃ fault, e = .extension fault ∧ fault.format = s.format := by
  rw [runCommand_def] at h
  split at h
  · dsimp only at h
    split at h
    · simp at h
    · rename_i fault hcall
      exact .inr ⟨fault, (Except.error.inj (Prod.mk.inj h).1).symm, FormatRef.format_of_call hcall⟩
  · split at h
    · simp at h
    · rename_i unknown hunknown
      obtain rfl := Buffer.eq_unknown_of_execCommand hunknown
      exact .inl ⟨(Except.error.inj (Prod.mk.inj h).1).symm, (Prod.mk.inj h).2.symm⟩

/-- A command that fails was run, or there was no editor to run it on. -/
theorem error_execCommand {name : String} (h : errorIn (s.execCommand name).1 = some e) :
    s.Lacks e ∧ (s.execCommand name).2 = s ∨
      ∃ b c, s.buffer = some b ∧ s.runCommand b name = (.error e, c) ∧ s.ran? name = some (.error e, c) ∧
        (s.execCommand name).2 = { s with buffer := some c } := by
  rw [execCommand_def] at h ⊢
  refine (error_onBuffer h).imp_right ?_
  rintro ⟨hlive, b, hb, hop, heq⟩
  unfold ran?
  rw [heq, if_neg hlive, hb]
  rcases hran : s.runCommand b name with ⟨e' | _, c⟩
  · rw [hran] at hop
    obtain rfl := Option.some.inj hop
    exact ⟨b, c, rfl, hran, congrArg some hran, rfl⟩
  · simp [hran, errorIn] at hop

/-- A pick fails because there is nothing to pick, or because of the command that it runs when the entry
is picked. -/
private theorem error_pickCompletion {index : Nat} (h : errorIn (s.pickCompletion index).1 = some e) :
    e.isRefusal ∧ s.picked? index = none ∨
      ∃ name b, s.picked? index = some (some name, b) ∧
        errorIn ((s.afterPick b).execCommand name).1 = some e := by
  rcases hpicked : s.picked? index with _ | ⟨_ | name, b⟩
  · obtain ⟨e', hrefused, herror⟩ := pickCompletion_of_not_picked hpicked
    rw [hrefused] at h
    obtain rfl := Option.some.inj h
    refine .inl ⟨?_, rfl⟩
    rcases herror with rfl | rfl | rfl | ⟨count, rfl⟩ <;> rfl
  · rw [pickCompletion_of_text hpicked] at h
    simp [errorIn] at h
  · rw [pickCompletion_of_command hpicked] at h
    exact .inr ⟨name, b, rfl, (errorIn_map _ _).symm.trans h⟩

/-- The editor that an entry has been picked in is there for the command. -/
private theorem not_lacks_afterPick {index : Nat} {command : Option String} {b : Buffer}
    (h : s.picked? index = some (command, b)) : ¬ (s.afterPick b).Lacks e := by
  have hlive : (s.afterPick b).health ≠ .crashed := (picked?_eq_some_iff.1 h).1
  obtain ⟨c, hc⟩ : ∃ c, (s.afterPick b).buffer = some c := ⟨_, rfl⟩
  exact not_lacks hlive hc

private theorem ofCommand_of_runCommand {b c : Buffer} {name : String}
    (h : s.runCommand b name = (.error e, c)) :
    OfCommand s.format e := by
  rcases error_runCommand h with ⟨rfl, -⟩ | ⟨fault, rfl, hformat⟩
  · exact .unknown name
  · exact .fault fault hformat

/-- A request that ends in an error was refused, or could not look the variables up, or ran a command that
failed. -/
private theorem fails_serve {request : Request} (h : s.error? request = some e) :
    Fails s (s.serve request) e := by
  have hlisting : ∀ t : Session, s.Lacks e ∧ t = s ∨ s.Unscanned e → Fails s t e := by
    rintro t (⟨hlacks, hsame⟩ | hunscanned)
    · exact .refused hlacks.isRefusal hsame
    · exact .unscanned hunscanned
  cases request with
  | attach b =>
    rcases error_whileLive h with ⟨hlacks, hsame⟩ | ⟨-, hop, -⟩
    · exact .refused hlacks.isRefusal hsame
    · simp [errorIn] at hop
  | exec name =>
    rcases error_execCommand h with ⟨hlacks, hsame⟩ | ⟨b, c, -, hran, -⟩
    · exact .refused hlacks.isRefusal hsame
    · exact .command (ofCommand_of_runCommand hran)
  | pick index =>
    rcases error_pickCompletion h with ⟨hrefusal, hnone⟩ | ⟨name, b, hpicked, hexec⟩
    · refine .refused hrefusal ?_
      show (s.pickCompletion index).2 = s
      rw [pickCompletion_eq, hnone]
    · obtain ⟨c, c', -, hran, -⟩ := (error_execCommand hexec).resolve_left fun hlacks =>
        not_lacks_afterPick hpicked hlacks.1
      exact .command (ofCommand_of_runCommand (s := s.afterPick b) hran)
  | trigger => exact hlisting _ (error_triggerCompletion h)
  | refresh => exact hlisting _ (error_refreshCompletion h)
  | select ranges => exact hlisting _ (error_changeSelection h)
  | key key => exact hlisting _ (.inl (error_handleKey h))
  | _ => simp [error?] at h

end Session

namespace Desk

open Session

variable {d : Desk} {e : SessionError}

/-! ### Every operation -/

/-- The error that an operation is answered with. -/
def error? (d : Desk) : Op → Option SessionError
  | .request request => d.session.error? request
  | .localChange now => errorIn (d.localChange now).1
  | .storyChange story now => errorIn (d.storyChange story now).1
  | .syncFromStore now => errorIn (d.syncFromStore now).1
  | .advance _ => none

/-- The desk when the time that an operation tells has been heard. -/
def heard (d : Desk) (op : Op) : Desk :=
  match d.hears? op with
  | none => d
  | some now => (d.tick now).2

private theorem unscanned_of_tick {now : Nat} (h : (d.tick now).2.session.Unscanned e) :
    d.session.Unscanned e := by
  unfold tick at h
  dsimp only at h
  split at h <;> exact h

private theorem error_localChange {now : Nat} (h : errorIn (d.localChange now).1 = some e) :
    e.isRefusal ∧ (d.localChange now).2 = d.heard (.localChange now) ∨ d.session.Unscanned e := by
  rw [localChange_def] at h ⊢
  unfold heard hears?
  by_cases hcrashed : d.session.health = .crashed
  · rw [if_pos hcrashed] at h
    obtain rfl := Option.some.inj h
    simp only [if_pos hcrashed]
    exact .inl ⟨rfl, trivial⟩
  · rw [if_neg hcrashed] at h
    simp only [if_neg hcrashed]
    have hlive : (d.tick now).2.session.health ≠ .crashed :=
      (congrArg (·.2.1) (d.offer_tick now) : (d.tick now).2.session.health = d.session.health) ▸ hcrashed
    rcases error_withBuffer h with ⟨hlacks, hsame⟩ | ⟨b, hb, hop, -⟩
    · exact .inl ⟨hlacks.isRefusal, congrArg (fun s => { (d.tick now).2 with session := s }) hsame⟩
    · right
      dsimp only at hop
      rw [errorIn_map] at hop
      obtain ⟨c, hc⟩ : ∃ c, ((d.tick now).2.session.bufferChanged b).buffer = some c := ⟨_, rfl⟩
      have hunscanned : ((d.tick now).2.session.bufferChanged b).Unscanned e :=
        unscanned_followEdit hlive hc hop
      exact unscanned_of_tick hunscanned

private theorem error_storyChange {story : Story} {now : Nat}
    (h : errorIn (d.storyChange story now).1 = some e) :
    e.isRefusal ∧ (d.storyChange story now).2 = (d.tick now).2 := by
  rcases hfound : (d.current story now).find? (d.tick now).2.session.revision.passage.id with _ | r
  · unfold current at hfound
    rw [storyChange_def] at h ⊢
    simp only [hfound] at h ⊢
    obtain rfl := Option.some.inj h
    exact ⟨rfl, trivial⟩
  · unfold current at hfound
    rw [storyChange_def] at h
    simp only [hfound] at h
    -- a story that has the passage is answered with success, whether or not there is anything new in it
    generalize (if (d.tick now).1 then _ else _ : Story) = current at h
    split at h <;> simp [errorIn] at h

private theorem error_syncFromStore {now : Nat} (h : errorIn (d.syncFromStore now).1 = some e) :
    e.isRefusal ∧ (d.syncFromStore now).2 = (d.tick now).2 := by
  rw [syncFromStore_def] at h ⊢
  dsimp only at h ⊢
  cases hstory : (d.tick now).2.store.story? (d.tick now).2.session.story.id with
  | none =>
    rw [hstory] at h
    obtain rfl := Option.some.inj h
    exact ⟨rfl, rfl⟩
  | some story =>
    rw [hstory] at h
    obtain ⟨hrefusal, hsame⟩ := error_storyChange h
    rw [tick_tick] at hsame
    exact ⟨hrefusal, hsame⟩

/-- An operation that ends in an error was refused once it had heard the time, or could not look the
variables up, or ran a command that failed. -/
theorem error_step {op : Op} (h : d.error? op = some e) :
    e.isRefusal ∧ d.step op = d.heard op ∨ d.session.Unscanned e ∨ OfCommand d.session.format e := by
  cases op with
  | request request =>
    rcases fails_serve h with ⟨hrefusal, hsame⟩ | hunscanned | hcommand
    · exact .inl ⟨hrefusal, congrArg (fun s => { d with session := s }) hsame⟩
    · exact .inr (.inl hunscanned)
    · exact .inr (.inr hcommand)
  | localChange now => exact (error_localChange h).imp_right .inl
  | storyChange story now => exact .inl (error_storyChange h)
  | syncFromStore now => exact .inl (error_syncFromStore h)
  | advance now => simp [error?] at h

end Desk

end PassageEditor
