import PassageEditor.Proofs.Commit.Draft
import PassageEditor.Proofs.Session.Run

/-!
# The text shown and the text kept

The attached buffer shows the text that the session keeps (`Agrees`).  Operations keep it so, each by
taking the text of the buffer as an edit after changing it, and one does not: a command of the format that
changes the text and then fails, run by itself or by picking an entry, leaves a text on the buffer that
the session does not know of.  That is all there is to it (`agrees_step_iff`).
-/

namespace PassageEditor

namespace Session

/-- The attached buffer shows the text of the session. -/
def Agrees (s : Session) : Prop := ∀ b, s.buffer = some b → b.text = s.localText

/-- The text shown is the text of the draft. -/
def View.Agrees (v : View) : Prop := ∀ t, v.shown = some t → t = v.draft.text

theorem agrees_iff_view {s : Session} : s.Agrees ↔ s.view.Agrees := by
  unfold Agrees View.Agrees
  constructor
  · intro h t ht
    obtain ⟨b, hb, rfl⟩ := Option.map_eq_some_iff.1 ht
    exact h b hb
  · intro h b hb
    exact h b.text (shown_of_buffer hb)

/-- What is shown after an edit is the edit. -/
theorem View.agrees_edit (v : View) (d : Draft WriteTarget) (text : String) (now : Nat) :
    View.Agrees { v with draft := d.edit text now, shown := some text } := by
  intro t ht
  exact (Option.some.inj ht).symm

/-! ### Commands -/

/-- A command of the format is there to be run; it fails or panics, and has changed the text by then. -/
def FailsMidway (s : Session) (name : String) : Prop :=
  s.health ≠ .crashed ∧ ∃ b, s.buffer = some b ∧
    ∃ command, s.activeExtensions.bind (·.commands.lookup name) = some command ∧
      (∀ u, (command b).2 ≠ .ok u) ∧ (command b).1.text ≠ b.text

/-- The entry to be picked asks for a command that fails midway, once the text of the entry is in the
buffer. -/
def PickFailsMidway (s : Session) (index : Nat) : Prop :=
  ∃ name b, s.picked? index = some (some name, b) ∧ (s.afterPick b).FailsMidway name

private theorem error_of_call {s : Session} {outcome : Outcome Unit} (h : ∀ u, outcome ≠ .ok u) :
    ∃ fault, s.format.call .command outcome = .error fault := by
  cases outcome with
  | ok u => exact absurd rfl (h u)
  | failed e => exact ⟨_, rfl⟩
  | panicked p => exact ⟨_, rfl⟩

/-- A command that fails without changing the text is no harm, and the built-in ones are of that kind. -/
private theorem failsMidway_iff {s : Session} {name : String} :
    s.FailsMidway name ↔
      ∃ e b c, s.buffer = some b ∧ s.ran? name = some (.error e, c) ∧ c.text ≠ b.text := by
  constructor
  · rintro ⟨hl, b, hb, command, hc, hfail, htext⟩
    obtain ⟨fault, hfault⟩ := error_of_call hfail (s := s)
    refine ⟨.extension fault, b, (command b).1, hb, ran?_eq_some_iff.2 ⟨hl, b, hb, ?_⟩, htext⟩
    simp [runCommand_def, hc, hfault]
  · rintro ⟨e, b, c, hb, hran, htext⟩
    obtain ⟨hl, b', hb', hran⟩ := ran?_eq_some_iff.1 hran
    obtain rfl := Option.some.inj (hb.symm.trans hb')
    rw [runCommand_def] at hran
    cases hc : s.activeExtensions.bind (·.commands.lookup name) with
    | some command =>
      rw [hc] at hran
      rcases hcommand : command b with ⟨c', outcome⟩
      simp only [hcommand] at hran
      cases outcome with
      | ok u => simp [FormatRef.call] at hran
      | failed e' =>
        simp only [FormatRef.call, Prod.mk.injEq] at hran
        exact ⟨hl, b, hb, command, hc, by simp [hcommand], by simpa [hcommand, hran.2] using htext⟩
      | panicked p =>
        simp only [FormatRef.call, Prod.mk.injEq] at hran
        exact ⟨hl, b, hb, command, hc, by simp [hcommand], by simpa [hcommand, hran.2] using htext⟩
    | none =>
      rw [hc] at hran
      simp only at hran
      split at hran
      · simp at hran
      · exact absurd (congrArg Buffer.text (Prod.mk.inj hran).2).symm htext

private theorem agrees_execCommand_iff {s : Session} (h : s.Agrees) (name : String) :
    (s.execCommand name).2.Agrees ↔ ¬ s.FailsMidway name := by
  rw [agrees_iff_view, view_execCommand, failsMidway_iff]
  rcases hran : s.ran? name with _ | ⟨e | u, c⟩
  · simpa using agrees_iff_view.1 h
  · obtain ⟨-, b, hb, -⟩ := ran?_eq_some_iff.1 hran
    have htext : b.text = s.view.draft.text := h b hb
    constructor
    · rintro hagrees ⟨e', b', c', hb', hran', hne⟩
      simp only [Option.some.injEq, Prod.mk.injEq] at hran'
      obtain ⟨-, rfl⟩ := hran'
      obtain rfl := Option.some.inj (hb.symm.trans hb')
      exact hne ((hagrees c.text rfl).trans htext.symm)
    · intro hno t ht
      obtain rfl := Option.some.inj ht
      by_contra hne
      exact hno ⟨e, b, c, hb, rfl, fun hc => hne (hc.trans htext)⟩
  · refine ⟨?_, fun _ => View.agrees_edit _ _ _ _⟩
    rintro - ⟨e', b', c', -, hran', -⟩
    simp at hran'

private theorem agrees_pickCompletion_iff {s : Session} (h : s.Agrees) (index : Nat) :
    (s.pickCompletion index).2.Agrees ↔ ¬ s.PickFailsMidway index := by
  have hpick : ∀ b, (s.afterPick b).Agrees := fun b => by
    rw [agrees_iff_view, view_afterPick]
    exact View.agrees_edit _ _ _ _
  rw [pickCompletion_eq]
  unfold PickFailsMidway
  rcases hp : s.picked? index with _ | ⟨_ | name, b⟩
  · simpa using h
  · simpa using hpick b
  · rw [agrees_execCommand_iff (hpick b)]
    simp

/-! ### Operations -/

private theorem agrees_of_view_eq {s t : Session} (h : s.Agrees) (hv : t.view = s.view) : t.Agrees := by
  rw [agrees_iff_view, hv]
  exact agrees_iff_view.1 h

/-- Asking for something leaves the texts apart where a command fails midway, and nowhere else. -/
private theorem agrees_serve_iff {s : Session} (h : s.Agrees) (request : Request) :
    (s.serve request).Agrees ↔
      match request with
      | .exec name => ¬ s.FailsMidway name
      | .pick index => ¬ s.PickFailsMidway index
      | _ => True := by
  cases request with
  | exec name => exact agrees_execCommand_iff h name
  | pick index => exact agrees_pickCompletion_iff h index
  | attach b =>
    refine iff_of_true ?_ trivial
    show (s.attach b).2.Agrees
    rw [agrees_iff_view, view_attach]
    split
    · exact agrees_iff_view.1 h
    · intro t ht
      exact (Option.some.inj ht).symm
  | detach =>
    refine iff_of_true ?_ trivial
    show s.detach.2.Agrees
    rw [agrees_iff_view, view_detach]
    split
    · intro t ht
      simp at ht
    · exact agrees_iff_view.1 h
  | trigger => exact iff_of_true (agrees_of_view_eq h (view_triggerCompletion s)) trivial
  | refresh => exact iff_of_true (agrees_of_view_eq h (view_refreshCompletion s)) trivial
  | close => exact iff_of_true (agrees_of_view_eq h (view_closeCompletion s)) trivial
  | select ranges => exact iff_of_true (agrees_of_view_eq h (view_changeSelection s ranges)) trivial
  | key key => exact iff_of_true (agrees_of_view_eq h (view_handleKey s key)) trivial
  | event event => exact iff_of_true (agrees_of_view_eq h (view_dispatchEvent s event)) trivial
  | runTasks => exact iff_of_true (agrees_of_view_eq h (view_runTasks s)) trivial
  | crash message => exact iff_of_true (agrees_of_view_eq h (view_reportCrash s message)) trivial
  | refreshFormat formats =>
    exact iff_of_true (agrees_of_view_eq h (view_refreshFormat s formats)) trivial
  | drainEvents => exact iff_of_true (agrees_of_view_eq h rfl) trivial

/-- Where the text of the draft changes to that of the revision, so does the text shown. -/
theorem agrees_adopt {s : Session} (h : s.Agrees) (story : Story) (r : Revision) :
    (s.adopt story r).Agrees := by
  rw [agrees_iff_view, view_adopt]
  dsimp only
  generalize hd : (s.draft.retarget ⟨s.nextSerial, story.id, r.passage.id⟩ s.now).2 = draft
  have htext : draft.text = s.draft.text := by rw [← hd, Draft.text_retarget]
  rcases draft.adopt_eq r.passage.text with ha | ⟨-, ha⟩
  · rw [ha]
    intro t ht
    exact (agrees_iff_view.1 h t ht).trans htext.symm
  · rw [ha]
    intro t ht
    obtain ⟨-, -, rfl⟩ := Option.map_eq_some_iff.1 ht
    rfl

private theorem draft_adopt (s : Session) (story : Story) (r : Revision) :
    (s.adopt story r).draft =
      ((s.draft.retarget ⟨s.nextSerial, story.id, r.passage.id⟩ s.now).2.adopt r.passage.text).2 :=
  congrArg View.draft (view_adopt s story r)

@[simp]
theorem isCommitPending_adopt (s : Session) (story : Story) (r : Revision) :
    (s.adopt story r).isCommitPending = s.isCommitPending := by
  rw [isCommitPending, draft_adopt, Draft.isPending, Draft.pending_adopt]
  exact Draft.isPending_retarget _ _ _

/-- With nothing pending, a story that is taken over brings its text. -/
theorem localText_adopt_of_idle {s : Session} (h : s.isCommitPending = false) (story : Story)
    (r : Revision) : (s.adopt story r).localText = r.passage.text := by
  have hidle : (s.draft.retarget ⟨s.nextSerial, story.id, r.passage.id⟩ s.now).2.isPending = false := by
    rw [Draft.isPending_retarget]
    exact h
  rw [localText, draft_adopt]
  exact Draft.text_adopt_of_idle hidle _

end Session

namespace Desk

open Session

/-- The operation runs a command that fails midway. -/
def CutShort (d : Desk) : Op → Prop
  | .request (.exec name) => d.session.FailsMidway name
  | .request (.pick index) => d.session.PickFailsMidway index
  | _ => False

theorem agrees_tick {d : Desk} (h : d.session.Agrees) (now : Nat) : (d.tick now).2.session.Agrees := by
  rw [agrees_iff_view, view_tick]
  intro t ht
  exact (agrees_iff_view.1 h t ht).trans (Draft.text_poll _ _).symm

private theorem agrees_takeOver {d : Desk} (h : d.session.Agrees) (story : Story) :
    (d.takeOver story).session.Agrees := by
  unfold takeOver
  split
  · exact h
  · exact agrees_adopt h story _

private theorem agrees_localChange {d : Desk} (h : d.session.Agrees) (now : Nat) :
    (d.localChange now).2.session.Agrees := by
  rw [agrees_iff_view, (d.localChange_eq now).2]
  split
  · exact agrees_iff_view.1 h
  · split
    · exact agrees_iff_view.1 (agrees_tick h now)
    · exact View.agrees_edit _ _ _ _

/-- Where the buffer shows the text of the session, it does so after an operation unless that runs a
command of the format that changes the text and then fails or panics. -/
theorem agrees_step_iff {d : Desk} (h : d.session.Agrees) (op : Op) :
    (d.step op).session.Agrees ↔ ¬ d.CutShort op := by
  cases op with
  | request request =>
    refine (agrees_serve_iff h request).trans ?_
    cases request <;> simp [CutShort]
  | localChange now => exact iff_of_true (agrees_localChange h now) fun hc => hc
  | storyChange story now =>
    refine iff_of_true ?_ fun hc => hc
    show (d.storyChange story now).2.session.Agrees
    rw [storyChange_eq]
    exact agrees_takeOver (agrees_tick h now) _
  | syncFromStore now =>
    refine iff_of_true ?_ fun hc => hc
    show (d.syncFromStore now).2.session.Agrees
    rw [syncFromStore_eq]
    split
    · exact agrees_tick h now
    · exact agrees_takeOver (agrees_tick h now) _
  | advance now => exact iff_of_true (agrees_tick h now) fun hc => hc

/-! ### A command that types and then fails -/

/-- A format with one command. -/
def typingFormat (command : CommandHook) : Registry :=
  ⟨[(⟨"Harlowe", "3.3.8"⟩, ⟨⟨"Harlowe", "3.3.8"⟩, .loaded, none,
    some ⟨0, { Extensions.empty with commands := [("type", command)] }⟩⟩)], 1⟩

/-- A store with one passage of that format, and a session that shows it. -/
def typingDesk (command : CommandHook) : Option Desk :=
  let store : Store := ⟨[⟨⟨1⟩, "Story", ⟨"Harlowe", "3.3.8"⟩, [⟨0, .fresh ⟨1⟩ "Start" "a" []⟩]⟩], 0, 1⟩
  (Session.open? store (typingFormat command) ⟨1⟩ ⟨1⟩ .default).toOption.map fun s =>
    ⟨store, (s.attach (.ofText "")).2⟩

/-- Types a letter and fails. -/
def typesAndFails : CommandHook := fun b => (b.typeText "x", .failed (.failed "no"))

/-- The letter is on the buffer, but the session does not know of it and will not write it. -/
theorem letter_lost_of_failing_command :
    ((typingDesk typesAndFails).map fun d =>
      let e := d.step (.request (.exec "type"))
      (d.session.buffer.map (·.text), d.session.localText,
        e.session.buffer.map (·.text), e.session.localText, e.session.isCommitPending)) =
      some (some "a", "a", some "ax", "a", false) := by
  decide +kernel

theorem agrees_step_iff_typing :
    ∃ d, typingDesk typesAndFails = some d ∧ d.session.Agrees ∧
      ((d.step (.request (.exec "type"))).session.Agrees ↔ ¬ d.CutShort (.request (.exec "type"))) := by
  have htexts : ((typingDesk typesAndFails).map fun d =>
    (d.session.buffer.map (·.text), d.session.localText)) =
      some (some "a", "a") := by
    decide +kernel
  obtain ⟨d, hd, htext⟩ := Option.map_eq_some_iff.1 htexts
  have h : d.session.Agrees := by
    intro b hb
    simp only [hb, Option.map_some, Prod.mk.injEq, Option.some.injEq] at htext
    exact htext.1.trans htext.2.symm
  exact ⟨d, hd, h, agrees_step_iff h _⟩

end Desk

end PassageEditor
