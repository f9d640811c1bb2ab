import PassageEditor.Proofs.Session.Agreement
import PassageEditor.Proofs.Session.Commit

/-!
# Edits and commits

A commit becomes pending when an edit is taken: of the host, of a pick, or of a command that succeeds.  No
other turn makes one pending, so a run without edits writes nothing and takes over every story that brings
something new (`Desk.edits_of_run`).  A command that succeeds counts as an edit whether or not it has
changed the text.
-/

namespace PassageEditor

namespace Session

/-- A command that succeeds starts the quiet time anew, and any other leaves the commit alone. -/
private theorem deadline_execCommand (s : Session) (name : String) :
    (s.execCommand name).2.draft.deadline? =
      if s.edits (.exec name) then some (s.now + s.draft.delay) else s.draft.deadline? := by
  show (s.execCommand name).2.view.draft.deadline? = if (s.ran? name).any (·.1.isOk) then _ else _
  rw [view_execCommand]
  rcases s.ran? name with _ | ⟨_ | _, b⟩ <;> rfl

/-- The commit of a command that succeeds is the text that it leaves. -/
private theorem pending_execCommand {s : Session} {name : String} {b : Buffer}
    (h : s.ran? name = some (.ok (), b)) :
    (s.execCommand name).2.localText = b.text ∧
      (s.execCommand name).2.draft.pending.map (·.text) = some b.text := by
  have hview := view_execCommand s name
  rw [h] at hview
  have hdraft : (s.execCommand name).2.draft = s.draft.edit b.text s.now := congrArg View.draft hview
  rw [localText, hdraft]
  exact ⟨rfl, rfl⟩

end Session

namespace Desk

variable {d : Desk}

/-- The turn is an edit that the session takes. -/
def Edits (d : Desk) : Turn → Prop
  | .op op => op.MayEdit ∧ d.touches op = true
  | _ => False

/-! ### Turns that are no edits -/

private theorem mayEdit_of_edits {request : Session.Request} (h : d.session.edits request = true) :
    Op.MayEdit (.request request) := by
  cases request with
  | exec name => trivial
  | pick index => trivial
  | _ => simp [Session.edits] at h

/-- A turn that is no edit makes no commit; it may drop or write one that is there, or move it along. -/
theorem pending_of_not_edits {t : Turn} (hno : ¬ d.Edits t) {p' : Pending WriteTarget}
    (hp : (d.turn t).session.draft.pending = some p') :
    ∃ p, d.session.draft.pending = some p ∧ p'.text = p.text := by
  cases t with
  | typed change => exact ⟨p', hp, rfl⟩
  | written change => exact ⟨p', hp, rfl⟩
  | op op =>
    -- what is pending is part of the view
    have hview : ∀ v : Session.View, (d.step op).session.view = v → v.draft.pending = some p' := by
      rintro v rfl
      exact hp
    cases hh : d.hears? op with
    | none =>
      obtain ⟨-, ⟨request, rfl⟩ | ⟨hs, -⟩⟩ := step_unheard hh
      · rcases d.session.serve_cases request with ⟨shown, hv, -⟩ | ⟨text, shown, -, he⟩ | ⟨rfl, hv⟩
        · exact ⟨p', hview _ hv, rfl⟩
        · exact absurd ⟨mayEdit_of_edits he, he⟩ hno
        · exact absurd (hview _ hv) (by simp [Draft.drop])
      · exact ⟨p', hview _ (congrArg Session.view hs), rfl⟩
    | some now =>
      have hbefore : ∀ p, (d.tick now).2.session.draft.pending = some p →
          d.session.draft.pending = some p := by
        intro p hp
        rw [draft_tick] at hp
        exact Draft.pending_of_poll hp
      obtain ⟨-, ⟨hv, -⟩ | ⟨b, rfl, ht, -⟩ | ⟨story, r, -, -, hs⟩⟩ := step_cases hh
      · exact ⟨p', hbefore p' (hview _ hv), rfl⟩
      · exact absurd ⟨trivial, ht⟩ hno
      · have hadopted := hview _ ((congrArg Session.view hs).trans (Session.view_adopt _ story r))
        dsimp only at hadopted
        rw [Draft.pending_adopt] at hadopted
        obtain ⟨p, hp, htext⟩ := Draft.pending_of_retarget hadopted
        exact ⟨p, hbefore p hp, htext⟩

/-! ### With nothing pending -/

theorem store_step_of_idle (h : d.session.isCommitPending = false) (op : Op) :
    (d.step op).store = d.store := by
  cases hh : d.hears? op with
  | none => exact (step_unheard hh).1
  | some now =>
    rw [(step_cases hh).1, tick_eq_of_idle h]

/-- A story that is brought is taken over with its text. -/
private theorem localText_storyChange_of_idle (h : d.session.isCommitPending = false) {story : Story}
    {r : Revision} (hnews : d.session.news? story = some r) (now : Nat) :
    (d.step (.storyChange story now)).session.localText = r.passage.text := by
  show (d.storyChange story now).2.session.localText = _
  have hnews' : (d.tick now).2.session.news? story = some r := by
    rw [tick_eq_of_idle h]
    exact hnews
  have hidle : (d.tick now).2.session.isCommitPending = false := by
    rw [tick_eq_of_idle h]
    exact h
  have hcurrent : d.current story now = story := by simp [current, tick_eq_of_idle h]
  rw [storyChange_eq, hcurrent, takeOver, hnews']
  exact Session.localText_adopt_of_idle hidle story r

private theorem localText_syncFromStore_of_idle (h : d.session.isCommitPending = false) {story : Story}
    {r : Revision} (hstory : d.store.story? d.session.story.id = some story)
    (hnews : d.session.news? story = some r) (now : Nat) :
    (d.step (.syncFromStore now)).session.localText = r.passage.text := by
  show (d.syncFromStore now).2.session.localText = _
  rw [syncFromStore_eq, tick_eq_of_idle h]
  dsimp only
  rw [hstory]
  have hnews' : ({ d.session with now := max d.session.now now } : Session).news? story = some r := hnews
  have hidle : ({ d.session with now := max d.session.now now } : Session).isCommitPending = false := h
  dsimp only
  rw [takeOver]
  dsimp only
  rw [hnews']
  exact Session.localText_adopt_of_idle hidle story r

/-! ### A whole run -/

section Run

variable {store : Store} {formats : Registry} {story : StoryId} {passage : PassageId}
  {config : Config} {s : Session}

/-- What is pending after a run is the text that was there right after an edit of the run. -/
private theorem pending_of_run (h : Session.open? store formats story passage config = .ok s)
    (turns : List Turn) {p : Pending WriteTarget}
    (hp : (turns.foldl turn ⟨store, s⟩).session.draft.pending = some p) :
    ∃ before t after, turns = before ++ t :: after ∧ (before.foldl turn ⟨store, s⟩).Edits t ∧
      ((before ++ [t]).foldl turn ⟨store, s⟩).session.localText = p.text := by
  induction turns using List.reverseRecOn generalizing p with
  | nil =>
    obtain ⟨st, r, -, -, hview⟩ := Session.view_open h
    have hidle : s.draft.pending = none := congrArg (·.draft.pending) hview
    exact absurd (hidle.symm.trans hp) (by simp)
  | append_singleton turns t ih =>
    by_cases he : (turns.foldl turn ⟨store, s⟩).Edits t
    · obtain ⟨-, touched, hsteady⟩ := steady_run h (turns ++ [t])
      exact ⟨turns, t, [], rfl, he, (hsteady.text p hp).symm⟩
    · rw [List.foldl_append] at hp
      obtain ⟨q, hq, htext⟩ := pending_of_not_edits he hp
      obtain ⟨before, u, after, rfl, hedits, hlocal⟩ := ih hq
      exact ⟨before, u, after ++ [t], by simp, hedits, hlocal.trans htext.symm⟩

/-- Through any run: a command that succeeds makes its text pending, due the quiet time from now, and any
other leaves the commit as it is.  What is pending is the text of an edit of the run.  So after a run
without edits nothing is pending, no operation writes to the store, and a story with news is taken over
with its text. -/
theorem edits_of_run (h : Session.open? store formats story passage config = .ok s) (turns : List Turn) :
    let run := fun turns : List Turn => turns.foldl turn ⟨store, s⟩
    let d := run turns
    (∀ name, let e := d.step (.request (.exec name))
      e.session.draft.deadline? =
          (if d.session.edits (.exec name) then some (d.session.now + config.debounce)
            else d.session.draft.deadline?) ∧
        ∀ b, d.session.ran? name = some (.ok (), b) →
          e.session.localText = b.text ∧ e.session.draft.pending.map (·.text) = some b.text) ∧
    (∀ p, d.session.draft.pending = some p →
      ∃ before t after, turns = before ++ t :: after ∧ (run before).Edits t ∧
        (run (before ++ [t])).session.localText = p.text) ∧
    ((∀ before t, before ++ [t] <+: turns → ¬ (run before).Edits t) →
      d.session.isCommitPending = false ∧ (∀ op, (d.step op).store = d.store) ∧
        ∀ story r now, d.session.news? story = some r →
          (d.step (.storyChange story now)).session.localText = r.passage.text ∧
            (d.store.story? d.session.story.id = some story →
              (d.step (.syncFromStore now)).session.localText = r.passage.text)) := by
  intro run d
  have hpending : ∀ p, d.session.draft.pending = some p → ∃ before t after, turns = before ++ t :: after ∧
      (run before).Edits t ∧ (run (before ++ [t])).session.localText = p.text :=
    fun p => pending_of_run h turns
  refine ⟨fun name => ⟨?_, fun b hran => Session.pending_execCommand hran⟩, hpending, fun hno => ?_⟩
  · obtain ⟨hconfig, touched, hsteady⟩ := steady_run h turns
    have hdelay : d.session.draft.delay = config.debounce :=
      hsteady.delay.trans (congrArg Config.debounce hconfig)
    rw [← hdelay]
    exact Session.deadline_execCommand d.session name
  · have hidle : d.session.isCommitPending = false := by
      cases hp : d.session.draft.pending with
      | none => simp [Session.isCommitPending, Draft.isPending, hp]
      | some p =>
        obtain ⟨before, t, after, hturns, hedits, -⟩ := hpending p hp
        exact absurd hedits (hno before t ⟨after, by simp [hturns]⟩)
    exact ⟨hidle, store_step_of_idle hidle, fun story r now hnews =>
      ⟨localText_storyChange_of_idle hidle hnews now,
        fun hstory => localText_syncFromStore_of_idle hidle hstory hnews now⟩⟩

/-- The buffer is attached and the cursor moved by the user; then others write another text. -/
def readWhileUpdated : List Turn :=
  [.op (.request (.attach (.ofText ""))), .op (.request (.select [.cursor .origin])),
    .written (·.updatePassage ⟨1⟩ ⟨1⟩ (.ofText "new"))]

/-- The other text is taken over, whereas a command at this moment would make the old one pending. -/
theorem edits_of_run_reading :
    ∃ s, Session.open? smallStore .empty ⟨1⟩ ⟨1⟩ .default = .ok s ∧
      let d := readWhileUpdated.foldl turn ⟨smallStore, s⟩
      d.session.isCommitPending = false ∧ d.session.localText = "a" ∧
        (d.step (.syncFromStore 0)).session.localText = "new" ∧
        d.session.edits (.exec "goDocStart") = true ∧
        (d.step (.request (.exec "goDocStart"))).session.draft.deadline? = some 1000 := by
  have hvalues : ((Session.open? smallStore .empty ⟨1⟩ ⟨1⟩ .default).toOption.map fun s =>
      let d := readWhileUpdated.foldl turn ⟨smallStore, s⟩
      (d.session.localText, d.session.now, d.session.edits (.exec "goDocStart"),
        (d.store.story? d.session.story.id).bind fun st => (d.session.news? st).map (·.passage.text))) =
      some ("a", 0, true, some "new") := by
    decide +kernel
  rcases h : Session.open? smallStore .empty ⟨1⟩ ⟨1⟩ .default with e | s
  · simp [h, Except.toOption] at hvalues
  rw [h, Except.toOption, Option.map_some, Option.some.injEq] at hvalues
  simp only [Prod.mk.injEq] at hvalues
  obtain ⟨hlocal, hnow, hedits, hupdate⟩ := hvalues
  obtain ⟨st, hst, hnews⟩ := Option.bind_eq_some_iff.1 hupdate
  obtain ⟨r, hr, htext⟩ := Option.map_eq_some_iff.1 hnews
  have hnone : ∀ before t, before ++ [t] <+: readWhileUpdated →
      ¬ (before.foldl turn ⟨smallStore, s⟩).Edits t := by
    intro before t hprefix
    have ht : t ∈ readWhileUpdated := hprefix.subset (by simp)
    simp only [readWhileUpdated, List.mem_cons, List.not_mem_nil, or_false] at ht
    rcases ht with rfl | rfl | rfl <;> simp [Edits, Op.MayEdit]
  obtain ⟨hcommand, -, hidle⟩ := edits_of_run h readWhileUpdated
  obtain ⟨hpending, -, hover⟩ := hidle hnone
  have hdeadline := (hcommand "goDocStart").1
  rw [if_pos hedits, hnow] at hdeadline
  exact ⟨s, rfl, hpending, hlocal, ((hover st r 0 hr).2 hst).trans htext, hedits, hdeadline⟩

/-! ### A command that changes nothing -/

/-- The buffer is attached and the cursor sent to the start. -/
def cursorSent : List Turn := [.op (.request (.attach (.ofText ""))), .op (.request (.exec "goDocStart"))]

/-- Then others write another text and the session is told. -/
def cursorSentBeforeUpdate : List Turn :=
  cursorSent ++ [.written (·.updatePassage ⟨1⟩ ⟨1⟩ (.ofText "new")), .op (.syncFromStore 0)]

/-- Sending the cursor to the start makes the old text pending: the new one is not taken over, and it is
overwritten when the quiet time is over. -/
theorem update_overwritten_after_cursor_sent :
    ((Session.open? smallStore .empty ⟨1⟩ ⟨1⟩ .default).toOption.map fun s =>
      let texts := fun d : Desk => (d.session.view.shown, d.session.localText, d.session.draft.deadline?,
        (d.store.passage? ⟨1⟩ ⟨1⟩).map (·.passage.text))
      let run := fun turns : List Turn => turns.foldl turn ⟨smallStore, s⟩
      [texts (run (cursorSent.take 1)), texts (run cursorSent), texts (run cursorSentBeforeUpdate),
        texts (run (cursorSentBeforeUpdate ++ [.op (.advance 1000)]))]) =
      some [(some "a", "a", none, some "a"), (some "a", "a", some 1000, some "a"),
        (some "a", "a", some 1000, some "new"), (some "a", "a", none, some "a")] := by
  decide +kernel

end Run

end Desk

end PassageEditor
