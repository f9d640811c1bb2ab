import Mathlib.Data.List.Induction
import PassageEditor.Proofs.Commit.Draft
import PassageEditor.Proofs.Session.Run

/-!
# Commits through a run

A session and the store go through a run together with a clock and the time of the last edit (`Watched`).
Whenever a commit is pending, it holds the text of the session and the passage that the session is on, and
it is due a fixed time after the last edit (`Steady`).  Every turn keeps this (`Watched.steady_turn`), and
so a run does nothing to the store but write the text of the session when that time has come
(`commits_of_run`).
-/

namespace PassageEditor

namespace Session

/-- A pending commit has the text, the passage and the deadline that it should have, the last edit being
at `touched`. -/
structure View.Steady (v : View) (touched : Nat) : Prop where
  delay : v.draft.delay = v.config.debounce
  /-- Every target that is still to be made will be a new one. -/
  serial : v.draft.target.serial < v.nextSerial
  story : v.draft.target.story = v.story.id
  passage : v.draft.target.passage = v.revision.passage.id
  text : ∀ p, v.draft.pending = some p → p.text = v.draft.text
  target : ∀ p, v.draft.pending = some p → p.target = v.draft.target
  deadline : ∀ p, v.draft.pending = some p → p.deadline = touched + v.config.debounce

/-- While a commit is pending, a story that is taken over changes no text. -/
private theorem adopt_of_pending {s : Session} (h : s.draft.isPending) (story : Story) (r : Revision) :
    (s.adopt story r).view.draft.isPending ∧ (s.adopt story r).view.draft.text = s.draft.text ∧
      (s.adopt story r).view.shown = s.view.shown := by
  rw [view_adopt]
  dsimp only
  rw [Draft.adopt_of_pending (by rw [Draft.isPending_retarget]; exact h)]
  exact ⟨by rw [Draft.isPending_retarget]; exact h, Draft.text_retarget _ _ _, rfl⟩

namespace View.Steady

variable {v : View} {touched : Nat}

/-- With nothing to write, the draft only has to be that of the passage. -/
private theorem of_idle (hdelay : v.draft.delay = v.config.debounce)
    (hserial : v.draft.target.serial < v.nextSerial) (hstory : v.draft.target.story = v.story.id)
    (hpassage : v.draft.target.passage = v.revision.passage.id) (hidle : v.draft.pending = none)
    (touched : Nat) : v.Steady touched := by
  have hnone : ∀ p, v.draft.pending ≠ some p := by simp [hidle]
  exact ⟨hdelay, hserial, hstory, hpassage, fun p hp => absurd hp (hnone p),
    fun p hp => absurd hp (hnone p),
    fun p hp => absurd hp (hnone p)⟩

/-- What is shown does not matter. -/
private theorem shows (h : v.Steady touched) (shown : Option String) :
    View.Steady { v with shown := shown } touched :=
  ⟨h.delay, h.serial, h.story, h.passage, h.text, h.target, h.deadline⟩

private theorem edit (h : v.Steady touched) (text : String) (now : Nat) (shown : Option String) :
    View.Steady { v with draft := v.draft.edit text now, shown := shown } now where
  delay := h.delay
  serial := h.serial
  story := h.story
  passage := h.passage
  text p hp := by
    rw [Draft.pending_edit, Option.some.injEq] at hp
    rw [← hp]
    rfl
  target p hp := by
    rw [Draft.pending_edit, Option.some.injEq] at hp
    rw [← hp]
    rfl
  deadline p hp := by
    rw [Draft.pending_edit, Option.some.injEq] at hp
    rw [← hp, h.delay]

/-- A draft without its commit. -/
private theorem clear (h : v.Steady touched) (shown : Option String) :
    View.Steady { v with draft := { v.draft with pending := none }, shown := shown } touched := by
  refine of_idle ?_ ?_ ?_ ?_ rfl touched
  exacts [h.delay, h.serial, h.story, h.passage]

theorem tick (h : v.Steady touched) (now : Nat) :
    View.Steady { v with now := now, draft := (v.draft.poll now).2 } touched := by
  rcases v.draft.poll_eq now with hp | ⟨p, -, -, hp⟩ <;> rw [hp]
  · exact ⟨h.delay, h.serial, h.story, h.passage, h.text, h.target, h.deadline⟩
  · refine of_idle ?_ ?_ ?_ ?_ rfl touched
    exacts [h.delay, h.serial, h.story, h.passage]

/-- A story that is taken over is a new target, and so starts the quiet time anew. -/
private theorem adopt (h : v.Steady touched) (story : Story) (r : Revision) (shown : Option String) :
    View.Steady
      { v with
        story := story
        revision := r
        draft :=
        ((v.draft.retarget ⟨v.nextSerial, story.id, r.passage.id⟩ v.now).2.adopt r.passage.text).2
        nextSerial := v.nextSerial + 1
        shown := shown } v.now := by
  have hne : v.draft.target ≠ ⟨v.nextSerial, story.id, r.passage.id⟩ := by
    intro he
    have := h.serial
    rw [he] at this
    exact Nat.lt_irrefl _ this
  rw [Draft.retarget_of_ne hne]
  dsimp only
  cases hp : v.draft.pending with
  | none =>
    let moved : Draft WriteTarget :=
      ⟨v.draft.text, ⟨v.nextSerial, story.id, r.passage.id⟩, v.draft.delay, none⟩
    rcases moved.adopt_eq r.passage.text with ha | ⟨-, ha⟩ <;> rw [Option.map_none, ha]
    · refine of_idle ?_ ?_ ?_ ?_ rfl v.now
      exacts [h.delay, Nat.lt_succ_self _, rfl, rfl]
    · refine of_idle ?_ ?_ ?_ ?_ rfl v.now
      exacts [h.delay, Nat.lt_succ_self _, rfl, rfl]
  | some p =>
    rw [Option.map_some, Draft.adopt_of_pending rfl]
    -- the commit moves along: same text, new passage, and the quiet time from now on
    refine ⟨h.delay, Nat.lt_succ_self _, rfl, rfl, fun q hq => ?_, fun q hq => ?_, fun q hq => ?_⟩
    · obtain rfl := Option.some.inj hq
      exact h.text p hp
    · obtain rfl := Option.some.inj hq
      rfl
    · obtain rfl := Option.some.inj hq
      show v.now + v.draft.delay = _
      rw [h.delay]

end View.Steady

end Session

/-! ### The clock -/

/-- A session and the store, the latest time heard, and what it was at the last edit or story taken
over. -/
structure Watched where
  desk : Desk
  clock : Nat
  touched : Nat

namespace Watched

/-- The clock after an operation. -/
def clockAfter (w : Watched) (op : Desk.Op) : Nat := (w.desk.hears? op).elim w.clock (max w.clock)

def turn (w : Watched) : Desk.Turn → Watched
  | .op op =>
    { desk := w.desk.step op
      clock := w.clockAfter op
      touched := if w.desk.touches op then w.clockAfter op else w.touched }
  | .typed change => { w with desk := w.desk.turn (.typed change) }
  | .written change => { w with desk := w.desk.turn (.written change) }

/-- A commit is pending, and the operation tells that the quiet time since the last edit is over. -/
def Due (w : Watched) (quiet : Nat) (op : Desk.Op) : Prop :=
  w.desk.session.isCommitPending ∧ (w.desk.hears? op).isSome ∧ w.touched + quiet ≤ w.clockAfter op

/-- The session agrees with the clock, and its commit with the last edit. -/
structure Steady (w : Watched) (config : Config) : Prop where
  clock : w.desk.session.now = w.clock
  config : w.desk.session.config = config
  view : w.desk.session.view.Steady w.touched

/-! ### Every turn -/

variable {w : Watched} {config : Config}

private theorem steady_request (h : w.Steady config) (request : Session.Request) :
    (w.turn (.op (.request request))).Steady config := by
  have hview : ∀ v : Session.View, (w.desk.session.serve request).view = v →
      v.now = w.desk.session.now → v.config = w.desk.session.config →
      v.Steady (if w.desk.session.edits request then w.clock else w.touched) →
      (w.turn (.op (.request request))).Steady config := by
    rintro v rfl hnow hconfig hv
    exact ⟨hnow.trans h.clock, hconfig.trans h.config, hv⟩
  rcases w.desk.session.serve_cases request with ⟨shown, hv, he⟩ | ⟨text, shown, hv, he⟩ | ⟨rfl, hv⟩
  · refine hview _ hv rfl rfl ?_
    rw [he]
    exact h.view.shows shown
  · refine hview _ hv rfl rfl ?_
    rw [he, if_pos rfl, ← h.clock]
    exact h.view.edit text _ shown
  · exact hview _ hv rfl rfl (h.view.clear none)

private theorem steady_op (h : w.Steady config) (op : Desk.Op) : (w.turn (.op op)).Steady config := by
  cases hh : w.desk.hears? op with
  | none =>
    have hclock : w.clockAfter op = w.clock := by simp [clockAfter, hh]
    obtain ⟨-, ⟨request, rfl⟩ | ⟨hs, ht⟩⟩ := Desk.step_unheard hh
    · exact steady_request h request
    · refine ⟨?_, ?_, ?_⟩
      · show (w.desk.step op).session.now = w.clockAfter op
        rw [hs, hclock, h.clock]
      · show (w.desk.step op).session.config = config
        rw [hs, h.config]
      · show (w.desk.step op).session.view.Steady (if w.desk.touches op then w.clockAfter op
          else w.touched)
        rw [hs, ht]
        exact h.view
  | some now =>
    have hclock : w.clockAfter op = (w.desk.tick now).2.session.now := by
      rw [Desk.session_now_tick, h.clock]
      simp [clockAfter, hh]
    have htick : (w.desk.tick now).2.session.view.Steady w.touched := by
      rw [Desk.view_tick]
      exact h.view.tick _
    have hconfig : (w.desk.tick now).2.session.config = config :=
      (congrArg Session.View.config (w.desk.view_tick now)).trans h.config
    have hview : ∀ v : Session.View, (w.desk.step op).session.view = v →
        v.now = (w.desk.tick now).2.session.now →
        v.config = (w.desk.tick now).2.session.config →
        v.Steady (if w.desk.touches op then w.clockAfter op else w.touched) →
          (w.turn (.op op)).Steady config := by
      rintro v rfl hnow hc hv
      exact ⟨hnow.trans hclock.symm, hc.trans hconfig, hv⟩
    obtain ⟨-, ⟨hv, ht⟩ | ⟨b, -, ht, hv⟩ | ⟨story, r, -, ht, hs⟩⟩ := Desk.step_cases hh
    · refine hview _ hv rfl rfl ?_
      rw [ht]
      exact htick
    · refine hview _ hv rfl rfl ?_
      rw [ht, if_pos rfl, hclock]
      exact htick.edit b.text _ _
    · refine hview _ ((congrArg Session.view hs).trans (Session.view_adopt _ story r)) rfl rfl ?_
      rw [ht, if_pos rfl, hclock]
      exact htick.adopt story r _

theorem steady_turn (h : w.Steady config) (turn : Desk.Turn) : (w.turn turn).Steady config := by
  cases turn with
  | op op => exact steady_op h op
  | typed change =>
    refine ⟨h.clock, h.config, ?_⟩
    show (w.desk.session.editBuffer change).view.Steady w.touched
    exact h.view.shows _
  | written change => exact ⟨h.clock, h.config, h.view⟩

/-! ### What a turn does to the commit -/

/-- The commit is due when its deadline is over. -/
private theorem due_iff (h : w.Steady config) {op : Desk.Op} {now : Nat}
    (hh : w.desk.hears? op = some now) :
    w.Due config.debounce op ↔
      ∃ p, w.desk.session.draft.pending = some p ∧ p.deadline ≤ max w.desk.session.now now := by
  have hclock : w.clockAfter op = max w.desk.session.now now := by simp [clockAfter, hh, h.clock]
  have hdeadline : ∀ p, w.desk.session.draft.pending = some p →
      p.deadline = w.touched + config.debounce := by
    intro p hp
    rw [← h.config]
    exact h.view.deadline p hp
  unfold Due Session.isCommitPending Draft.isPending
  rw [hh, hclock]
  constructor
  · rintro ⟨hp, -, hdue⟩
    obtain ⟨p, hp⟩ := Option.isSome_iff_exists.1 hp
    exact ⟨p, hp, Nat.le_trans (Nat.le_of_eq (hdeadline p hp)) hdue⟩
  · rintro ⟨p, hp, hdue⟩
    exact ⟨by simp [hp], rfl, Nat.le_trans (Nat.le_of_eq (hdeadline p hp).symm) hdue⟩

private theorem not_due_of_unheard {op : Desk.Op} (hh : w.desk.hears? op = none) (quiet : Nat) :
    ¬ w.Due quiet op := by
  simp [Due, hh]

/-- The store changes when a commit is due, and then by one update with the text of the session. -/
private theorem store_op (h : w.Steady config) (op : Desk.Op) :
    (w.Due config.debounce op → (w.turn (.op op)).desk.store =
      w.desk.store.updatePassage w.desk.session.story.id w.desk.session.revision.passage.id
        (.ofText w.desk.session.localText)) ∧
      (¬ w.Due config.debounce op → (w.turn (.op op)).desk.store = w.desk.store) := by
  cases hh : w.desk.hears? op with
  | none => exact ⟨fun hdue => absurd hdue (not_due_of_unheard hh _), fun _ => (Desk.step_unheard hh).1⟩
  | some now =>
    have hstore : (w.turn (.op op)).desk.store = (w.desk.tick now).2.store := (Desk.step_cases hh).1
    rw [hstore, due_iff h hh]
    constructor
    · rintro ⟨p, hp, hdue⟩
      rw [Desk.store_tick_of_due hp hdue, h.view.target p hp, h.view.text p hp,
        h.view.story, h.view.passage]
      rfl
    · intro hno
      exact (Desk.tick_of_not_due fun p hp hdue => hno ⟨p, hp, hdue⟩).1

/-- While a commit is pending and not due, it stays unless the buffer is detached, the text of the session
stays unless it is edited, and a story that is brought does not change the text shown. -/
private theorem pending_op (h : w.Steady config) {op : Desk.Op} (hp : w.desk.session.isCommitPending)
    (hd : ¬ w.Due config.debounce op) :
    let s := (w.turn (.op op)).desk.session
    (s.isCommitPending ∨ op = .request .detach) ∧ (s.localText = w.desk.session.localText ∨ op.MayEdit) ∧
      (op.BringsStory → s.view.shown = w.desk.session.view.shown) := by
  -- all of this is about the view
  suffices hview : ∃ v : Session.View, (w.desk.step op).session.view = v ∧
      (v.draft.isPending ∨ op = .request .detach) ∧
      (v.draft.text = w.desk.session.localText ∨ op.MayEdit) ∧
        (op.BringsStory → v.shown = w.desk.session.view.shown) by
    obtain ⟨_, rfl, hv⟩ := hview
    exact hv
  cases hh : w.desk.hears? op with
  | none =>
    obtain ⟨-, ⟨request, rfl⟩ | ⟨hs, -⟩⟩ := Desk.step_unheard hh
    · rcases w.desk.session.serve_cases request with ⟨shown, hv, -⟩ | ⟨text, shown, hv, he⟩ | ⟨rfl, hv⟩
      · exact ⟨_, hv, .inl hp, .inl rfl, fun hb => hb.elim⟩
      · refine ⟨_, hv, .inl rfl, .inr ?_, fun hb => hb.elim⟩
        cases request <;> simp_all [Session.edits, Desk.Op.MayEdit]
      · exact ⟨_, hv, .inr rfl, .inl rfl, fun hb => hb.elim⟩
    · exact ⟨_, congrArg Session.view hs, .inl hp, .inl rfl, fun _ => rfl⟩
  | some now =>
    have hdraft : (w.desk.tick now).2.session.draft = w.desk.session.draft :=
      (Desk.tick_of_not_due fun p hp hdue => hd ((due_iff h hh).2 ⟨p, hp, hdue⟩)).2
    have hpending : (w.desk.tick now).2.session.draft.isPending := by
      rw [hdraft]
      exact hp
    have htext : (w.desk.tick now).2.session.draft.text = w.desk.session.localText := by
      rw [hdraft]
      rfl
    have hshown : (w.desk.tick now).2.session.view.shown = w.desk.session.view.shown := by
      rw [Desk.view_tick]
    obtain ⟨-, ⟨hv, -⟩ | ⟨b, rfl, -, hv⟩ | ⟨story, r, -, -, hs⟩⟩ := Desk.step_cases hh
    · exact ⟨_, hv, .inl hpending, .inl htext, fun _ => hshown⟩
    · exact ⟨_, hv, .inl rfl, .inr trivial, fun hb => hb.elim⟩
    · obtain ⟨hp', ht', hs'⟩ := Session.adopt_of_pending hpending story r
      exact ⟨_, congrArg Session.view hs, .inl hp', .inl (ht'.trans htext), fun _ => hs'.trans hshown⟩

end Watched

/-! ### A whole run -/

section Run

variable {store : Store} {formats : Registry} {story : StoryId} {passage : PassageId}
  {config : Config} {s : Session}

/-- A session that has just been opened has nothing to write. -/
private theorem Session.steady_open (h : Session.open? store formats story passage config = .ok s) :
    s.now = 0 ∧ s.config = config ∧ s.view.Steady 0 := by
  obtain ⟨st, r, hst, hr, hview⟩ := Session.view_open h
  have hstory : st.id = story := by simpa using List.find?_some hst
  have hpassage : r.passage.id = passage := by simpa using List.find?_some hr
  refine ⟨congrArg View.now hview, congrArg View.config hview, ?_⟩
  rw [hview]
  exact View.Steady.of_idle rfl Nat.one_pos hstory.symm hpassage.symm rfl 0

/-- The desk with a session that has just been opened, and the clock at its start. -/
def Watched.opened (store : Store) (s : Session) : Watched := ⟨⟨store, s⟩, 0, 0⟩

theorem Watched.steady_run (h : Session.open? store formats story passage config = .ok s)
    (turns : List Desk.Turn) : (turns.foldl Watched.turn (Watched.opened store s)).Steady config := by
  obtain ⟨hnow, hconfig, hview⟩ := Session.steady_open h
  induction turns using List.reverseRecOn with
  | nil => exact ⟨hnow, hconfig, hview⟩
  | append_singleton turns turn ih =>
    rw [List.foldl_append]
    exact Watched.steady_turn ih turn

/-- The clock is a spectator. -/
private theorem Watched.desk_run (w : Watched) (turns : List Desk.Turn) :
    (turns.foldl Watched.turn w).desk = turns.foldl Desk.turn w.desk := by
  refine (List.foldl_hom Watched.desk fun w t => ?_).symm
  cases t <;> rfl

theorem Desk.steady_run (h : Session.open? store formats story passage config = .ok s)
    (turns : List Desk.Turn) :
    let d := turns.foldl Desk.turn ⟨store, s⟩
    d.session.config = config ∧ ∃ touched, d.session.view.Steady touched := by
  have hsteady := Watched.steady_run h turns
  have hdesk := Watched.desk_run (Watched.opened store s) turns
  refine ⟨?_, (turns.foldl Watched.turn (Watched.opened store s)).touched, ?_⟩
  · exact (congrArg (·.session.config) hdesk).symm.trans hsteady.config
  · have hview := hsteady.view
    rwa [hdesk] at hview

/-- Through any run of a session: the clock of the session is the latest time heard; a pending commit has
the text of the session and the passage that it is on, and is due the quiet time after the last edit or
story taken over.  An operation that finds it due writes the text of the session once, before anything
else, and no other operation writes.  A commit that is not due stays pending unless the buffer is
detached, and meanwhile only edits change the text. -/
theorem commits_of_run (h : Session.open? store formats story passage config = .ok s)
    (turns : List Desk.Turn) :
    let w := turns.foldl Watched.turn (Watched.opened store s)
    w.desk.session.now = w.clock ∧
      (∀ p, w.desk.session.draft.pending = some p →
        p.text = w.desk.session.localText ∧ p.target.story = w.desk.session.story.id ∧
          p.target.passage = w.desk.session.revision.passage.id ∧
          p.deadline = w.touched + config.debounce) ∧
      ∀ op, let after := (w.turn (.op op)).desk
        (w.Due config.debounce op → after.store =
          w.desk.store.updatePassage w.desk.session.story.id w.desk.session.revision.passage.id
            (.ofText w.desk.session.localText)) ∧
        (¬ w.Due config.debounce op → after.store = w.desk.store) ∧
        (w.desk.session.isCommitPending → ¬ w.Due config.debounce op →
          (after.session.isCommitPending ∨ op = .request .detach) ∧
            (after.session.localText = w.desk.session.localText ∨ op.MayEdit) ∧
            (op.BringsStory → after.session.buffer.map (·.text) =
              w.desk.session.buffer.map (·.text))) := by
  intro w
  have hw : w.Steady config := Watched.steady_run h turns
  refine ⟨hw.clock, fun p hp => ?_, fun op => ⟨(Watched.store_op hw op).1, (Watched.store_op hw op).2,
    fun hp hd => Watched.pending_op hw hp hd⟩⟩
  have htarget := hw.view.target p hp
  refine ⟨hw.view.text p hp, ?_, ?_, ?_⟩
  · rw [htarget]
    exact hw.view.story
  · rw [htarget]
    exact hw.view.passage
  · rw [← hw.config]
    exact hw.view.deadline p hp

/-- A store with one short passage. -/
def smallStore : Store := ⟨[⟨⟨1⟩, "Story", default, [⟨0, .fresh ⟨1⟩ "Start" "a" []⟩]⟩], 0, 1⟩

/-- A session on that passage; a letter is typed and the time goes on. -/
theorem commits_of_run_typing :
    ∃ s, Session.open? smallStore .empty ⟨1⟩ ⟨1⟩ .default = .ok s ∧
      let w := [Desk.Turn.op (.request (.attach (.ofText ""))),
        .typed (·.typeText "x"), .op (.localChange 5),
        .op (.advance 900)].foldl Watched.turn (Watched.opened smallStore s)
      w.desk.session.now = w.clock ∧
        ∀ p, w.desk.session.draft.pending = some p →
          p.text = w.desk.session.localText ∧ p.deadline = w.touched + Config.default.debounce := by
  have hopen : (Session.open? smallStore .empty ⟨1⟩ ⟨1⟩ .default).isOk := by decide +kernel
  rcases h : Session.open? smallStore .empty ⟨1⟩ ⟨1⟩ .default with e | s
  · simp [h, Except.isOk, Except.toBool] at hopen
  · obtain ⟨hnow, hpending, -⟩ := commits_of_run h [.op (.request (.attach (.ofText ""))),
      .typed (·.typeText "x"),
      .op (.localChange 5), .op (.advance 900)]
    exact ⟨s, rfl, hnow, fun p hp => ⟨(hpending p hp).1, (hpending p hp).2.2.2⟩⟩

end Run

end PassageEditor
