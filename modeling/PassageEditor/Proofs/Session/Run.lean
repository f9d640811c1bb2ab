import Mathlib.Data.List.Induction
import PassageEditor.Proofs.Session.Frames

/-!
# Runs of a session

All that can happen to a session, one step after the other: what the host asks of it, with or without a
word of the time, what the host types into the buffer, and what others write to the store.  A step that
tells the time begins with the write that is due (`Desk.tick`); hearing the same time twice is hearing it
once (`tick_tick`).
-/

namespace PassageEditor

namespace Session

/-- What the host asks for without telling the time. -/
inductive Request
  | attach (b : Buffer)
  | detach
  | exec (name : String)
  | pick (index : Nat)
  | trigger
  | refresh
  | close
  | select (ranges : List Selection)
  | key (key : String)
  | event (event : Event)
  | runTasks
  | crash (message : String)
  | refreshFormat (formats : Registry)
  | drainEvents

def serveM {m : Type → Type} [Monad m] [CallsFormat m] (s : Session) : Request → m Session
  | .attach b => (·.2) <$> s.attachM b
  | .detach => pure s.detach.2
  | .exec name => (·.2) <$> s.execCommandM name
  | .pick index => (·.2) <$> s.pickCompletionM index
  | .trigger => (·.2) <$> s.triggerCompletionM
  | .refresh => (·.2) <$> s.refreshCompletionM
  | .close => pure s.closeCompletion
  | .select ranges => (·.2) <$> s.changeSelectionM ranges
  | .key key => pure (s.handleKey key).2
  | .event event => pure (s.dispatchEvent event).2
  | .runTasks => (·.2) <$> s.runTasksM
  | .crash message => pure (s.reportCrash message).2
  | .refreshFormat formats => (·.2) <$> s.refreshFormatM formats
  | .drainEvents => pure s.drainEvents.2

def serve (s : Session) (request : Request) : Session := Id.run (s.serveM request)

/-- Several operations of a kind, one after the other, and how they are answered. -/
def each {α β : Type} (op : Session → α → Result β) :
    Session → List α → List (Except SessionError β) × Session
  | s, [] => ([], s)
  | s, x :: rest => ((op s x).1 :: (each op (op s x).2 rest).1, (each op (op s x).2 rest).2)

/-- Whether a request edits the text: a command that succeeds, or the pick of an entry that is there. -/
def edits (s : Session) : Request → Bool
  | .exec name => (s.ran? name).any (·.1.isOk)
  | .pick index => (s.picked? index).isSome
  | _ => false

private theorem execCommand_cases (s : Session) (name : String) :
    (∃ shown, (s.execCommand name).2.view = { s.view with shown := shown } ∧
      (s.ran? name).any (·.1.isOk) = false) ∨
      ∃ text shown, (s.execCommand name).2.view =
        { s.view with draft := s.draft.edit text s.now, shown := shown } ∧
        (s.ran? name).any (·.1.isOk) = true := by
  rw [view_execCommand]
  rcases s.ran? name with _ | ⟨e | u, b⟩
  · exact .inl ⟨s.view.shown, rfl, rfl⟩
  · exact .inl ⟨some b.text, rfl, rfl⟩
  · exact .inr ⟨b.text, some b.text, rfl, rfl⟩

/-- Of the view, a request changes the text shown alone, unless it edits the text or detaches the
buffer. -/
theorem serve_cases (s : Session) (request : Request) :
    (∃ shown, (s.serve request).view = { s.view with shown := shown } ∧ s.edits request = false) ∨
      (∃ text shown, (s.serve request).view =
        { s.view with draft := s.draft.edit text s.now, shown := shown } ∧
        s.edits request = true) ∨
      request = .detach ∧ (s.serve request).view =
        { s.view with draft := s.draft.drop.2, shown := none } := by
  cases request with
  | attach b =>
    left
    show ∃ shown, (s.attach b).2.view = { s.view with shown := shown } ∧ _
    rw [view_attach]
    split
    · exact ⟨s.view.shown, rfl, rfl⟩
    · exact ⟨some s.localText, rfl, rfl⟩
  | detach =>
    have hdetach : (s.serve .detach).view = _ := view_detach s
    by_cases hb : s.buffer.isSome
    · exact .inr (.inr ⟨rfl, hdetach.trans (if_pos hb)⟩)
    · exact .inl ⟨s.view.shown, hdetach.trans (if_neg hb), rfl⟩
  | exec name => exact (execCommand_cases s name).imp_right .inl
  | pick index =>
    show (∃ shown, (s.pickCompletion index).2.view = _ ∧ (s.picked? index).isSome = false) ∨
      (∃ text shown, (s.pickCompletion index).2.view = _ ∧ (s.picked? index).isSome = true) ∨ _
    rw [pickCompletion_eq]
    rcases s.picked? index with _ | ⟨_ | name, b⟩
    · exact .inl ⟨s.view.shown, rfl, rfl⟩
    · exact .inr (.inl ⟨b.text, some b.text, view_afterPick s b, rfl⟩)
    · -- the command comes on top of the edit, and a second edit takes the place of the first
      have hpick := view_afterPick s b
      have hdraft : (s.afterPick b).draft = s.draft.edit b.text s.now := congrArg (·.draft) hpick
      have hnow : (s.afterPick b).now = s.now := congrArg (·.now) hpick
      rcases execCommand_cases (s.afterPick b) name with ⟨shown, hv, -⟩ | ⟨text, shown, hv, -⟩
      · refine .inr (.inl ⟨b.text, shown, ?_, rfl⟩)
        rw [hv, hpick]
      · refine .inr (.inl ⟨text, shown, ?_, rfl⟩)
        rw [hv, hpick, hdraft, hnow]
        rfl
  | trigger => exact .inl ⟨_, view_triggerCompletion s, rfl⟩
  | refresh => exact .inl ⟨_, view_refreshCompletion s, rfl⟩
  | close => exact .inl ⟨_, view_closeCompletion s, rfl⟩
  | select ranges => exact .inl ⟨_, view_changeSelection s ranges, rfl⟩
  | key key => exact .inl ⟨_, view_handleKey s key, rfl⟩
  | event event => exact .inl ⟨_, view_dispatchEvent s event, rfl⟩
  | runTasks => exact .inl ⟨_, view_runTasks s, rfl⟩
  | crash message => exact .inl ⟨_, view_reportCrash s message, rfl⟩
  | refreshFormat formats => exact .inl ⟨_, view_refreshFormat s formats, rfl⟩
  | drainEvents => exact .inl ⟨s.view.shown, rfl, rfl⟩

/-- The revision of its passage in a story, if there is anything new in the story. -/
def news? (s : Session) (story : Story) : Option Revision :=
  (story.find? s.revision.passage.id).filter fun r =>
    ¬ (r.stamp = s.revision.stamp ∧ story.samePassages s.story)

theorem news?_of_find? {s : Session} {story : Story} {r : Revision}
    (h : story.find? s.revision.passage.id = some r) :
    s.news? story = if r.stamp = s.revision.stamp ∧ story.samePassages s.story then none else some r := by
  rw [news?, h]
  by_cases hsame : r.stamp = s.revision.stamp ∧ story.samePassages s.story
  · rw [if_pos hsame]
    exact Option.filter_eq_none_iff.2 fun q hq => by simp [← Option.some.inj hq, hsame]
  · rw [if_neg hsame]
    exact Option.filter_eq_some_iff.2 ⟨rfl, decide_eq_true hsame⟩

theorem find?_of_news? {s : Session} {story : Story} {r : Revision} (h : s.news? story = some r) :
    story.find? s.revision.passage.id = some r := (Option.filter_eq_some_iff.1 h).1

theorem news?_eq_some {s : Session} {story : Story} {r : Revision} (h : s.news? story = some r) :
    r ∈ story.passages ∧ r.passage.id = s.revision.passage.id :=
  ⟨List.mem_of_find?_eq_some (find?_of_news? h), by simpa using List.find?_some (find?_of_news? h)⟩

end Session

namespace Desk

inductive Op
  | request (request : Session.Request)
  | localChange (now : Nat)
  | storyChange (story : Story) (now : Nat)
  | syncFromStore (now : Nat)
  | advance (now : Nat)

section Calls

variable {m : Type → Type} [Monad m] [CallsFormat m]

def stepM (d : Desk) : Op → m Desk
  | .request request => (fun s => { d with session := s }) <$> d.session.serveM request
  | .localChange now => (·.2) <$> d.localChangeM now
  | .storyChange story now => (·.2) <$> d.storyChangeM story now
  | .syncFromStore now => (·.2) <$> d.syncFromStoreM now
  | .advance now => pure (d.tick now).2

end Calls

def step (d : Desk) (op : Op) : Desk := Id.run (d.stepM op)

/-- One thing that happens. -/
inductive Turn
  | op (op : Op)
  /-- The host changes the attached buffer by itself. -/
  | typed (change : Buffer → Buffer)
  /-- Others change the store. -/
  | written (change : Store → Store)

def turnM {m : Type → Type} [Monad m] [CallsFormat m] (d : Desk) : Turn → m Desk
  | .op op => d.stepM op
  | .typed change => pure { d with session := d.session.editBuffer change }
  | .written change => pure { d with store := change d.store }

def turn (d : Desk) (t : Turn) : Desk := Id.run (d.turnM t)

/-- What holds at the start holds after a run of which each turn, at the place where it stands, keeps
it. -/
theorem holds_after_run {σ τ : Type} {step : σ → τ → σ} {P : σ → Prop} {start : σ} (hstart : P start)
    (turns : List τ)
    (hkeep : ∀ before t, before ++ [t] <+: turns → P (before.foldl step start) →
      P (step (before.foldl step start) t)) :
    P (turns.foldl step start) := by
  induction turns using List.reverseRecOn with
  | nil => exact hstart
  | append_singleton turns t ih =>
    have hbefore : P (turns.foldl step start) :=
      ih fun before t' hp => hkeep before t' (hp.trans (List.prefix_append _ _))
    rw [List.foldl_append]
    exact hkeep turns t (List.prefix_refl _) hbefore

/-! ### Time -/

/-- Of a session, time moves the clock and the draft alone. -/
theorem session_tick (d : Desk) (now : Nat) :
    (d.tick now).2.session =
      { d.session with
        now := max d.session.now now
        draft := (d.session.draft.poll (max d.session.now now)).2 } := by
  unfold tick
  dsimp only
  split <;> rename_i h <;> rw [h]

theorem session_now_tick (d : Desk) (now : Nat) : (d.tick now).2.session.now = max d.session.now now :=
  congrArg (·.now) (d.view_tick now)

theorem draft_tick (d : Desk) (now : Nat) :
    (d.tick now).2.session.draft = (d.session.draft.poll (max d.session.now now)).2 :=
  congrArg (·.draft) (d.view_tick now)

/-- A write that was due is gone, and none comes due at the same time. -/
theorem tick_tick (d : Desk) (now : Nat) : (d.tick now).2.tick now = (false, (d.tick now).2) := by
  have hnow : max (d.tick now).2.session.now now = (d.tick now).2.session.now := by
    rw [session_now_tick]
    omega
  have hpoll : (d.tick now).2.session.draft.poll (d.tick now).2.session.now =
      (none, (d.tick now).2.session.draft) := by
    rw [draft_tick, session_now_tick]
    unfold Draft.poll
    cases hp : d.session.draft.pending with
    | none => simp [hp]
    | some p =>
      by_cases hdue : p.deadline ≤ max d.session.now now
      · simp [hdue]
      · simp [hdue, hp]
  generalize (d.tick now).2 = e at hnow hpoll
  unfold tick
  simp only [hnow, hpoll]

theorem store_tick_of_due {d : Desk} {now : Nat} {p : Pending WriteTarget}
    (hp : d.session.draft.pending = some p) (hdue : p.deadline ≤ max d.session.now now) :
    (d.tick now).2.store = d.store.updatePassage p.target.story p.target.passage (.ofText p.text) := by
  unfold tick Draft.poll
  simp only [hp, if_pos hdue]

theorem tick_of_not_due {d : Desk} {now : Nat}
    (h : ∀ p, d.session.draft.pending = some p → ¬ p.deadline ≤ max d.session.now now) :
    (d.tick now).2.store = d.store ∧ (d.tick now).2.session.draft = d.session.draft := by
  unfold tick Draft.poll
  cases hp : d.session.draft.pending with
  | none => exact ⟨rfl, rfl⟩
  | some p => simp [h p hp]

/-- With no commit pending, hearing the time is all there is. -/
theorem tick_eq_of_idle {d : Desk} (h : d.session.isCommitPending = false) (now : Nat) :
    d.tick now = (false, { d with session := { d.session with now := max d.session.now now } }) := by
  have hnone : d.session.draft.pending = none := Option.not_isSome_iff_eq_none.1 (Bool.eq_false_iff.1 h)
  unfold tick Draft.poll
  simp only [hnone]

/-! ### Taking a story over -/

/-- Takes a story over if there is anything new in it. -/
def takeOver (d : Desk) (story : Story) : Desk :=
  match d.session.news? story with
  | none => d
  | some r => { d with session := d.session.adopt story r }

/-- The story that counts when the host brings one: that of the store if a write has just made the other
out of date. -/
def current (d : Desk) (story : Story) (now : Nat) : Story :=
  if (d.tick now).1 then ((d.tick now).2.store.story? story.id).getD story else story

private theorem takeOver_eq (d : Desk) (story : Story) :
    (match story.find? d.session.revision.passage.id with
      | none => (.error (.passageNotFound d.session.revision.passage.id), d)
      | some r =>
        if r.stamp = d.session.revision.stamp ∧ story.samePassages d.session.story then (.ok (), d)
        else (.ok (), { d with session := d.session.adopt story r }) :
            Except SessionError Unit × Desk).2 =
      d.takeOver story := by
  unfold takeOver Session.news?
  cases story.find? d.session.revision.passage.id with
  | none => rfl
  | some r =>
    by_cases h : r.stamp = d.session.revision.stamp ∧ story.samePassages d.session.story
    · simp only [h, Option.filter]
      rfl
    · simp only [h, Option.filter, not_false_eq_true, decide_true, ↓reduceIte]

theorem storyChange_eq (d : Desk) (story : Story) (now : Nat) :
    (d.storyChange story now).2 = (d.tick now).2.takeOver (d.current story now) := by
  rw [← takeOver_eq]
  rfl

theorem syncFromStore_eq (d : Desk) (now : Nat) :
    (d.syncFromStore now).2 =
      match (d.tick now).2.store.story? (d.tick now).2.session.story.id with
      | none => (d.tick now).2
      | some story => (d.tick now).2.takeOver story := by
  rw [syncFromStore_def]
  dsimp only
  cases (d.tick now).2.store.story? (d.tick now).2.session.story.id with
  | none => rfl
  | some story =>
    dsimp only
    rw [storyChange_eq, current, tick_tick]
    rfl

section Keeps

variable {P : Session → Prop}

private theorem keeps_takeOver {d : Desk} (h : P d.session)
    (hadopt : ∀ s, P s → ∀ story r, P (s.adopt story r)) (story : Story) :
    P (d.takeOver story).session := by
  unfold takeOver
  split
  · exact h
  · exact hadopt d.session h story _

/-- What the clock and a story that is taken over keep is kept where the host brings a story, -/
theorem keeps_storyChange {d : Desk} (htick : ∀ now, P (d.tick now).2.session)
    (hadopt : ∀ s, P s → ∀ story r, P (s.adopt story r)) (story : Story) (now : Nat) :
    P (d.storyChange story now).2.session := by
  rw [storyChange_eq]
  exact keeps_takeOver (htick now) hadopt _

/-- and where it is read from the store. -/
theorem keeps_syncFromStore {d : Desk} (htick : ∀ now, P (d.tick now).2.session)
    (hadopt : ∀ s, P s → ∀ story r, P (s.adopt story r)) (now : Nat) :
    P (d.syncFromStore now).2.session := by
  rw [syncFromStore_eq]
  split
  · exact htick now
  · exact keeps_takeOver (htick now) hadopt _

end Keeps

/-! ### Edits of the host -/

theorem localChange_eq (d : Desk) (now : Nat) :
    (d.localChange now).2.store = (if d.session.health = .crashed then d else (d.tick now).2).store ∧
      (d.localChange now).2.session.view =
        if d.session.health = .crashed then d.session.view
        else
          match (d.tick now).2.session.buffer with
          | none => (d.tick now).2.session.view
          | some b =>
            { (d.tick now).2.session.view with
              draft := (d.tick now).2.session.draft.edit b.text (d.tick now).2.session.now
              shown := some b.text } := by
  rw [localChange_def]
  by_cases hl : d.session.health = .crashed
  · simp [hl]
  simp only [if_neg hl]
  generalize (d.tick now).2 = e
  rw [Session.withBuffer_def]
  refine ⟨trivial, ?_⟩
  cases e.session.buffer with
  | none => rfl
  | some b =>
    dsimp only
    rw [← Session.view_bufferChanged]
    exact Session.view_followEdit _

/-! ### What an operation that tells the time does -/

theorem buffer_tick (d : Desk) (now : Nat) : (d.tick now).2.session.buffer = d.session.buffer := by
  rw [session_tick]

/-- The time that an operation tells, where it is heard. -/
def hears? (d : Desk) : Op → Option Nat
  | .request _ => none
  | .localChange now => if d.session.health = .crashed then none else some now
  | .storyChange _ now => some now
  | .syncFromStore now => some now
  | .advance now => some now

/-- Whether an operation is an edit, or brings a story that is taken over. -/
def touches (d : Desk) : Op → Bool
  | .request request => d.session.edits request
  | .localChange _ => d.session.health ≠ .crashed && d.session.buffer.isSome
  | .storyChange story now => ((d.tick now).2.session.news? (d.current story now)).isSome
  | .syncFromStore now =>
    ((d.tick now).2.store.story? (d.tick now).2.session.story.id).any fun story =>
      ((d.tick now).2.session.news? story).isSome
  | .advance _ => false

/-- Whether an operation may edit the text. -/
def Op.MayEdit : Op → Prop
  | .request (.exec _) => True
  | .request (.pick _) => True
  | .localChange _ => True
  | _ => False

/-- Whether an operation brings a story. -/
def Op.BringsStory : Op → Prop
  | .storyChange _ _ => True
  | .syncFromStore _ => True
  | _ => False

private theorem takeOver_cases (d : Desk) (story : Story) :
    (d.takeOver story).store = d.store ∧
      ((d.takeOver story).session = d.session ∧ (d.session.news? story).isSome = false ∨
        ∃ r, (d.takeOver story).session = d.session.adopt story r ∧
          (d.session.news? story).isSome = true) := by
  unfold takeOver
  cases d.session.news? story with
  | none => exact ⟨rfl, .inl ⟨rfl, rfl⟩⟩
  | some r => exact ⟨rfl, .inr ⟨r, rfl, rfl⟩⟩

/-- Where no time is heard, the store stays, and a session that is asked for nothing stays as it is. -/
theorem step_unheard {d : Desk} {op : Op} (h : d.hears? op = none) :
    (d.step op).store = d.store ∧
      ((∃ request, op = .request request) ∨ (d.step op).session = d.session ∧ d.touches op = false) := by
  cases op with
  | request request => exact ⟨rfl, .inl ⟨request, rfl⟩⟩
  | localChange now =>
    by_cases hl : d.session.health = .crashed
    · have hstep : d.step (.localChange now) = d := by
        show (d.localChange now).2 = d
        rw [localChange_def, if_pos hl]
      rw [hstep]
      exact ⟨rfl, .inr ⟨rfl, by simp [touches, hl]⟩⟩
    · simp [hears?, hl] at h
  | storyChange story now => simp [hears?] at h
  | syncFromStore now => simp [hears?] at h
  | advance now => simp [hears?] at h

/-- After the write that is due, an operation changes nothing but the session, and of its view nothing
unless it is an edit of the host or brings a story that is taken over. -/
theorem step_cases {d : Desk} {op : Op} {now : Nat} (h : d.hears? op = some now) :
    (d.step op).store = (d.tick now).2.store ∧
      ((d.step op).session.view = (d.tick now).2.session.view ∧ d.touches op = false ∨
        (∃ b : Buffer, op = .localChange now ∧ d.touches op = true ∧ (d.step op).session.view =
          { (d.tick now).2.session.view with
            draft := (d.tick now).2.session.draft.edit b.text (d.tick now).2.session.now
            shown := some b.text }) ∨
        ∃ story r, op.BringsStory ∧ d.touches op = true ∧
          (d.step op).session = (d.tick now).2.session.adopt story r) := by
  cases op with
  | request request => simp [hears?] at h
  | localChange now' =>
    by_cases hl : d.session.health = .crashed
    · simp [hears?, hl] at h
    obtain rfl : now' = now := by simpa [hears?, hl] using h
    obtain ⟨hstore, hview⟩ := d.localChange_eq now'
    rw [if_neg hl] at hstore hview
    refine ⟨hstore, ?_⟩
    rw [buffer_tick] at hview
    cases hb : d.session.buffer with
    | none =>
      rw [hb] at hview
      exact .inl ⟨hview, by simp [touches, hb]⟩
    | some b =>
      rw [hb] at hview
      exact .inr (.inl ⟨b, rfl, by simp [touches, hl, hb], hview⟩)
  | storyChange story now' =>
    obtain rfl := Option.some.inj h
    have hstep : d.step (.storyChange story now') = (d.tick now').2.takeOver (d.current story now') :=
      storyChange_eq d story now'
    rw [hstep]
    obtain ⟨hstore, ⟨hs, hn⟩ | ⟨r, hs, hn⟩⟩ := takeOver_cases (d.tick now').2 (d.current story now')
    · exact ⟨hstore, .inl ⟨congrArg Session.view hs, hn⟩⟩
    · exact ⟨hstore, .inr (.inr ⟨_, r, trivial, hn, hs⟩)⟩
  | syncFromStore now' =>
    obtain rfl := Option.some.inj h
    have hstep := syncFromStore_eq d now'
    show (d.syncFromStore now').2.store = _ ∧ ((d.syncFromStore now').2.session.view = _ ∧ _ ∨ _ ∨
      ∃ story r, _ ∧ _ ∧ (d.syncFromStore now').2.session = _)
    rw [hstep]
    simp only [touches]
    cases (d.tick now').2.store.story? (d.tick now').2.session.story.id with
    | none => exact ⟨rfl, .inl ⟨rfl, rfl⟩⟩
    | some story =>
      obtain ⟨hstore, ⟨hs, hn⟩ | ⟨r, hs, hn⟩⟩ := takeOver_cases (d.tick now').2 story
      · exact ⟨hstore, .inl ⟨congrArg Session.view hs, hn⟩⟩
      · exact ⟨hstore, .inr (.inr ⟨_, r, trivial, hn, hs⟩)⟩
  | advance now' =>
    obtain rfl := Option.some.inj h
    exact ⟨rfl, .inl ⟨rfl, rfl⟩⟩

end Desk

end PassageEditor
