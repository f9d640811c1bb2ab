import PassageEditor.Proofs.Session.Edits
import PassageEditor.Proofs.Session.Isolation
import PassageEditor.Proofs.Session.MarkInvariants

/-!
# After the last crash

A session that has crashed for good is inert: nothing is drawn, heard, open or put off (`Session.Inert`).
What would edit is refused (`Desk.Refuses`), and the rest changes nothing of this (`Session.Rests`).  A
commit that was pending at the crash keeps its text and is written when its time has come
(`inert_of_run`).
-/

namespace PassageEditor

namespace Session

variable {s t u : Session}

structure Inert (s : Session) : Prop where
  health : s.health = .crashed
  completion : s.completion = none
  tasks : s.tasks = []
  listeners : s.hub.listeners = []
  handles : s.marks.handles = []

/-- Nothing is added to what is drawn, heard, open, put off or to be told. -/
structure Rests (s t : Session) : Prop where
  health : t.health = s.health
  completion : t.completion = s.completion
  tasks : t.tasks = s.tasks
  hub : t.hub = s.hub
  handles : t.marks.handles = s.marks.handles
  opened : t.opened = s.opened ∨ t.opened = []
  marks : ∀ b', t.buffer = some b' → ∃ b, s.buffer = some b ∧ b'.marks.map (·.id) ⊆ b.marks.map (·.id)

private theorem Rests.refl (s : Session) : s.Rests s :=
  ⟨rfl, rfl, rfl, rfl, rfl, .inl rfl, fun b hb => ⟨b, hb, List.Subset.refl _⟩⟩

private theorem Rests.trans (h : s.Rests t) (h' : t.Rests u) : s.Rests u where
  health := h'.health.trans h.health
  completion := h'.completion.trans h.completion
  tasks := h'.tasks.trans h.tasks
  hub := h'.hub.trans h.hub
  handles := h'.handles.trans h.handles
  opened := by
    rcases h'.opened with hsame | hnone
    · exact h.opened.imp hsame.trans hsame.trans
    · exact .inr hnone
  marks b'' hb'' := by
    obtain ⟨b', hb', hsub'⟩ := h'.marks b'' hb''
    obtain ⟨b, hb, hsub⟩ := h.marks b' hb'
    exact ⟨b, hb, fun _ hid => hsub (hsub' hid)⟩

private theorem Inert.of_rests (h : s.Inert) (hrests : s.Rests t) : t.Inert where
  health := hrests.health.trans h.health
  completion := hrests.completion.trans h.completion
  tasks := hrests.tasks.trans h.tasks
  listeners := (congrArg Hub.listeners hrests.hub).trans h.listeners
  handles := hrests.handles.trans h.handles

/-! ### What is refused -/

private theorem whileLive_of_crashed {α : Type} (h : s.health = .crashed) (op : Result α) :
    s.whileLive op = (.error .crashed, s) := if_pos h

private theorem edits_of_crashed (h : s.health = .crashed) (request : Request) :
    s.edits request = false := by
  cases request with
  | exec name => simp [edits, ran?, h]
  | pick index => simp [edits, picked?, h]
  | _ => rfl

private theorem handleKey_of_crashed (h : s.health = .crashed) (key : String) :
    (s.handleKey key).2 = s := by
  unfold handleKey
  split
  · exact congrArg Prod.snd (whileLive_of_crashed h _)
  · exact congrArg Prod.snd (whileLive_of_crashed h _)
  · rfl

/-! ### What finds nothing to do -/

private theorem closeCompletion_of_closed (h : s.completion = none) : s.closeCompletion = s := by
  simp [closeCompletion, h]

private theorem dispatchEvent_of_silent (h : s.hub.listeners = []) (event : Event) :
    s.dispatchEvent event = ([], s) := by
  simp [dispatchEvent, Hub.dispatch, Hub.deliver, h]

private theorem undraw_of_bare (h : s.marks.handles = []) (b : Buffer) :
    s.undraw b = (b, { s with marks := .empty s.marks.designated }) := by
  obtain ⟨hplaceholders, hlinks⟩ := List.append_eq_nil_iff.1 h
  simp [undraw, Markup.Reconciler.teardown, hplaceholders, hlinks, Markup.Handle.clearAll]

/-! ### Requests -/

private theorem Inert.rests_detach (h : s.Inert) : s.Rests s.detach.2 := by
  unfold detach
  split
  · exact .refl s
  · rw [undraw_of_bare h.handles]
    exact ⟨rfl, h.completion.symm, h.tasks.symm, rfl, h.handles.symm, .inl rfl, by simp⟩

private theorem Inert.rests_shutDown (h : s.Inert) (message : String) : s.Rests (s.shutDown message) := by
  let closed : Session := { s with crashMessage := some (Payload.flattened 160 message), tasks := [] }
  have hbare := undraw_of_bare (s := closed) h.handles
  unfold shutDown
  dsimp only
  rw [closeCompletion_of_closed h.completion]
  split
  · rename_i hb
    exact ⟨rfl, rfl, h.tasks.symm, rfl, rfl, .inl rfl, fun b' hb' => absurd (hb.symm.trans hb') (by simp)⟩
  · rename_i b hb
    refine ⟨rfl, rfl, h.tasks.symm, congrArg (·.2.hub) (hbare b), ?_, .inl rfl, fun b' hb' => ?_⟩
    · exact (congrArg (·.2.marks.handles) (hbare b)).trans h.handles.symm
    · obtain rfl := Option.some.inj hb'
      refine ⟨b, hb, ?_⟩
      show (closed.undraw b).1.marks.map (·.id) ⊆ _
      rw [hbare b]
      exact List.Subset.refl _

private theorem Inert.rests_reportCrash (h : s.Inert) (message : String) :
    s.Rests (s.reportCrash message).2 := by
  have hsame : ({ s with health := .crashed } : Session) = s := by rw [← h.health]
  unfold reportCrash
  dsimp only
  rw [h.health, Health.afterCrash]
  dsimp only
  rw [hsame]
  exact h.rests_shutDown message

private theorem Inert.rests_refreshFormat (h : s.Inert) (formats : Registry) :
    s.Rests (s.refreshFormat formats).2 := by
  have hnone : ∀ u : Session, u.health = s.health → u.activeExtensions = none := fun u hu =>
    activeExtensions_eq_none (by simp [hu, h.health])
  rw [refreshFormat_def]
  dsimp only
  split
  · exact .refl s
  · rw [refreshToolbar_def, registerMode_def, rebuildVariables_def]
    simp only [hnone]
    exact ⟨rfl, rfl, rfl, rfl, rfl, .inl rfl, fun b hb => ⟨b, hb, List.Subset.refl _⟩⟩

private theorem Inert.rests_serve (h : s.Inert) (request : Request) : s.Rests (s.serve request) := by
  have hsame : ∀ u : Session, u = s → s.Rests u := fun u hu => hu ▸ .refl s
  have hrefused : ∀ {α : Type} (op : Result α), (s.whileLive op).2 = s := fun op =>
    congrArg Prod.snd (whileLive_of_crashed h.health op)
  cases request with
  | attach b => exact hsame _ (hrefused _)
  | exec name => exact hsame _ (hrefused _)
  | pick index => exact hsame _ (hrefused _)
  | trigger => exact hsame _ (hrefused _)
  | refresh => exact hsame _ (hrefused _)
  | select ranges => exact hsame _ (hrefused _)
  | key key => exact hsame _ (handleKey_of_crashed h.health key)
  | close => exact hsame _ (closeCompletion_of_closed h.completion)
  | event event => exact hsame _ (congrArg Prod.snd (dispatchEvent_of_silent h.listeners event))
  | runTasks =>
    have hnone : s.runTasks = (0, s) := by simp [runTasks_def, h.tasks]
    exact hsame _ (congrArg Prod.snd hnone)
  | detach => exact h.rests_detach
  | crash message => exact h.rests_reportCrash message
  | refreshFormat formats => exact h.rests_refreshFormat formats
  | drainEvents => exact ⟨rfl, rfl, rfl, rfl, rfl, .inr rfl, fun b hb => ⟨b, hb, List.Subset.refl _⟩⟩

/-! ### Taking a story over -/

/-- The buffer may get another text, but no mark. -/
private theorem Inert.rests_adopt (h : s.Inert) (story : Story) (r : Revision) :
    s.Rests (s.adopt story r) := by
  have hstill : ∀ u : Session, u.health = .crashed → u.freshenMarks = u := by
    intro u hu
    unfold freshenMarks
    split
    · rfl
    · exact if_pos hu
  rw [adopt_def]
  dsimp only
  rw [hstill]
  · refine ⟨rfl, rfl, rfl, rfl, rfl, .inl rfl, fun b' hb' => ?_⟩
    dsimp only at hb'
    split at hb'
    · obtain ⟨b, hb, rfl⟩ := Option.map_eq_some_iff.1 hb'
      refine ⟨b, hb, fun id hid => ?_⟩
      have hnone := List.filter_eq_nil_iff.1 (b.ages_edit (.set r.passage.text)).2 id hid
      simpa using hnone
    · exact ⟨b', hb', List.Subset.refl _⟩
  · exact h.health

/-! ### The last crash -/

/-- The last crash leaves nothing that is drawn, heard, open or put off. -/
private theorem inert_reportCrash (h : s.Strung) (message : String)
    (hlast : s.health.afterCrash = .crashed) :
    (s.reportCrash message).2.Inert := by
  have hworse : ({ s with health := .crashed } : Session).Strung := ⟨h.wired, h.classed, h.bare⟩
  obtain ⟨hstrung, hnone⟩ := strung_shutDown hworse message
  have hlisteners := hstrung.wired
  rw [hnone] at hlisteners
  have hhealth := congrArg Bearing.health (bearing_shutDown { s with health := .crashed } message)
  have hclosed : ({ s with health := .crashed } : Session).closeCompletion.completion = none := by
    unfold closeCompletion
    split
    · rfl
    · exact Option.not_isSome_iff_eq_none.1 ‹_›
  unfold reportCrash
  dsimp only
  rw [hlast]
  refine ⟨hhealth, ?_, ?_, hlisteners.listeners_of_nil, hnone⟩
  · unfold shutDown
    dsimp only
    split
    · exact hclosed
    · exact hclosed
  · unfold shutDown
    dsimp only
    split <;> rfl

end Session

namespace Desk

open Session

variable {d : Desk}

/-! ### Every turn -/

/-- What would edit is refused and changes nothing, not even the clock. -/
structure Refuses (d : Desk) : Prop where
  attach : ∀ b, d.session.attach b = (.error .crashed, d.session)
  localChange : ∀ now, d.localChange now = (.error .crashed, d)
  changeSelection : ∀ ranges, d.session.changeSelection ranges = (.error .crashed, d.session)
  tab : d.session.handleKey "Tab" = (.error .crashed, d.session)
  shiftTab : d.session.handleKey "Shift-Tab" = (.error .crashed, d.session)
  trigger : d.session.triggerCompletion = (.error .crashed, d.session)
  refresh : d.session.refreshCompletion = (.error .crashed, d.session)
  pick : ∀ index, d.session.pickCompletion index = (.error .crashed, d.session)
  exec : ∀ name, d.session.execCommand name = (.error .crashed, d.session)

private theorem refuses_of_crashed (h : d.session.health = .crashed) : d.Refuses where
  attach _ := whileLive_of_crashed h _
  localChange _ := if_pos h
  changeSelection _ := whileLive_of_crashed h _
  tab := whileLive_of_crashed h _
  shiftTab := whileLive_of_crashed h _
  trigger := whileLive_of_crashed h _
  refresh := whileLive_of_crashed h _
  pick _ := whileLive_of_crashed h _
  exec _ := whileLive_of_crashed h _

private theorem rests_tick (d : Desk) (now : Nat) : d.session.Rests (d.tick now).2.session := by
  unfold tick
  dsimp only
  split <;> exact ⟨rfl, rfl, rfl, rfl, rfl, .inl rfl, fun b hb => ⟨b, hb, List.Subset.refl _⟩⟩

private theorem rests_step (h : d.session.Inert) (op : Op) : d.session.Rests (d.step op).session := by
  have hadopt : ∀ s, d.session.Rests s → ∀ story r, d.session.Rests (s.adopt story r) :=
    fun s hs story r =>
    hs.trans ((h.of_rests hs).rests_adopt story r)
  cases op with
  | request request => exact h.rests_serve request
  | localChange now =>
    show d.session.Rests (d.localChange now).2.session
    rw [(refuses_of_crashed h.health).localChange]
    exact .refl _
  | advance now => exact d.rests_tick now
  | storyChange story now => exact keeps_storyChange d.rests_tick hadopt story now
  | syncFromStore now => exact keeps_syncFromStore d.rests_tick hadopt now

private theorem inert_turn (h : d.session.Inert) (t : Turn) : (d.turn t).session.Inert := by
  cases t with
  | op op => exact h.of_rests (rests_step h op)
  | typed change => exact ⟨h.health, h.completion, h.tasks, h.listeners, h.handles⟩
  | written change => exact h

/-- The turn after which the health is at its worst leaves the session inert. -/
private theorem inert_turn_of_crash (h : d.session.health = .crashed → d.session.Inert)
    (hstrung : d.session.Strung) (t : Turn) (hafter : (d.turn t).session.health = .crashed) :
    (d.turn t).session.Inert := by
  by_cases hbefore : d.session.health = .crashed
  · exact inert_turn (h hbefore) t
  · rw [health_turn] at hafter
    split at hafter
    · obtain ⟨message, rfl⟩ := Turn.eq_of_isCrash ‹_›
      exact inert_reportCrash hstrung message hafter
    · exact absurd hafter hbefore

/-! ### The commit -/

/-- Whether the commit is written at the time that an operation tells. -/
def fallsDue (d : Desk) (op : Op) : Bool :=
  match d.session.draft.pending, d.hears? op with
  | some p, some now => p.deadline ≤ max d.session.now now
  | _, _ => false

private theorem fallsDue_iff {op : Op} : d.fallsDue op ↔
    ∃ p now, d.session.draft.pending = some p ∧ d.hears? op = some now ∧
      p.deadline ≤ max d.session.now now := by
  unfold fallsDue
  cases d.session.draft.pending <;> cases d.hears? op <;> simp

/-- A commit that falls due is written with its text, and none is left. -/
private theorem step_of_fallsDue {op : Op} {p : Pending WriteTarget}
    (hcrashed : d.session.health = .crashed) (hp : d.session.draft.pending = some p)
    (hdue : d.fallsDue op) :
    (d.step op).store = d.store.updatePassage p.target.story p.target.passage (.ofText p.text) ∧
      (d.step op).session.draft.pending = none := by
  obtain ⟨q, now, hq, hh, hle⟩ := fallsDue_iff.1 hdue
  obtain rfl := Option.some.inj (hp.symm.trans hq)
  have hnone : (d.tick now).2.session.draft.pending = none := by
    rw [draft_tick]
    simp [Draft.poll, hp, hle]
  obtain ⟨hstore, ⟨hv, -⟩ | ⟨b, rfl, -, -⟩ | ⟨story, r, -, -, hs⟩⟩ := step_cases hh
  · exact ⟨hstore.trans (store_tick_of_due hp hle), (congrArg (·.draft.pending) hv).trans hnone⟩
  · simp [hears?, hcrashed] at hh
  · refine ⟨hstore.trans (store_tick_of_due hp hle), ?_⟩
    have hadopted := congrArg (·.draft.pending) ((congrArg view hs).trans (view_adopt _ story r))
    dsimp only at hadopted
    rw [Draft.pending_adopt] at hadopted
    refine hadopted.trans (Option.eq_none_iff_forall_ne_some.2 fun p' hp' => ?_)
    obtain ⟨p, hp, -⟩ := Draft.pending_of_retarget hp'
    simp [hnone] at hp

/-- A commit that does not fall due is kept with its text; a story that is taken over starts the quiet
time anew. -/
private theorem step_of_not_fallsDue {op : Op} {p : Pending WriteTarget} {touched : Nat}
    (hcrashed : d.session.health = .crashed)
    (hsteady : d.session.view.Steady touched) (hp : d.session.draft.pending = some p)
    (hop : op ≠ .request .detach) (hdue : ¬ d.fallsDue op) :
    (d.step op).store = d.store ∧ ∃ q, (d.step op).session.draft.pending = some q ∧ q.text = p.text ∧
      q.deadline = if d.touches op then (d.step op).session.now + d.session.config.debounce
        else p.deadline := by
  have hkept : ∀ v : View, (d.step op).session.view = v →
      v.draft.pending = some p → d.touches op = false →
      ∃ q, (d.step op).session.draft.pending = some q ∧ q.text = p.text ∧
        q.deadline = if d.touches op then (d.step op).session.now + d.session.config.debounce
          else p.deadline := by
    rintro v rfl hv ht
    exact ⟨p, hv, rfl, by simp [ht]⟩
  cases hh : d.hears? op with
  | none =>
    obtain ⟨hstore, ⟨request, rfl⟩ | ⟨hs, ht⟩⟩ := step_unheard hh
    · have hno := edits_of_crashed hcrashed request
      rcases d.session.serve_cases request with ⟨shown, hv, -⟩ | ⟨text, shown, -, he⟩ | ⟨rfl, -⟩
      · exact ⟨hstore, hkept _ hv hp hno⟩
      · exact absurd (he.symm.trans hno) (by simp)
      · exact absurd rfl hop
    · exact ⟨hstore, hkept _ (congrArg view hs) hp ht⟩
  | some now =>
    have hearly : ∀ q, d.session.draft.pending = some q → ¬ q.deadline ≤ max d.session.now now :=
      fun q hq hle =>
      hdue (fallsDue_iff.2 ⟨q, now, hq, hh, hle⟩)
    obtain ⟨hsame, hdraft⟩ := tick_of_not_due hearly
    have hpending : (d.tick now).2.session.draft.pending = some p := by
      rw [hdraft]
      exact hp
    have htick : (d.tick now).2.session.view.Steady touched := by
      rw [view_tick]
      exact hsteady.tick _
    obtain ⟨hstore, ⟨hv, ht⟩ | ⟨b, rfl, -, -⟩ | ⟨story, r, -, ht, hs⟩⟩ := step_cases hh
    · exact ⟨hstore.trans hsame, hkept _ hv hpending ht⟩
    · simp [hears?, hcrashed] at hh
    · have hview := (congrArg view hs).trans (view_adopt _ story r)
      have hnow : (d.step op).session.now = (d.tick now).2.session.now := congrArg (·.now) hview
      have hadopted := congrArg (·.draft.pending) hview
      dsimp only at hadopted
      have hne : (d.tick now).2.session.draft.target ≠
          ⟨(d.tick now).2.session.nextSerial, story.id, r.passage.id⟩ :=
        fun he => Nat.ne_of_lt htick.serial (congrArg WriteTarget.serial he)
      rw [Draft.pending_adopt, Draft.retarget_of_ne hne] at hadopted
      dsimp only at hadopted
      rw [hpending, Option.map_some] at hadopted
      refine ⟨hstore.trans hsame, _, hadopted, rfl, ?_⟩
      dsimp only
      rw [if_pos ht, hnow, hdraft]
      exact congrArg _ hsteady.delay

/-! ### A whole run -/

section Run

variable {store : Store} {formats : Registry} {story : StoryId} {passage : PassageId}
  {config : Config} {s : Session}

private theorem inert_run (h : open? store formats story passage config = .ok s) (turns : List Turn)
    (hcrashed : (turns.foldl turn ⟨store, s⟩).session.health = .crashed) :
    (turns.foldl turn ⟨store, s⟩).session.Inert := by
  induction turns using List.reverseRecOn with
  | nil =>
    obtain ⟨st, r, pattern, -, -, rfl⟩ := open_eq h
    simp [rebuildVariables_def] at hcrashed
  | append_singleton turns t ih =>
    rw [List.foldl_append] at hcrashed ⊢
    exact inert_turn_of_crash ih (strung_run h turns) t hcrashed

private theorem inert_more (h : d.session.Inert) (more : List Turn) :
    (more.foldl turn d).session.Inert ∧
      ((more.foldl turn d).session.opened = d.session.opened ∨
        (more.foldl turn d).session.opened = []) := by
  induction more using List.reverseRecOn with
  | nil => exact ⟨h, .inl rfl⟩
  | append_singleton more t ih =>
    rw [List.foldl_append]
    refine ⟨inert_turn ih.1 t, ?_⟩
    cases t with
    | typed change => exact ih.2
    | written change => exact ih.2
    | op op =>
      rcases (rests_step ih.1 op).opened with hsame | hnone
      · exact ih.2.imp hsame.trans hsame.trans
      · exact .inr hnone

private theorem not_edits_of_crashed (h : d.session.health = .crashed) (t : Turn) : ¬ d.Edits t := by
  rintro hedits
  cases t with
  | typed change => exact hedits
  | written change => exact hedits
  | op op =>
    obtain ⟨hmay, htouches⟩ := hedits
    cases op with
    | request request => exact absurd ((edits_of_crashed h request).symm.trans htouches) (by simp)
    | localChange now => simp [touches, h] at htouches
    | _ => exact hmay

/-- No commit comes up any more. -/
private theorem idle_more (h : d.session.Inert) (hidle : d.session.isCommitPending = false)
    (more : List Turn) : (more.foldl turn d).session.isCommitPending = false := by
  induction more using List.reverseRecOn with
  | nil => exact hidle
  | append_singleton more t ih =>
    rw [List.foldl_append]
    cases hp : ((more.foldl turn d).turn t).session.draft.pending with
    | none => simp [isCommitPending, Draft.isPending, hp]
    | some p =>
      have hno := not_edits_of_crashed (inert_more h more).1.health t
      obtain ⟨q, hq, -⟩ := pending_of_not_edits hno hp
      simp [isCommitPending, Draft.isPending, hq] at ih

/-- Until it falls due, the commit keeps its text. -/
private theorem pending_more (h : open? store formats story passage config = .ok s) {turns : List Turn}
    {d : Desk} (hd : turns.foldl turn ⟨store, s⟩ = d) (hcrashed : d.session.health = .crashed)
    {p : Pending WriteTarget} (hp : d.session.draft.pending = some p) {more : List Turn}
    (hmore : ∀ t ∈ more, t ≠ .op (.request .detach))
    (hdue : ∀ before op after, more = before ++ .op op :: after → ¬ (before.foldl turn d).fallsDue op) :
    ∃ q, (more.foldl turn d).session.draft.pending = some q ∧ q.text = p.text := by
  induction more using List.reverseRecOn with
  | nil => exact ⟨p, hp, rfl⟩
  | append_singleton more t ih =>
    obtain ⟨q, hq, htext⟩ := ih (fun t' ht' => hmore t' (List.mem_append_left _ ht'))
      fun before op after hsplit => hdue before op (after ++ [t]) (by simp [hsplit])
    rw [List.foldl_append]
    cases t with
    | typed change => exact ⟨q, hq, htext⟩
    | written change => exact ⟨q, hq, htext⟩
    | op op =>
      subst hd
      obtain ⟨-, touched, hsteady⟩ := steady_run h (turns ++ more)
      rw [List.foldl_append] at hsteady
      obtain ⟨hinert, -⟩ := inert_more (inert_run h turns hcrashed) more
      have hop : op ≠ .request .detach := fun he => hmore (.op op) (by simp) (congrArg Turn.op he)
      obtain ⟨-, q', hq', htext', -⟩ :=
        step_of_not_fallsDue hinert.health hsteady hq hop (hdue more op [] rfl)
      exact ⟨q', hq', htext'.trans htext⟩

/-- After any turns that have led to the last crash, and any further ones: nothing is drawn, heard, open
or put off, and no operation adds any of that, a mark, or a passage to be opened.  What would edit is
refused, and an event has no effect.  A commit that was pending at the crash is pending with its text as
long as the buffer is not detached and no operation tells that its deadline is over; the first one that
does writes that text, and only a story that is taken over in the meantime puts the deadline off.  Without
a commit nothing is written. -/
theorem inert_of_run (h : open? store formats story passage config = .ok s) (turns more : List Turn)
    (hcrashed : (turns.foldl turn ⟨store, s⟩).session.health = .crashed) :
    let d := turns.foldl turn ⟨store, s⟩
    let e := more.foldl turn d
    e.session.Inert ∧ e.Refuses ∧ (∀ event, e.session.dispatchEvent event = ([], e.session)) ∧
      (e.session.opened = d.session.opened ∨ e.session.opened = []) ∧
      (∀ op, e.session.Rests (e.step op).session) ∧
      (∀ p, d.session.draft.pending = some p → (∀ t ∈ more, t ≠ .op (.request .detach)) →
        (∀ before op after, more = before ++ .op op :: after → ¬ (before.foldl turn d).fallsDue op) →
        ∃ q, e.session.draft.pending = some q ∧ q.text = p.text ∧ ∀ op, op ≠ .request .detach →
          let after := e.step op
          (e.fallsDue op →
            after.store = e.store.updatePassage e.session.story.id
              e.session.revision.passage.id (.ofText p.text) ∧
              after.session.isCommitPending = false) ∧
          (¬ e.fallsDue op → after.store = e.store ∧
            ∃ q', after.session.draft.pending = some q' ∧ q'.text = p.text ∧
              q'.deadline = if e.touches op then after.session.now + config.debounce else q.deadline)) ∧
      (d.session.isCommitPending = false →
        e.session.isCommitPending = false ∧ ∀ op, (e.step op).store = e.store) := by
  intro d e
  obtain ⟨hinert, hopened⟩ := inert_more (inert_run h turns hcrashed) more
  refine ⟨hinert, refuses_of_crashed hinert.health, dispatchEvent_of_silent hinert.listeners, hopened,
    rests_step hinert, fun p hp hmore hdue => ?_, fun hidle => ?_⟩
  · obtain ⟨q, hq, htext⟩ := pending_more h rfl hcrashed hp hmore hdue
    obtain ⟨hconfig, touched, hsteady⟩ := steady_run h (turns ++ more)
    rw [List.foldl_append] at hconfig hsteady
    have htarget := hsteady.target q hq
    refine ⟨q, hq, htext, fun op hop => ⟨fun hover => ?_, fun hover => ?_⟩⟩
    · obtain ⟨hstore, hnone⟩ := step_of_fallsDue hinert.health hq hover
      rw [htarget, htext, hsteady.story, hsteady.passage] at hstore
      exact ⟨hstore, congrArg Option.isSome hnone⟩
    · obtain ⟨hstore, q', hq', htext', hdeadline⟩ :=
        step_of_not_fallsDue hinert.health hsteady hq hop hover
      rw [hconfig] at hdeadline
      exact ⟨hstore, q', hq', htext'.trans htext, hdeadline⟩
  · have hno := idle_more (inert_run h turns hcrashed) hidle more
    exact ⟨hno, store_step_of_idle hno⟩

/-- A letter is typed, and the editor crashes twice. -/
def crashedWhileTyping : List Turn :=
  [.op (.request (.attach (.ofText ""))), .typed (·.typeText "x"), .op (.localChange 0),
    .op (.request (.crash "first")), .op (.request (.crash "second"))]

/-- Then others write another text, and the session is told. -/
def updatedAfterCrash : List Turn := [.written (·.updatePassage ⟨1⟩ ⟨1⟩ (.ofText "new")),
    .op (.syncFromStore 500)]

/-- The text with the letter was due at 1000, and it is written at 1500: the quiet time after the other
text was taken over. -/
theorem inert_of_run_typing :
    ∃ s, open? smallStore .empty ⟨1⟩ ⟨1⟩ .default = .ok s ∧
      let d := crashedWhileTyping.foldl turn ⟨smallStore, s⟩
      let e := updatedAfterCrash.foldl turn d
      d.session.health = .crashed ∧ d.session.draft.deadline? = some 1000 ∧
      e.session.draft.deadline? = some 1500 ∧
        e.session.listenerCount = 0 ∧ e.session.execCommand "goDocEnd" = (.error .crashed, e.session) ∧
        (e.step (.advance 1499)).store = e.store ∧
        (e.step (.advance 1500)).store =
          e.store.updatePassage e.session.story.id e.session.revision.passage.id (.ofText "ax") := by
  have hvalues : ((open? smallStore .empty ⟨1⟩ ⟨1⟩ .default).toOption.map fun s =>
      let d := crashedWhileTyping.foldl turn ⟨smallStore, s⟩
      let e := updatedAfterCrash.foldl turn d
      (d.session.health, d.session.draft.pending.map (·.text),
        [d.session.draft.deadline?, e.session.draft.deadline?],
        [(d.turn (.written (·.updatePassage ⟨1⟩ ⟨1⟩ (.ofText "new")))).fallsDue (.syncFromStore 500),
          e.fallsDue (.advance 1499), e.fallsDue (.advance 1500)])) =
      some (.crashed, some "ax", [some 1000, some 1500], [false, false, true]) := by
    decide +kernel
  rcases h : open? smallStore .empty ⟨1⟩ ⟨1⟩ .default with e | s
  · simp [h, Except.toOption] at hvalues
  rw [h, Except.toOption, Option.map_some, Option.some.injEq] at hvalues
  simp only [Prod.mk.injEq, List.cons.injEq, and_true] at hvalues
  obtain ⟨hcrashed, htext, ⟨hfirst, hsecond⟩, hsync, hearly, hdue⟩ := hvalues
  obtain ⟨p, hp, htext⟩ := Option.map_eq_some_iff.1 htext
  obtain ⟨hinert, hrefuses, -, -, -, hkept, -⟩ :=
    inert_of_run h crashedWhileTyping updatedAfterCrash hcrashed
  have hmore : ∀ t ∈ updatedAfterCrash, t ≠ .op (.request .detach) := by
    intro t ht
    simp only [updatedAfterCrash, List.mem_cons, List.not_mem_nil, or_false] at ht
    rcases ht with rfl | rfl <;> simp
  have hquiet : ∀ before op after, updatedAfterCrash = before ++ .op op :: after →
      ¬ (before.foldl turn (crashedWhileTyping.foldl turn ⟨smallStore, s⟩)).fallsDue op := by
    rintro (_ | ⟨t, _ | ⟨t', before⟩⟩) op after hsplit
    · simp [updatedAfterCrash] at hsplit
    · simp only [updatedAfterCrash, List.cons_append, List.nil_append, List.cons.injEq,
        Turn.op.injEq] at hsplit
      obtain ⟨rfl, rfl, -⟩ := hsplit
      simpa using hsync
    · simp [updatedAfterCrash] at hsplit
  obtain ⟨q, -, -, hlater⟩ := hkept p hp hmore hquiet
  have hlast := ((hlater (.advance 1500) (by simp)).1 hdue).1
  rw [htext] at hlast
  refine ⟨s, rfl, hcrashed, hfirst, hsecond, ?_, hrefuses.exec "goDocEnd",
    ((hlater (.advance 1499) (by simp)).2 (by simpa using hearly)).1, hlast⟩
  rw [listenerCount, hinert.listeners]
  rfl

end Run

end Desk

end PassageEditor
