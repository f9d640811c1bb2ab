import PassageEditor.Proofs.Session.Agreement
import PassageEditor.Proofs.Session.Commit
import PassageEditor.Proofs.Story.Stamps

/-!
# A session in step with the store

With nothing pending, a session has the text of the revision that it holds, from the moment a story has
been taken over until the next edit.  Once the commit of that edit has been written or dropped, the two
texts part, and only a story with news brings them together again; a commit that was written is such news,
and one that was dropped is not.  So a session that reads the story from the store again has the text that
is stored, unless a commit was dropped (`mirror_of_run`).
-/

namespace PassageEditor

namespace Session

private theorem story_adopt (s : Session) (story : Story) (r : Revision) :
    (s.adopt story r).story = story ∧ (s.adopt story r).revision = r :=
  ⟨congrArg View.story (view_adopt s story r), congrArg View.revision (view_adopt s story r)⟩

end Session

namespace Desk

open Session

variable {d : Desk} {t : Turn}

/-! ### What a turn does to the texts -/

/-- The passage of the session as it is stored. -/
def stored? (d : Desk) : Option Revision :=
  d.store.passage? d.session.story.id d.session.revision.passage.id

/-- The turn brings a story that is taken over. -/
def TakesOver (d : Desk) : Turn → Prop
  | .op op => op.BringsStory ∧ d.touches op = true
  | _ => False

/-- The turn writes the pending commit or drops it. -/
def Settles (d : Desk) (t : Turn) : Prop :=
  d.session.isCommitPending = true ∧ (d.turn t).session.isCommitPending = false

/-- The turn drops the pending commit. -/
def Drops (d : Desk) (t : Turn) : Prop := t = .op (.request .detach) ∧ d.Settles t

/-- The turn may change the text shown without the session being told. -/
def Hides (d : Desk) : Turn → Prop
  | .op op => d.CutShort op
  | .typed _ => True
  | .written _ => False

/-- The host tells of its edits, and the session takes them. -/
def Tells (d : Desk) : Turn → Prop
  | .op (.localChange _) => d.session.health ≠ .crashed
  | _ => False

/-- A story that is taken over while nothing is pending brings its text. -/
private theorem text_of_takesOver (h : d.TakesOver t)
    (hidle : (d.turn t).session.isCommitPending = false) :
    (d.turn t).session.localText = (d.turn t).session.revision.passage.text := by
  cases t with
  | typed change => exact h.elim
  | written change => exact h.elim
  | op op =>
    obtain ⟨hbrings, htouches⟩ := h
    cases hh : d.hears? op with
    | none => cases op <;> simp [hears?, Op.BringsStory] at hh hbrings
    | some now =>
      obtain ⟨-, ⟨-, ht⟩ | ⟨b, rfl, -, -⟩ | ⟨story, r, -, -, hs⟩⟩ := step_cases hh
      · simp [htouches] at ht
      · exact hbrings.elim
      · change (d.step op).session.isCommitPending = false at hidle
        show (d.step op).session.localText = (d.step op).session.revision.passage.text
        rw [hs] at hidle ⊢
        rw [isCommitPending_adopt] at hidle
        rw [localText_adopt_of_idle hidle story r, (story_adopt _ story r).2]

/-- A turn that takes nothing over keeps the story and the revision, and only an edit changes the text. -/
private theorem kept_of_not_takesOver (h : ¬ d.TakesOver t) :
    (d.turn t).session.story = d.session.story ∧ (d.turn t).session.revision = d.session.revision ∧
      ((d.turn t).session.isCommitPending = true ∨
        (d.turn t).session.localText = d.session.localText) := by
  cases t with
  | typed change => exact ⟨rfl, rfl, .inr rfl⟩
  | written change => exact ⟨rfl, rfl, .inr rfl⟩
  | op op =>
    -- all of this is about the view
    suffices hview : ∃ v : View, (d.step op).session.view = v ∧ v.story = d.session.story ∧
        v.revision = d.session.revision ∧
        (v.draft.isPending = true ∨ v.draft.text = d.session.localText) by
      obtain ⟨_, rfl, hv⟩ := hview
      exact hv
    cases hh : d.hears? op with
    | none =>
      obtain ⟨-, ⟨request, rfl⟩ | ⟨hs, -⟩⟩ := step_unheard hh
      · rcases d.session.serve_cases request with ⟨shown, hv, -⟩ | ⟨text, shown, hv, -⟩ | ⟨-, hv⟩
        · exact ⟨_, hv, rfl, rfl, .inr rfl⟩
        · exact ⟨_, hv, rfl, rfl, .inl rfl⟩
        · exact ⟨_, hv, rfl, rfl, .inr rfl⟩
      · exact ⟨_, congrArg Session.view hs, rfl, rfl, .inr rfl⟩
    | some now =>
      have htick := d.view_tick now
      have hstory : (d.tick now).2.session.view.story = d.session.story := congrArg View.story htick
      have hrevision : (d.tick now).2.session.view.revision = d.session.revision :=
        congrArg View.revision htick
      obtain ⟨-, ⟨hv, -⟩ | ⟨b, -, -, hv⟩ | ⟨story, r, hbrings, htouches, -⟩⟩ := step_cases hh
      · refine ⟨_, hv, hstory, hrevision, .inr ?_⟩
        rw [htick]
        exact Draft.text_poll _ _
      · exact ⟨_, hv, hstory, hrevision, .inl rfl⟩
      · exact absurd ⟨hbrings, htouches⟩ h

/-- What the host tells is what is shown. -/
private theorem agrees_of_tells (h : d.Tells t) : (d.turn t).session.Agrees := by
  obtain ⟨now, rfl, hlive⟩ : ∃ now, t = .op (.localChange now) ∧ d.session.health ≠ .crashed := by
    unfold Tells at h
    split at h
    · exact ⟨_, rfl, h⟩
    · exact h.elim
  show (d.localChange now).2.session.Agrees
  rw [agrees_iff_view, (d.localChange_eq now).2, if_neg hlive]
  split
  · rename_i hb
    intro text htext
    simp [view, hb] at htext
  · exact View.agrees_edit _ _ _ _

/-! ### Reading from the store -/

private theorem touches_syncFromStore {now : Nat} {story : Story}
    (h : (d.tick now).2.store.story? (d.tick now).2.session.story.id = some story) :
    d.touches (.syncFromStore now) = ((d.tick now).2.session.news? story).isSome := by
  simp [touches, h]

/-- A reading succeeds where the story and the passage are in the store. -/
private theorem found_of_syncFromStore {now : Nat} (h : (d.syncFromStore now).1 = .ok ()) :
    ∃ story r, (d.tick now).2.store.story? (d.tick now).2.session.story.id = some story ∧
      story.find? (d.tick now).2.session.revision.passage.id = some r := by
  rw [syncFromStore_def] at h
  dsimp only at h
  cases hstory : (d.tick now).2.store.story? (d.tick now).2.session.story.id with
  | none => simp [hstory] at h
  | some story =>
    rw [hstory] at h
    dsimp only at h
    rw [storyChange_def] at h
    rw [tick_tick] at h
    simp only [Bool.false_eq_true, ↓reduceIte] at h
    cases hr : story.find? (d.tick now).2.session.revision.passage.id with
    | none => simp [hr] at h
    | some r => exact ⟨story, r, rfl, hr⟩

/-- After a reading that succeeds, what is stored has been taken over, or there was nothing new in it. -/
private theorem stored_of_syncFromStore {now : Nat} (h : (d.syncFromStore now).1 = .ok ()) :
    ∃ r, (d.step (.syncFromStore now)).stored? = some r ∧
      (d.TakesOver (.op (.syncFromStore now)) ∧ (d.step (.syncFromStore now)).session.revision = r ∨
        ¬ d.TakesOver (.op (.syncFromStore now)) ∧ r.stamp = d.session.revision.stamp ∧
          (d.step (.syncFromStore now)).session.localText = d.session.localText) := by
  obtain ⟨story, r, hstory, hr⟩ := found_of_syncFromStore h
  have hstep : d.step (.syncFromStore now) = (d.tick now).2.takeOver story := by
    show (d.syncFromStore now).2 = _
    rw [syncFromStore_eq, hstory]
  have htakes : d.TakesOver (.op (.syncFromStore now)) ↔ ((d.tick now).2.session.news? story).isSome := by
    simp [TakesOver, Op.BringsStory, touches_syncFromStore hstory]
  have hheld : (d.tick now).2.session.revision = d.session.revision :=
    congrArg View.revision (d.view_tick now)
  have hlocal : (d.tick now).2.session.localText = d.session.localText := by
    rw [localText, draft_tick]
    exact Draft.text_poll _ _
  have hid : r.passage.id = (d.tick now).2.session.revision.passage.id := by
    simpa using List.find?_some hr
  have hstoryId : story.id = (d.tick now).2.session.story.id := by simpa using List.find?_some hstory
  rw [hstep, htakes, news?_of_find? hr, ← hheld, ← hlocal]
  generalize (d.tick now).2 = e at *
  have hstored : e.store.passage? e.session.story.id e.session.revision.passage.id = some r := by
    rw [Store.passage?, hstory]
    exact hr
  refine ⟨r, ?_⟩
  by_cases hsame : r.stamp = e.session.revision.stamp ∧ story.samePassages e.session.story
  · have hkept : e.takeOver story = e := by rw [takeOver, news?_of_find? hr, if_pos hsame]
    rw [hkept, if_pos hsame]
    exact ⟨hstored, .inr ⟨by simp, hsame.1, rfl⟩⟩
  · have hover : e.takeOver story = { e with session := e.session.adopt story r } := by
      rw [takeOver, news?_of_find? hr, if_neg hsame]
    obtain ⟨hstory', hrevision'⟩ := story_adopt e.session story r
    rw [hover, if_neg hsame]
    refine ⟨?_, .inl ⟨rfl, hrevision'⟩⟩
    show e.store.passage? (e.session.adopt story r).story.id
      (e.session.adopt story r).revision.passage.id = some r
    rw [hstory', hrevision', hstoryId, hid]
    exact hstored

/-! ### Stamps -/

/-- Others put nothing old back into the store, and the host brings stories of revisions that the store
has made. -/
def Orderly (d : Desk) : Turn → Prop
  | .written change => d.store.Sequel (change d.store)
  | .op (.storyChange story _) => ∀ r ∈ story.passages, r.stamp < d.store.nextStamp
  | _ => True

private theorem sequel_tick (h : d.store.Stamped) (now : Nat) : d.store.Sequel (d.tick now).2.store := by
  by_cases hdue : ∃ p, d.session.draft.pending = some p ∧ p.deadline ≤ max d.session.now now
  · obtain ⟨p, hp, hdue⟩ := hdue
    rw [store_tick_of_due hp hdue]
    exact Store.sequel_updatePassage h _
  · rw [(tick_of_not_due fun p hp hle => hdue ⟨p, hp, hle⟩).1]
    exact .refl h

private theorem sequel_turn (h : d.store.Stamped) (horderly : d.Orderly t) :
    d.store.Sequel (d.turn t).store := by
  cases t with
  | written change => exact horderly
  | typed change => exact .refl h
  | op op =>
    show d.store.Sequel (d.step op).store
    cases hh : d.hears? op with
    | none =>
      rw [(step_unheard hh).1]
      exact .refl h
    | some now =>
      rw [(step_cases hh).1]
      exact sequel_tick h now

/-- A commit that is neither dropped nor moved along to another revision ends by being written. -/
private theorem store_of_settles (hsettles : d.Settles t) (hdrops : ¬ d.Drops t)
    (htakes : ¬ d.TakesOver t) :
    ∃ p, d.session.draft.pending = some p ∧
      (d.turn t).store = d.store.updatePassage p.target.story p.target.passage (.ofText p.text) := by
  obtain ⟨hpending, hidle⟩ := hsettles
  obtain ⟨p, hp⟩ := Option.isSome_iff_exists.1 hpending
  refine ⟨p, hp, ?_⟩
  cases t with
  | typed change => exact absurd (hidle.symm.trans hpending) (by simp)
  | written change => exact absurd (hidle.symm.trans hpending) (by simp)
  | op op =>
    have hview : ∀ v : View, (d.step op).session.view = v → v.draft.isPending = true → False := by
      rintro v rfl hv
      exact absurd (hidle.symm.trans hv) (by simp)
    cases hh : d.hears? op with
    | none =>
      obtain ⟨-, ⟨request, rfl⟩ | ⟨hs, -⟩⟩ := step_unheard hh
      · rcases d.session.serve_cases request with ⟨shown, hv, -⟩ | ⟨text, shown, hv, -⟩ | ⟨rfl, -⟩
        · exact (hview _ hv hpending).elim
        · exact (hview _ hv rfl).elim
        · exact absurd ⟨rfl, hpending, hidle⟩ hdrops
      · exact (hview _ (congrArg Session.view hs) hpending).elim
    | some now =>
      by_cases hdue : p.deadline ≤ max d.session.now now
      · exact (step_cases hh).1.trans (store_tick_of_due hp hdue)
      · have hdraft : (d.tick now).2.session.draft = d.session.draft := by
          refine (tick_of_not_due fun q hq => ?_).2
          rwa [← Option.some.inj (hp.symm.trans hq)]
        obtain ⟨-, ⟨hv, -⟩ | ⟨b, -, -, hv⟩ | ⟨story, r, hbrings, htouches, -⟩⟩ := step_cases hh
        · refine (hview _ hv ?_).elim
          show (d.tick now).2.session.draft.isPending = true
          rw [hdraft]
          exact hpending
        · exact (hview _ hv rfl).elim
        · exact absurd ⟨hbrings, htouches⟩ htakes

private theorem stamp_takeOver {story : Story} (hnews : (d.session.news? story).isSome = true)
    (h : ∀ r, story.find? d.session.revision.passage.id = some r → r.stamp < d.store.nextStamp) :
    (d.takeOver story).session.revision.stamp < (d.takeOver story).store.nextStamp := by
  obtain ⟨r, hr⟩ := Option.isSome_iff_exists.1 hnews
  rw [takeOver, hr]
  show (d.session.adopt story r).revision.stamp < d.store.nextStamp
  rw [(story_adopt d.session story r).2]
  exact h r (find?_of_news? hr)

/-- The store has made the revision that is taken over. -/
private theorem stamp_of_takesOver (h : d.store.Stamped) (horderly : d.Orderly t)
    (htakes : d.TakesOver t) :
    (d.turn t).session.revision.stamp < (d.turn t).store.nextStamp := by
  cases t with
  | typed change => exact htakes.elim
  | written change => exact htakes.elim
  | op op =>
    obtain ⟨hbrings, htouches⟩ := htakes
    cases op with
    | storyChange story now =>
      have hsequel := sequel_tick h now
      have hturn : d.turn (.op (.storyChange story now)) =
          (d.tick now).2.takeOver (d.current story now) :=
        storyChange_eq d story now
      rw [hturn]
      refine stamp_takeOver htouches fun r hr => ?_
      have hbrought : story.find? (d.tick now).2.session.revision.passage.id = some r →
          r.stamp < (d.tick now).2.store.nextStamp := fun hr =>
        Nat.lt_of_lt_of_le (horderly r (List.mem_of_find?_eq_some hr)) hsequel.nextStamp
      unfold current at hr
      split at hr
      · cases hst : (d.tick now).2.store.story? story.id with
        | none =>
          rw [hst] at hr
          exact hbrought hr
        | some st =>
          rw [hst] at hr
          exact hsequel.stamped.lt hst hr
      · exact hbrought hr
    | syncFromStore now =>
      have hturn : d.turn (.op (.syncFromStore now)) = _ := syncFromStore_eq d now
      cases hst : (d.tick now).2.store.story? (d.tick now).2.session.story.id with
      | none => simp [touches, hst] at htouches
      | some st =>
        rw [hst] at hturn
        rw [touches_syncFromStore hst] at htouches
        rw [hturn]
        exact stamp_takeOver htouches fun r hr => (sequel_tick h now).stamped.lt hst hr
    | _ => exact hbrings.elim

end Desk

/-! ### A whole run -/

/-- A session and the store, and what has happened to the texts. -/
structure Followed where
  desk : Desk
  /-- A commit has been written or dropped since a story was last taken over. -/
  parted : Prop
  /-- A commit has been dropped since a story was last taken over. -/
  dropped : Prop
  /-- The text shown may have changed since the host last told of its edits. -/
  unheard : Prop

namespace Followed

open Desk

def turn (w : Followed) (t : Turn) : Followed where
  desk := w.desk.turn t
  parted := ¬ w.desk.TakesOver t ∧ (w.parted ∨ w.desk.Settles t)
  dropped := ¬ w.desk.TakesOver t ∧ (w.dropped ∨ w.desk.Drops t)
  unheard := ¬ w.desk.Tells t ∧ (w.unheard ∨ w.desk.Hides t)

/-- With nothing pending, the text is that of the revision held, unless the two have parted; and it is the
text shown, unless the session was not told. -/
structure Sound (w : Followed) : Prop where
  text : w.desk.session.isCommitPending = false → ¬ w.parted →
    w.desk.session.localText = w.desk.session.revision.passage.text
  shown : ¬ w.unheard → w.desk.session.Agrees

private theorem sound_turn {w : Followed} (h : w.Sound) (t : Turn) : (w.turn t).Sound := by
  refine ⟨fun hidle hparted => ?_, fun hheard => ?_⟩
  · change (w.desk.turn t).session.isCommitPending = false at hidle
    show (w.desk.turn t).session.localText = (w.desk.turn t).session.revision.passage.text
    by_cases htakes : w.desk.TakesOver t
    · exact text_of_takesOver htakes hidle
    · have hneither : ¬ (w.parted ∨ w.desk.Settles t) := fun hp => hparted ⟨htakes, hp⟩
      obtain ⟨hnot, hsettles⟩ := not_or.1 hneither
      have hbefore : w.desk.session.isCommitPending = false :=
        Bool.eq_false_iff.2 fun hpending => hsettles ⟨hpending, hidle⟩
      obtain ⟨-, hrevision, hpending | hlocal⟩ := kept_of_not_takesOver htakes
      · exact absurd hpending (by simp [hidle])
      · rw [hlocal, hrevision]
        exact h.text hbefore hnot
  · show (w.desk.turn t).session.Agrees
    by_cases htells : w.desk.Tells t
    · exact agrees_of_tells htells
    · have hneither : ¬ (w.unheard ∨ w.desk.Hides t) := fun hu => hheard ⟨htells, hu⟩
      obtain ⟨hnot, hhides⟩ := not_or.1 hneither
      cases t with
      | op op => exact (agrees_step_iff (h.shown hnot) op).2 hhides
      | typed change => exact absurd trivial hhides
      | written change => exact h.shown hnot

/-- The store has made all the revisions there are, and once a commit has been written, a newer one than
the session holds is stored. -/
structure Ahead (w : Followed) : Prop where
  stamped : w.desk.store.Stamped
  held : w.desk.session.revision.stamp < w.desk.store.nextStamp
  ahead : w.parted → ¬ w.dropped → ∀ r, w.desk.stored? = some r → w.desk.session.revision.stamp < r.stamp

private theorem ahead_turn {w : Followed} (h : w.Ahead) {touched : Nat}
    (hsteady : w.desk.session.view.Steady touched) {t : Turn} (horderly : w.desk.Orderly t) :
    (w.turn t).Ahead := by
  have hsequel := sequel_turn h.stamped horderly
  refine ⟨hsequel.stamped, ?_, ?_⟩
  · show (w.desk.turn t).session.revision.stamp < (w.desk.turn t).store.nextStamp
    by_cases htakes : w.desk.TakesOver t
    · exact stamp_of_takesOver h.stamped horderly htakes
    · rw [(kept_of_not_takesOver htakes).2.1]
      exact Nat.lt_of_lt_of_le h.held hsequel.nextStamp
  · rintro ⟨htakes, hparted⟩ hdropped r hr
    have hneither : ¬ (w.dropped ∨ w.desk.Drops t) := fun hd => hdropped ⟨htakes, hd⟩
    obtain ⟨hnot, hdrops⟩ := not_or.1 hneither
    obtain ⟨hstory, hrevision, -⟩ := kept_of_not_takesOver htakes
    have hheld := h.held
    change (w.desk.turn t).store.passage? (w.desk.turn t).session.story.id
      (w.desk.turn t).session.revision.passage.id = some r at hr
    show (w.desk.turn t).session.revision.stamp < r.stamp
    rw [hstory, hrevision] at hr
    rw [hrevision]
    rcases hparted with hparted | hsettles
    · rcases hsequel.found _ _ r hr with hr | hnew
      · exact h.ahead hparted hnot r hr
      · omega
    · -- the commit has just been written, under a new stamp
      obtain ⟨p, hp, hstore⟩ := store_of_settles hsettles hdrops htakes
      rw [hstore, hsteady.target p hp, hsteady.story, hsteady.passage] at hr
      have := Store.stamp_updatePassage hr
      omega

section Run

variable {store : Store} {formats : Registry} {story : StoryId} {passage : PassageId}
  {config : Config} {s : Session}

/-- The desk with a session that has just been opened. -/
def opened (store : Store) (s : Session) : Followed := ⟨⟨store, s⟩, False, False, False⟩

private theorem desk_run (w : Followed) (turns : List Turn) :
    (turns.foldl turn w).desk = turns.foldl Desk.turn w.desk :=
  (List.foldl_hom Followed.desk fun _ _ => rfl).symm

private theorem sound_run (h : Session.open? store formats story passage config = .ok s)
    (turns : List Turn) : (turns.foldl turn (opened store s)).Sound := by
  induction turns using List.reverseRecOn with
  | nil =>
    obtain ⟨st, r, -, -, hview⟩ := Session.view_open h
    refine ⟨fun _ _ => ?_, fun _ => ?_⟩
    · show s.view.draft.text = s.view.revision.passage.text
      rw [hview]
      rfl
    · show s.Agrees
      rw [Session.agrees_iff_view, hview]
      intro text htext
      simp at htext
  | append_singleton turns t ih =>
    rw [List.foldl_append]
    exact sound_turn ih t

private theorem ahead_run (h : Session.open? store formats story passage config = .ok s)
    (hstamped : store.Stamped) {turns : List Turn}
    (horderly : ∀ before t, before ++ [t] <+: turns → (before.foldl Desk.turn ⟨store, s⟩).Orderly t) :
    (turns.foldl turn (opened store s)).Ahead := by
  have hstart : (opened store s).Ahead := by
    obtain ⟨st, r, hst, hr, hview⟩ := Session.view_open h
    refine ⟨hstamped, ?_, fun hparted => hparted.elim⟩
    show s.view.revision.stamp < store.nextStamp
    rw [hview]
    exact hstamped.lt hst hr
  refine Desk.holds_after_run hstart turns fun before t hp hbefore => ?_
  obtain ⟨-, touched, hsteady⟩ := steady_run h before
  have hlast := horderly before t hp
  have hdesk : (before.foldl turn (opened store s)).desk = before.foldl Desk.turn ⟨store, s⟩ :=
    desk_run _ _
  rw [← hdesk] at hsteady hlast
  exact ahead_turn hbefore hsteady hlast

/-- After any turns the session reads the story from the store again; that succeeds, and nothing is
pending afterwards.  Its passage is stored then, and the text of the session is what is stored, unless a
commit has been written or dropped since a story was last taken over.  In that case what is stored is the
revision that the session held already, and its text stays; where nothing old was put back into the store,
this means that the commit was dropped.  The text shown is the text of the session if the host has told of
its edits and no command has failed after changing the text. -/
theorem mirror_of_run (h : Session.open? store formats story passage config = .ok s) (turns : List Turn)
    (now : Nat) :
    let before := turns.foldl turn (opened store s)
    let after := before.turn (.op (.syncFromStore now))
    let t := after.desk.session
    (before.desk.syncFromStore now).1 = .ok () → t.isCommitPending = false →
      (∀ r, after.desk.stored? = some r → r.stamp = t.revision.stamp → r = t.revision) →
      ∃ r, after.desk.stored? = some r ∧
        (¬ after.parted → t.localText = r.passage.text) ∧
        (after.parted → r = before.desk.session.revision ∧ t.localText = before.desk.session.localText) ∧
        (store.Stamped →
          (∀ earlier turn, earlier ++ [turn] <+: turns →
            (earlier.foldl Desk.turn ⟨store, s⟩).Orderly turn) →
          ¬ after.dropped → t.localText = r.passage.text) ∧
        (¬ after.unheard → ∀ b, t.buffer = some b → b.text = t.localText) := by
  intro before after t hok hidle hsame
  have hsound : after.Sound := sound_turn (sound_run h turns) _
  obtain ⟨r, hr, hread⟩ := stored_of_syncFromStore hok
  have hheld : r = t.revision := by
    rcases hread with ⟨-, hrevision⟩ | ⟨htakes, hstamp, -⟩
    · exact hrevision.symm
    · refine hsame r hr ?_
      have hkept : t.revision = before.desk.session.revision := (kept_of_not_takesOver htakes).2.1
      rw [hkept]
      exact hstamp
  have htext : ¬ after.parted → t.localText = r.passage.text := by
    intro hparted
    rw [hheld]
    exact hsound.text hidle hparted
  refine ⟨r, hr, htext, ?_, ?_, hsound.shown⟩
  · rintro ⟨htakes, -⟩
    obtain ⟨-, hlocal⟩ := (hread.resolve_left fun hover => htakes hover.1).2
    exact ⟨hheld.trans (kept_of_not_takesOver htakes).2.1, hlocal⟩
  · intro hstamped horderly hdropped
    refine htext fun hparted => ?_
    -- a commit that was written is stored under a newer stamp than the revision held
    have hahead : after.Ahead := by
      obtain ⟨-, touched, hsteady⟩ := steady_run h turns
      have hdesk : before.desk = turns.foldl Desk.turn ⟨store, s⟩ := desk_run _ _
      rw [← hdesk] at hsteady
      exact ahead_turn (ahead_run h hstamped horderly) hsteady trivial
    have hlt := hahead.ahead hparted hdropped r hr
    rw [hheld] at hlt
    exact Nat.lt_irrefl _ hlt

/-! ### A letter that is dropped and stays -/

/-- A letter is typed and its commit becomes pending. -/
def letterTyped : List Turn :=
  [.op (.request (.attach (.ofText ""))), .typed (·.typeText "x"), .op (.localChange 0)]

/-- The commit is dropped with the buffer, and another buffer is attached. -/
def letterDropped : List Turn :=
  letterTyped ++ [.op (.request .detach), .op (.request (.attach (.ofText "")))]

/-- The reading succeeds with nothing pending, and the session and the buffer have a letter that is not
stored. -/
theorem letter_kept_after_drop :
    ((Session.open? smallStore .empty ⟨1⟩ ⟨1⟩ .default).toOption.map fun s =>
      let d := letterDropped.foldl Desk.turn ⟨smallStore, s⟩
      let e := d.step (.syncFromStore 0)
      ((d.syncFromStore 0).1.isOk, e.session.isCommitPending, e.session.localText, e.session.view.shown,
        e.stored?.map (·.passage.text))) =
      some (true, false, "ax", some "ax", some "a") := by
  decide +kernel

private theorem stamped_smallStore : smallStore.Stamped := by
  intro story id r hr
  obtain ⟨st, hst, hr⟩ := Option.bind_eq_some_iff.1 hr
  obtain rfl := List.mem_singleton.1 (List.mem_of_find?_eq_some hst)
  obtain rfl := List.mem_singleton.1 (List.mem_of_find?_eq_some hr)
  exact Nat.one_pos

/-- Where the commit is written, the letter is what is stored. -/
theorem mirror_of_run_written :
    ∃ s, Session.open? smallStore .empty ⟨1⟩ ⟨1⟩ .default = .ok s ∧ smallStore.Stamped ∧
      let before := letterTyped.foldl turn (opened smallStore s)
      let after := before.turn (.op (.syncFromStore 1000))
      (before.desk.syncFromStore 1000).1 = .ok () ∧ after.desk.session.isCommitPending = false ∧
      ¬ after.dropped ∧
        after.desk.session.localText = "ax" ∧
        ∃ r, after.desk.stored? = some r ∧ after.desk.session.localText = r.passage.text := by
  have hvalues : ((Session.open? smallStore .empty ⟨1⟩ ⟨1⟩ .default).toOption.map fun s =>
      let d := letterTyped.foldl Desk.turn ⟨smallStore, s⟩
      ((d.syncFromStore 1000).1.isOk, (d.step (.syncFromStore 1000)).session.isCommitPending,
        (d.step (.syncFromStore 1000)).session.localText, d.touches (.syncFromStore 1000))) =
      some (true, false, "ax", true) := by
    decide +kernel
  rcases h : Session.open? smallStore .empty ⟨1⟩ ⟨1⟩ .default with e | s
  · simp [h, Except.toOption] at hvalues
  rw [h, Except.toOption, Option.map_some, Option.some.injEq] at hvalues
  have hdesk : (letterTyped.foldl turn (opened smallStore s)).desk =
      letterTyped.foldl Desk.turn ⟨smallStore, s⟩ :=
    desk_run _ _
  simp only [Prod.mk.injEq, ← hdesk] at hvalues
  obtain ⟨hok, hidle, hlocal, htouches⟩ := hvalues
  have hok' : ((letterTyped.foldl turn (opened smallStore s)).desk.syncFromStore 1000).1 = .ok () := by
    generalize ((letterTyped.foldl turn (opened smallStore s)).desk.syncFromStore 1000).1 = result at hok
    cases result with
    | ok u => rfl
    | error e => simp [Except.isOk, Except.toBool] at hok
  have htakes : (letterTyped.foldl turn (opened smallStore s)).desk.TakesOver
      (.op (.syncFromStore 1000)) :=
    ⟨trivial, htouches⟩
  have hdropped :
      ¬ ((letterTyped.foldl turn (opened smallStore s)).turn (.op (.syncFromStore 1000))).dropped :=
    fun hd => hd.1 htakes
  obtain ⟨r, hr, hread⟩ := stored_of_syncFromStore hok'
  have hheld := (hread.resolve_right fun hkept => hkept.1 htakes).2
  have horderly : ∀ earlier t, earlier ++ [t] <+: letterTyped →
      (earlier.foldl Desk.turn ⟨smallStore, s⟩).Orderly t := by
    intro earlier t hprefix
    have ht : t ∈ letterTyped := hprefix.subset (by simp)
    simp only [letterTyped, List.mem_cons, List.not_mem_nil, or_false] at ht
    rcases ht with rfl | rfl | rfl <;> trivial
  obtain ⟨r', hr', -, -, htext, -⟩ := mirror_of_run h letterTyped 1000 hok' hidle fun q hq _ =>
    (Option.some.inj (hq.symm.trans hr)).trans hheld.symm
  exact ⟨s, rfl, stamped_smallStore, hok', hidle, hdropped, hlocal, r', hr',
    htext stamped_smallStore horderly hdropped⟩

end Run

end Followed

end PassageEditor
