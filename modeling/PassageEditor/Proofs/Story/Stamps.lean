import Mathlib.Tactic.Common
import PassageEditor.Story.Store

/-!
# Stamps of stored revisions

A write to the store makes a revision with a stamp that the store has not given out before
(`stamp_updatePassage`), and all other passages stay as they are.  So a store and what becomes of it are
in a simple relation: what is found later was there before, or its stamp is new (`Store.Sequel`).
-/

namespace PassageEditor

namespace Store

/-! ### Reading after a write -/

private theorem find?_putStory (new : Story) (stories : List Story) (id : StoryId) :
    (putStory new stories).find? (·.id = id) = if new.id = id then some new
      else stories.find? (·.id = id) := by
  induction stories with
  | nil =>
    by_cases h : new.id = id
    · simp [putStory, h]
    · simp [putStory, h]
  | cons old rest ih =>
    unfold putStory
    by_cases hold : old.id = new.id
    · rw [if_pos hold, List.find?_cons, List.find?_cons, hold]
      by_cases h : new.id = id
      · simp [h]
      · simp [h]
    · rw [if_neg hold, List.find?_cons, List.find?_cons, ih]
      by_cases h : old.id = id
      · have hne : new.id ≠ id := fun hnew => hold (h.trans hnew.symm)
        simp [h, hne]
      · simp [h]

theorem story?_insertStory (s : Store) (new : Story) (id : StoryId) :
    (s.insertStory new).story? id = if new.id = id then some new else s.story? id :=
  find?_putStory new s.stories id

end Store

namespace Story

private theorem find?_replaceFirst? {f : Revision → Revision} {id : PassageId}
    (hf : ∀ r, (f r).passage.id = r.passage.id) {passages replaced : List Revision}
    (h : replaceFirst? f id passages = some replaced) (other : PassageId) :
    replaced.find? (·.passage.id = other) =
      if other = id then (passages.find? (·.passage.id = id)).map f
      else passages.find? (·.passage.id = other) := by
  induction passages generalizing replaced with
  | nil => simp [replaceFirst?] at h
  | cons r rest ih =>
    unfold replaceFirst? at h
    by_cases hr : r.passage.id = id
    · rw [if_pos hr, Option.some.injEq] at h
      rw [← h, List.find?_cons, List.find?_cons, List.find?_cons, hf, hr]
      by_cases hother : other = id
      · simp [hother]
      · simp [hother, Ne.symm hother]
    · rw [if_neg hr] at h
      obtain ⟨tail, htail, rfl⟩ := Option.map_eq_some_iff.1 h
      rw [List.find?_cons, List.find?_cons, List.find?_cons, ih htail]
      by_cases hother : other = id
      · simp [hother, hr]
      · simp [hother]

/-- An update makes a new revision of its passage and leaves the others. -/
private theorem find?_update? {s t : Story} {stamp : Nat} {id : PassageId} {u : Passage.Update}
    (h : s.update? stamp id u = some t) (other : PassageId) :
    t.id = s.id ∧ t.find? other =
      if other = id then (s.find? id).map fun r => ⟨stamp, r.passage.updated u⟩ else s.find? other := by
  obtain ⟨passages, hpassages, rfl⟩ := Option.map_eq_some_iff.1 h
  exact ⟨rfl, find?_replaceFirst? (f := fun r => ⟨stamp, r.passage.updated u⟩)
    (fun _ => rfl) hpassages other⟩

theorem update?_eq_none_iff {s : Story} {stamp : Nat} {id : PassageId} {u : Passage.Update} :
    s.update? stamp id u = none ↔ s.find? id = none := by
  show Option.map _ _ = none ↔ s.passages.find? (·.passage.id = id) = none
  rw [Option.map_eq_none_iff]
  induction s.passages with
  | nil => simp [replaceFirst?]
  | cons r rest ih =>
    unfold replaceFirst?
    by_cases hr : r.passage.id = id
    · simp [hr]
    · rw [if_neg hr, Option.map_eq_none_iff, ih]
      simp [hr]

end Story

namespace Store

/-- What is found after an update: the new revision where it was made, and elsewhere what was there. -/
private theorem passage?_updatePassage (s : Store) (story : StoryId) (id : PassageId) (u : Passage.Update)
    (story' : StoryId) (id' : PassageId) :
    (s.updatePassage story id u).passage? story' id' =
      if story' = story ∧ id' = id then (s.passage? story id).map fun r =>
        ⟨s.nextStamp, r.passage.updated u⟩
      else s.passage? story' id' := by
  unfold updatePassage
  cases hst : s.story? story with
  | none =>
    by_cases hsame : story' = story ∧ id' = id
    · obtain ⟨rfl, rfl⟩ := hsame
      simp [passage?, hst]
    · rw [if_neg hsame]
  | some st =>
    have hid : st.id = story := by simpa using List.find?_some hst
    dsimp only
    cases hup : st.update? s.nextStamp id u with
    | none =>
      by_cases hsame : story' = story ∧ id' = id
      · obtain ⟨rfl, rfl⟩ := hsame
        simp [passage?, hst, Story.update?_eq_none_iff.1 hup]
      · rw [if_neg hsame]
    | some st' =>
      obtain ⟨hid', -⟩ := Story.find?_update? hup id'
      show (Option.bind ((s.drawStamp.2.insertStory st').story? story') fun st => st.find? id') = _
      rw [story?_insertStory, hid', hid]
      by_cases hstory : story = story'
      · subst hstory
        obtain ⟨-, hfind⟩ := Story.find?_update? hup id'
        simp [passage?, hst, hfind]
      · rw [if_neg hstory, if_neg fun hsame => hstory hsame.1.symm]
        rfl

/-! ### Stamps -/

/-- The store has given out the stamps of all that is found in it. -/
def Stamped (s : Store) : Prop := ∀ story id r, s.passage? story id = some r → r.stamp < s.nextStamp

theorem Stamped.lt {s : Store} (h : s.Stamped) {story : StoryId} {st : Story}
    (hst : s.story? story = some st) {id : PassageId} {r : Revision} (hr : st.find? id = some r) :
    r.stamp < s.nextStamp :=
  h story id r (by rw [passage?, hst, Option.bind_some, hr])

/-- What becomes of a store where nothing old comes back. -/
structure Sequel (s t : Store) : Prop where
  nextStamp : s.nextStamp ≤ t.nextStamp
  stamped : t.Stamped
  found : ∀ story id r, t.passage? story id = some r →
    s.passage? story id = some r ∨ s.nextStamp ≤ r.stamp

theorem Sequel.refl {s : Store} (h : s.Stamped) : s.Sequel s :=
  ⟨Nat.le_refl _, h, fun _ _ _ hr => .inl hr⟩

variable {s : Store} {story : StoryId} {id : PassageId}

theorem stamp_updatePassage {u : Passage.Update} {r : Revision}
    (h : (s.updatePassage story id u).passage? story id = some r) : r.stamp = s.nextStamp := by
  rw [passage?_updatePassage, if_pos ⟨rfl, rfl⟩] at h
  obtain ⟨old, -, rfl⟩ := Option.map_eq_some_iff.1 h
  rfl

/-- An update that finds its passage takes a stamp. -/
theorem nextStamp_updatePassage (s : Store) (story : StoryId) (id : PassageId) (u : Passage.Update) :
    (s.updatePassage story id u).nextStamp = s.nextStamp +
      if (s.passage? story id).isSome then 1 else 0 := by
  unfold updatePassage passage?
  cases s.story? story with
  | none => rfl
  | some st =>
    dsimp only [Option.bind_some]
    cases hup : st.update? s.nextStamp id u with
    | none => simp [Story.update?_eq_none_iff.1 hup]
    | some st' =>
      have hfound : (st.find? id).isSome := by
        rw [Option.isSome_iff_ne_none, ne_eq, ← Story.update?_eq_none_iff, hup]
        simp
      rw [if_pos hfound]
      rfl

theorem sequel_updatePassage (h : s.Stamped) (u : Passage.Update) :
    s.Sequel (s.updatePassage story id u) := by
  have hnext := nextStamp_updatePassage s story id u
  refine ⟨by omega, fun story' id' r hr => ?_, fun story' id' r hr => ?_⟩
  · rw [passage?_updatePassage] at hr
    split at hr
    · obtain ⟨old, hold, rfl⟩ := Option.map_eq_some_iff.1 hr
      rw [hold, Option.isSome_some, if_pos rfl] at hnext
      show s.nextStamp < _
      omega
    · have := h story' id' r hr
      omega
  · rw [passage?_updatePassage] at hr
    split at hr
    · obtain ⟨old, -, rfl⟩ := Option.map_eq_some_iff.1 hr
      exact .inr (Nat.le_refl _)
    · exact .inl hr

end Store

end PassageEditor
