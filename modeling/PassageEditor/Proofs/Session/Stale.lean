import PassageEditor.Proofs.Session.Agreement

/-!
# Stories that are out of date

A commit makes a new revision of the passage, and the session goes on holding the one from before until a
story brings the new one.  A story that still has the old revision is told from a new one by the other
passages alone: where these are the same it changes nothing, and where one of them is another the text of
the old revision is taken over again, over the text that was committed (`text_after_stale_story`).
-/

namespace PassageEditor

namespace Session

/-- With no commit pending, a story that is taken over sets the text of the session, and the text shown
where the two agreed. -/
private theorem text_adopt_of_idle {s : Session} (h : s.isCommitPending = false) (hagree : s.Agrees)
    (story : Story) (r : Revision) :
    (s.adopt story r).localText = r.passage.text ∧
      ∀ b, (s.adopt story r).buffer = some b → b.text = r.passage.text := by
  have hagrees : (s.adopt story r).Agrees := agrees_adopt hagree story r
  have hlocal : (s.adopt story r).localText = r.passage.text := localText_adopt_of_idle h story r
  refine ⟨hlocal, fun b hb => ?_⟩
  rw [hagrees b hb, hlocal]

end Session

namespace Desk

/-- With no commit pending, none fires, and the draft stays. -/
private theorem tick_of_idle {d : Desk} (h : d.session.isCommitPending = false) (now : Nat) :
    (d.tick now).1 = false ∧ (d.tick now).2.session.draft = d.session.draft := by
  rw [tick_eq_of_idle h]
  exact ⟨rfl, rfl⟩

/-- A story that has the revision that the session holds brings news where its other passages differ, and
then the held revision is taken over once more. -/
private theorem storyChange_of_held {d : Desk} {story : Story} (hidle : d.session.isCommitPending = false)
    (hheld : story.find? d.session.revision.passage.id = some d.session.revision) (now : Nat) :
    (d.step (.storyChange story now)).session =
      if story.samePassages d.session.story then (d.tick now).2.session
      else (d.tick now).2.session.adopt story d.session.revision := by
  have hview := d.view_tick now
  have hrevision : (d.tick now).2.session.revision = d.session.revision := congrArg (·.revision) hview
  have hstory : (d.tick now).2.session.story = d.session.story := congrArg (·.story) hview
  show (d.storyChange story now).2.session = _
  rw [storyChange_eq, current, (tick_of_idle hidle now).1]
  unfold takeOver Session.news?
  rw [hrevision, hstory]
  simp only [Bool.false_eq_true, ↓reduceIte, hheld, Option.filter_some]
  by_cases hsame : story.samePassages d.session.story
  · simp [hsame]
  · simp [hsame]

/-- A story comes that has the very revision that the session holds, while no commit is pending.  If its
passages are those that the session knows, the text stays, whatever has been committed since that
revision; if another passage was changed, added or removed, the text of the held revision comes back, in
the session and on the buffer. -/
theorem text_after_stale_story {d : Desk} {story : Story} (now : Nat)
    (hidle : d.session.isCommitPending = false) (hshown : d.session.Agrees)
    (hheld : story.find? d.session.revision.passage.id = some d.session.revision) :
    let after := (d.step (.storyChange story now)).session
    let kept := if story.samePassages d.session.story then d.session.localText
      else d.session.revision.passage.text
    after.localText = kept ∧ ∀ b, after.buffer = some b → b.text = kept := by
  intro after kept
  have hafter : after = _ := storyChange_of_held hidle hheld now
  have hagree : (d.tick now).2.session.Agrees := agrees_tick hshown now
  have hdraft : (d.tick now).2.session.draft = d.session.draft := (tick_of_idle hidle now).2
  have hlocal : (d.tick now).2.session.localText = d.session.localText := congrArg Draft.text hdraft
  have hpending : (d.tick now).2.session.isCommitPending = false :=
    (congrArg Draft.isPending hdraft).trans hidle
  by_cases hsame : story.samePassages d.session.story
  · have hkept : kept = d.session.localText := if_pos hsame
    rw [if_pos hsame] at hafter
    rw [hkept, hafter]
    refine ⟨hlocal, fun b hb => ?_⟩
    rw [hagree b hb, hlocal]
  · have hkept : kept = d.session.revision.passage.text := if_neg hsame
    rw [if_neg hsame] at hafter
    rw [hkept, hafter]
    exact Session.text_adopt_of_idle hpending hagree story d.session.revision

/-! ### A letter that is committed and lost again -/

/-- A story of two passages. -/
def pairStory (other : Revision) : Story :=
  ⟨⟨1⟩, "Story", default, [⟨0, .fresh ⟨1⟩ "Start" "a" []⟩, other]⟩

/-- A session on the first of them; a letter is typed, and the time of its commit has come. -/
def committedDesk : Option Desk :=
  let store : Store := ⟨[pairStory ⟨1, .fresh ⟨2⟩ "Elsewhere" "" []⟩], 0, 2⟩
  (Session.open? store .empty ⟨1⟩ ⟨1⟩ .default).toOption.map fun s =>
    [Turn.op (.request (.attach (.ofText ""))), .typed (·.typeText "x"), .op (.localChange 0),
      .op (.advance 1000)].foldl turn ⟨store, s⟩

/-- A story from before the commit, in which the other passage was written to. -/
def staleStory : Story := pairStory ⟨2, .fresh ⟨2⟩ "Elsewhere" "moved on" []⟩

/-- What is stored of the passage, kept by the session, and shown, and whether a commit is pending. -/
def texts (d : Desk) : Option String × String × Option String × Bool :=
  ((d.store.passage? ⟨1⟩ ⟨1⟩).map (·.passage.text), d.session.localText, d.session.buffer.map (·.text),
    d.session.isCommitPending)

/-- The letter is committed; then the story from before it takes it off the session and the buffer
again. -/
theorem letter_reverted_by_stale_story :
    (committedDesk.map fun d => (texts d, texts (d.step (.storyChange staleStory 1000)))) =
      some ((some "ax", "ax", some "ax", false), (some "ax", "a", some "a", false)) := by
  decide +kernel

theorem text_after_stale_story_committed :
    ∃ d, committedDesk = some d ∧ d.session.isCommitPending = false ∧ d.session.Agrees ∧
      staleStory.find? d.session.revision.passage.id = some d.session.revision ∧
      (d.step (.storyChange staleStory 1000)).session.localText =
        if staleStory.samePassages d.session.story then d.session.localText
          else d.session.revision.passage.text := by
  have hrevision : committedDesk.map (·.session.revision) = some ⟨0, .fresh ⟨1⟩ "Start" "a" []⟩ := rfl
  have htexts : committedDesk.map texts = some (some "ax", "ax", some "ax", false) := by decide +kernel
  obtain ⟨d, hd, hr⟩ := Option.map_eq_some_iff.1 hrevision
  rw [hd, Option.map_some, Option.some.injEq] at htexts
  simp only [texts, Prod.mk.injEq] at htexts
  obtain ⟨-, hlocal, hshown, hidle⟩ := htexts
  have hagree : d.session.Agrees := by
    intro b hb
    rw [hb, Option.map_some, Option.some.injEq] at hshown
    exact hshown.trans hlocal.symm
  have hheld : staleStory.find? d.session.revision.passage.id = some d.session.revision := by
    rw [hr]
    rfl
  exact ⟨d, hd, hidle, hagree, hheld, (text_after_stale_story 1000 hidle hagree hheld).1⟩

end Desk

end PassageEditor
