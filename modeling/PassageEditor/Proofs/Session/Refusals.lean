import PassageEditor.Proofs.Session.Errors

/-!
# Operations that are refused

What is refused leaves all as it was; an operation that tells the time has heard it, and a commit that was
due has been written (`Desk.step_of_refusal`).  A lookup of variables is no reason to fail: through every
run the tracker has scanned the passage of the session (`Desk.lookup_of_run`).
-/

namespace PassageEditor

namespace Desk

open Session

variable {d : Desk} {e : SessionError}

/-! ### Refusals -/

/-- All that has happened is that the time has moved on and a commit that was due has been written. -/
structure Waits (d e : Desk) (now : Nat) : Prop where
  session : e.session =
    { d.session with
      now := max d.session.now now
      draft := { d.session.draft with pending := e.session.draft.pending } }
  early : (∀ p, d.session.draft.pending = some p → max d.session.now now < p.deadline) →
    e.session.draft.pending = d.session.draft.pending ∧ e.store = d.store
  due : ∀ p, d.session.draft.pending = some p → p.deadline ≤ max d.session.now now →
    e.session.draft.pending = none ∧
      e.store = d.store.updatePassage p.target.story p.target.passage (.ofText p.text)

private theorem waits_tick (d : Desk) (now : Nat) : d.Waits (d.tick now).2 now := by
  refine ⟨?_, fun hearly => ?_, fun p hp hdue => ⟨?_, store_tick_of_due hp hdue⟩⟩
  · rw [session_tick]
    rcases d.session.draft.poll_eq (max d.session.now now) with h | ⟨p, -, -, h⟩ <;> rw [h]
  · obtain ⟨hstore, hdraft⟩ := tick_of_not_due fun p hp => Nat.not_le.2 (hearly p hp)
    exact ⟨congrArg Draft.pending hdraft, hstore⟩
  · rw [draft_tick]
    simp [Draft.poll, hp, hdue]

/-- An operation that is refused, or that asks for a command that is neither there in the format nor in
the buffer, changes nothing at all.  Where it tells a time, and an editor is there to hear it, the time
has moved on and a commit that was due has been written, and that is all. -/
theorem step_of_refusal {op : Op} (h : d.error? op = some e)
    (he : e.isRefusal ∨ ∃ name, op = .request (.exec name) ∧ e = .surface (.unknown name)) :
    (d.hears? op = none → d.step op = d) ∧ ∀ now, d.hears? op = some now → d.Waits (d.step op) now := by
  have hheard : d.step op = d.heard op := by
    rcases he with hrefusal | ⟨name, rfl, rfl⟩
    · rcases error_step h with ⟨-, hsame⟩ | hunscanned | hcommand
      · exact hsame
      · exact absurd hrefusal hunscanned.not_isRefusal
      · cases hcommand <;> simp [SessionError.isRefusal] at hrefusal
    · rcases error_execCommand h with ⟨hlacks, -⟩ | ⟨b, c, hb, hran, -, hstep⟩
      · cases hlacks
      · obtain ⟨-, rfl⟩ | ⟨fault, hfault, -⟩ := error_runCommand hran
        · show ({ d with session := (d.session.execCommand name).2 } : Desk) = d
          rw [hstep, ← hb]
        · simp at hfault
  rw [hheard]
  unfold heard
  constructor
  · intro hnone
    rw [hnone]
  · intro now htold
    rw [htold]
    exact waits_tick d now

section Run

variable {store : Store} {formats : Registry} {story : StoryId} {passage : PassageId}
  {config : Config} {s : Session}

/-- A story without the passage that is edited. -/
def elsewhere : Story := ⟨⟨2⟩, "Other", default, [⟨1, .fresh ⟨2⟩ "Elsewhere" "" []⟩]⟩

/-- A store with that story and the one that is edited. -/
def besideStore : Store := ⟨[⟨⟨1⟩, "Story", default, [⟨0, .fresh ⟨1⟩ "Start" "a" []⟩]⟩, elsewhere], 0, 2⟩

/-- The wrong story is refused, but its coming tells the time: the letter that was typed a second ago is
written. -/
theorem step_of_refusal_other_story :
    ∃ s, Session.open? besideStore .empty ⟨1⟩ ⟨1⟩ .default = .ok s ∧
      let d := [Turn.op (.request (.attach (.ofText ""))), .typed (·.typeText "x"),
        .op (.localChange 0)].foldl turn ⟨besideStore, s⟩
      let op := Op.storyChange elsewhere 1000
      d.error? op = some (.passageNotFound ⟨1⟩) ∧ d.Waits (d.step op) 1000 ∧
        (d.store.passage? ⟨1⟩ ⟨1⟩).map (·.passage.text) = some "a" ∧
        ((d.step op).store.passage? ⟨1⟩ ⟨1⟩).map (·.passage.text) = some "ax" := by
  have hrun : ((Session.open? besideStore .empty ⟨1⟩ ⟨1⟩ .default).toOption.map fun s =>
      let d := [Turn.op (.request (.attach (.ofText ""))), .typed (·.typeText "x"),
        .op (.localChange 0)].foldl turn ⟨besideStore, s⟩
      let op := Op.storyChange elsewhere 1000
      (d.error? op, (d.store.passage? ⟨1⟩ ⟨1⟩).map (·.passage.text),
        ((d.step op).store.passage? ⟨1⟩ ⟨1⟩).map (·.passage.text))) =
      some (some (.passageNotFound ⟨1⟩), some "a", some "ax") := by
    decide +kernel
  rcases h : Session.open? besideStore .empty ⟨1⟩ ⟨1⟩ .default with e | s
  · simp [h, Except.toOption] at hrun
  rw [h, Except.toOption, Option.map_some, Option.some.injEq] at hrun
  simp only [Prod.mk.injEq] at hrun
  obtain ⟨herror, hbefore, hafter⟩ := hrun
  exact ⟨s, rfl, herror, (step_of_refusal herror (.inl rfl)).2 1000 rfl, hbefore, hafter⟩

/-! ### Lookups -/

/-- Through any run the variables that a session tracks are those of a story that has its passage: they
can be looked up, and no operation ends in an error of a lookup. -/
theorem lookup_of_run (h : Session.open? store formats story passage config = .ok s) (turns : List Turn) :
    let d := turns.foldl turn ⟨store, s⟩
    (∀ t, d.session.tracker = some t → t.index.isScanned d.session.revision.passage.id ∧
      ∃ names, t.index.visibleNames d.session.revision.passage.id = .ok names) ∧
    ∀ op source, d.error? op ≠ some (.completion (.lookup source)) := by
  intro d
  have hready : d.session.Ready := (ordered_run (d := ⟨store, s⟩) (ordered_open h).1 turns).ready
  refine ⟨fun t ht => ⟨hready t ht, VariableIndex.visibleNames_of_isScanned (hready t ht)⟩,
    fun op source herror => ?_⟩
  rcases error_step herror with ⟨hrefusal, -⟩ | ⟨hunready, -⟩ | hcommand
  · simp [SessionError.isRefusal] at hrefusal
  · exact hunready hready
  · cases hcommand

/-- A format that looks for variables and never gets through with it. -/
def strandedFormat : Registry :=
  let hooks : VariableHooks := ⟨[], none, none, fun _ => .failed (.failed "no")⟩
  ⟨[(⟨"Harlowe", "3.3.8"⟩, ⟨⟨"Harlowe", "3.3.8"⟩, .loaded, none,
    some ⟨0, { Extensions.empty with variableHooks := some hooks }⟩⟩)], 1⟩

/-- The story of that format, with a text for its passage. -/
def strandedStory (stamp : Nat) (text : String) : Story :=
  ⟨⟨1⟩, "Story", ⟨"Harlowe", "3.3.8"⟩, [⟨stamp, .fresh ⟨1⟩ "Start" text []⟩]⟩

def strandedStore : Store := ⟨[strandedStory 0 ""], 0, 1⟩

/-- The parser fails on each text, and of two stories that are brought one is refused; still there is a
passage to ask about when a name is typed. -/
theorem lookup_of_run_stranded :
    ∃ s, Session.open? strandedStore strandedFormat ⟨1⟩ ⟨1⟩ .default = .ok s ∧
      let d := [Turn.op (.request (.attach (.ofText ""))), .op (.storyChange elsewhere 0),
        .op (.storyChange (strandedStory 1 "new") 0),
        .typed (·.typeText " @")].foldl turn ⟨strandedStore, s⟩
      d.session.tracker.isSome ∧ d.session.buffer.map (·.text) = some "new @" ∧
        ∀ source, d.error? (.request .trigger) ≠ some (.completion (.lookup source)) := by
  have hrun : ((Session.open? strandedStore strandedFormat ⟨1⟩ ⟨1⟩ .default).toOption.map fun s =>
      let d := [Turn.op (.request (.attach (.ofText ""))), .op (.storyChange elsewhere 0),
        .op (.storyChange (strandedStory 1 "new") 0),
        .typed (·.typeText " @")].foldl turn ⟨strandedStore, s⟩
      (d.session.tracker.isSome, d.session.buffer.map (·.text))) = some (true, some "new @") := by
    decide +kernel
  rcases h : Session.open? strandedStore strandedFormat ⟨1⟩ ⟨1⟩ .default with e | s
  · simp [h, Except.toOption] at hrun
  rw [h, Except.toOption, Option.map_some, Option.some.injEq] at hrun
  simp only [Prod.mk.injEq] at hrun
  exact ⟨s, rfl, hrun.1, hrun.2, (lookup_of_run h _).2 _⟩

end Run

end Desk

end PassageEditor
