import Mathlib.Data.List.Induction
import PassageEditor.Proofs.Commit.Draft
import PassageEditor.Proofs.Session.OpenList

/-!
# The open list through a run

A session and the store go through a run together with the text that was shown when the last list was made
(`Listed`).  The host tells every edit of its own at once (`Told`), and such an edit makes the list anew
or closes it, as do moves of the cursor, picks and crashes.  A command, a buffer that is attached and a
story that is taken over leave an open list as it is, so it is out of date as soon as one of these changes
the text shown (`Desk.Overtakes`), and at no other time (`list_current_of_run`).
-/

namespace PassageEditor

namespace Session

/-! ### Stories -/

/-- The story brings another text under an open list: no commit is pending, and the revision in it has a
text that is neither that of the session nor the one shown. -/
def Retexts (s : Session) (story : Story) : Prop :=
  s.completion.isSome ∧ ∃ r, s.news? story = some r ∧ s.isCommitPending = false ∧
  s.localText ≠ r.passage.text ∧
    s.view.shown ≠ some r.passage.text

private theorem completion_adopt (s : Session) (story : Story) (r : Revision) :
    (s.adopt story r).completion = s.completion :=
  congrArg Prod.fst (offer_adopt s story r)

/-- What is shown after a story has been taken over. -/
private theorem shown_adopt (s : Session) (story : Story) (r : Revision) :
    (s.adopt story r).view.shown =
      if s.isCommitPending = false ∧ s.localText ≠
        r.passage.text then s.view.shown.map fun _ => r.passage.text
      else s.view.shown := by
  rw [view_adopt]
  have htext := s.draft.text_retarget ⟨s.nextSerial, story.id, r.passage.id⟩ s.now
  have hpending := s.draft.isPending_retarget ⟨s.nextSerial, story.id, r.passage.id⟩ s.now
  generalize (s.draft.retarget ⟨s.nextSerial, story.id, r.passage.id⟩ s.now).2 = draft at htext hpending
  have hadopts : (draft.adopt r.passage.text).1 = true ↔
      s.isCommitPending = false ∧ s.localText ≠ r.passage.text := by
    unfold Draft.adopt isCommitPending localText
    rw [htext, hpending]
    by_cases hp : s.draft.isPending
    · simp [hp]
    · by_cases ht : s.draft.text = r.passage.text
      · simp [ht]
      · simp [hp, ht]
  simp only [hadopts]

private theorem ordered_adopt {s : Session} (h : s.Ordered) {story : Story} {r : Revision}
    (hr : s.news? story = some r) :
    (s.adopt story r).Ordered := by
  obtain ⟨hmem, hid⟩ := news?_eq_some hr
  have hoffer := offer_adopt s story r
  simp only [offer, Prod.mk.injEq] at hoffer
  obtain ⟨hlist, hhealth, htracker⟩ := hoffer
  have hstory : (s.adopt story r).story = story := congrArg View.story (view_adopt s story r)
  have hrevision : (s.adopt story r).revision = r := congrArg View.revision (view_adopt s story r)
  refine ⟨fun hc => ?_, fun hc => ?_, fun t ht => ?_, ?_⟩
  · have hshown := h.attached (hlist ▸ hc)
    rw [shown_adopt]
    split
    · rw [Option.isSome_map]
      exact hshown
    · exact hshown
  · rw [hhealth]
    exact h.live (hlist ▸ hc)
  · rw [htracker] at ht
    obtain ⟨u, hu, rfl⟩ := Option.map_eq_some_iff.1 ht
    rw [hrevision]
    exact ⟨(Tracker.consistent_sync (h.tracked u hu).1 story).1,
      Tracker.isScanned_sync (h.tracked u hu).1 hmem⟩
  · rw [hstory, hrevision]
    exact ⟨r, hmem, rfl⟩

end Session

namespace Desk

open Session

/-! ### What is told of a turn -/

/-- One thing that happens where the host tells each edit of its own at once. -/
inductive Told
  | op (op : Op)
  /-- The host changes the attached buffer and tells so. -/
  | typed (change : Buffer → Buffer) (now : Nat)
  /-- Others change the store. -/
  | written (change : Store → Store)

def tell (d : Desk) : Told → Desk
  | .op op => d.step op
  | .typed change now => (d.turn (.typed change)).step (.localChange now)
  | .written change => d.turn (.written change)

/-- The list that is made when an edit is told. -/
def listOfEdit? (d : Desk) (now : Nat) : Option CompletionList :=
  if d.session.health = .crashed then none
  else (d.tick now).2.session.buffer.bind fun b =>
    Result.list? ((d.tick now).2.session.bufferChanged b).followEdit

/-- The list that a turn makes, if it makes one. -/
def lists? (d : Desk) : Told → Option CompletionList
  | .op (.request request) => d.session.lists? request
  | .op (.localChange now) => d.listOfEdit? now
  | .typed change now => (d.turn (.typed change)).listOfEdit? now
  | _ => none

/-- The turn changes the text shown under an open list, which stays. -/
def Overtakes (d : Desk) : Told → Prop
  | .op (.request request) => d.session.Overtakes request
  | .op (.storyChange story now) => (d.tick now).2.session.Retexts (d.current story now)
  | .op (.syncFromStore now) =>
    ∃ story, (d.tick now).2.store.story? (d.tick now).2.session.story.id = some story ∧
      (d.tick now).2.session.Retexts story
  | _ => False

/-! ### What a turn does to the list -/

theorem offer_tick (d : Desk) (now : Nat) : (d.tick now).2.session.offer = d.session.offer := by
  rw [session_tick]
  rfl

private theorem ordered_tick {d : Desk} (h : d.session.Ordered) (now : Nat) :
    (d.tick now).2.session.Ordered := by
  have hview := d.view_tick now
  exact h.keep (d.offer_tick now) (congrArg View.story hview) (congrArg View.revision hview)
    (by rw [hview]; exact id)

private theorem shown_tick (d : Desk) (now : Nat) :
    (d.tick now).2.session.view.shown = d.session.view.shown := by
  rw [view_tick]

theorem session_localChange (d : Desk) (now : Nat) :
    (d.localChange now).2.session =
      if d.session.health = .crashed then d.session
      else
        match (d.tick now).2.session.buffer with
        | none => (d.tick now).2.session
        | some b => ((d.tick now).2.session.bufferChanged b).followEdit.2 := by
  rw [localChange_def]
  by_cases hl : d.session.health = .crashed
  · simp [hl]
  simp only [if_neg hl]
  generalize (d.tick now).2 = e
  rw [withBuffer_def]
  cases e.session.buffer <;> rfl

/-- An edit that is told makes a list or leaves none open. -/
private theorem treats_localChange {d : Desk} (h : d.session.Ordered) (s : Session) (now : Nat) :
    Treats s (d.localChange now).2.session (d.listOfEdit? now) False ∧
    (d.localChange now).2.session.Ordered := by
  rw [session_localChange]
  unfold listOfEdit?
  by_cases hl : d.session.health = .crashed
  · simp only [if_pos hl]
    have hclosed : d.session.completion = none := Option.not_isSome_iff_eq_none.1 fun hc => h.live hc hl
    exact ⟨.closes rfl hclosed id, h⟩
  simp only [if_neg hl]
  have hhealth : (d.tick now).2.session.health = d.session.health := congrArg (·.2.1) (d.offer_tick now)
  have htick : (d.tick now).2.session.Ordered := ordered_tick h now
  generalize (d.tick now).2 = e at hhealth htick
  cases hb : e.session.buffer with
  | none =>
    have hclosed : e.session.completion = none :=
      Option.not_isSome_iff_eq_none.1 fun hc => by simpa [view, hb] using htick.attached hc
    exact ⟨.closes rfl hclosed id, htick⟩
  | some b =>
    have hview := view_bufferChanged e.session b
    have hchanged : (e.session.bufferChanged b).Ordered :=
      htick.keep (offer_bufferChanged e.session b) (congrArg View.story hview)
        (congrArg View.revision hview)
        (by rw [hview]; exact fun _ => rfl)
    have hshown : (e.session.bufferChanged b).view.shown = some b.text := by rw [hview]
    have hlive : (e.session.bufferChanged b).health ≠ .crashed := hhealth ▸ hl
    obtain ⟨c, hc⟩ : ∃ c, (e.session.bufferChanged b).buffer = some c := ⟨_, rfl⟩
    have hmakes := makes_followEdit hlive hc hchanged.ready
    refine ⟨Treats.of_makes hmakes (view_followEdit _), ?_⟩
    exact hchanged.make (by rw [hshown]; rfl) hlive (view_followEdit _)
      (keeps_followEdit (f := standing) (fun _ _ _ => rfl) _)

/-- A story that is brought leaves the list; what it does to the text is what overtakes it. -/
private theorem treats_takeOver {d : Desk} (h : d.session.Ordered) (story : Story) :
    Treats d.session (d.takeOver story).session none (d.session.Retexts story) ∧
      (d.takeOver story).session.Ordered := by
  unfold takeOver Retexts
  cases hr : d.session.news? story with
  | none => exact ⟨.leaves rfl rfl (by simp), h⟩
  | some r =>
    refine ⟨.leaves rfl (completion_adopt _ story r) ?_, ordered_adopt h hr⟩
    show (d.session.completion.isSome ∧ _) ↔ _ ∧ (d.session.adopt story r).view.shown ≠ _
    refine and_congr_right fun hc => ?_
    obtain ⟨text, htext⟩ := Option.isSome_iff_exists.1 (h.attached hc)
    rw [shown_adopt, htext]
    by_cases hchanges : d.session.isCommitPending = false ∧ d.session.localText ≠ r.passage.text
    · rw [if_pos hchanges]
      constructor
      · rintro ⟨q, hq, -, -, hne⟩ hsame
        obtain rfl := Option.some.inj hq
        exact hne hsame.symm
      · exact fun hne => ⟨r, rfl, hchanges.1, hchanges.2, fun hsame => hne hsame.symm⟩
    · rw [if_neg hchanges]
      constructor
      · rintro ⟨q, hq, hidle, hlocal, -⟩
        obtain rfl := Option.some.inj hq
        exact absurd ⟨hidle, hlocal⟩ hchanges
      · exact fun hne => absurd rfl hne

/-- Time alone is no reason to look at the list. -/
private theorem treats_after_tick {d e : Desk} {now : Nat} {overtaken : Prop}
    (h : Treats (d.tick now).2.session e.session none overtaken) :
    Treats d.session e.session none overtaken := by
  have hlist : (d.tick now).2.session.completion = d.session.completion :=
    congrArg Prod.fst (d.offer_tick now)
  cases h with
  | makes list b hmade => exact absurd hmade (by simp)
  | closes hmade hclosed hin => exact .closes hmade hclosed hin
  | leaves hmade hsame htext =>
    refine .leaves hmade (hsame.trans hlist) ?_
    rw [← hlist, ← d.shown_tick now]
    exact htext

/-- Each turn makes a list for the text shown, or leaves none open, or leaves it alone. -/
private theorem treats_tell {d : Desk} (h : d.session.Ordered) (t : Told) :
    Treats d.session (d.tell t).session (d.lists? t) (d.Overtakes t) ∧ (d.tell t).session.Ordered := by
  cases t with
  | op op =>
    cases op with
    | request request => exact ⟨treats_serve h request, ordered_serve h request⟩
    | localChange now => exact treats_localChange h d.session now
    | storyChange story now =>
      have hstep : d.tell (.op (.storyChange story now)) =
          (d.tick now).2.takeOver (d.current story now) :=
        storyChange_eq d story now
      obtain ⟨htreats, hordered⟩ := treats_takeOver (ordered_tick h now) (d.current story now)
      rw [hstep]
      exact ⟨treats_after_tick htreats, hordered⟩
    | syncFromStore now =>
      have hstep := syncFromStore_eq d now
      show Treats d.session (d.syncFromStore now).2.session none (∃ story, _ ∧ _) ∧
        (d.syncFromStore now).2.session.Ordered
      rw [hstep]
      cases (d.tick now).2.store.story? (d.tick now).2.session.story.id with
      | none =>
        have hkept : Treats (d.tick now).2.session (d.tick now).2.session none False := .of_kept rfl rfl
        simp only [reduceCtorEq, false_and, exists_false]
        exact ⟨treats_after_tick hkept, ordered_tick h now⟩
      | some story =>
        obtain ⟨htreats, hordered⟩ := treats_takeOver (ordered_tick h now) story
        simp only [Option.some.injEq, exists_eq_left']
        exact ⟨treats_after_tick htreats, hordered⟩
    | advance now =>
      have hkept : Treats (d.tick now).2.session (d.tick now).2.session none False := .of_kept rfl rfl
      exact ⟨treats_after_tick hkept, ordered_tick h now⟩
  | typed change now =>
    exact treats_localChange (d := d.turn (.typed change)) (ordered_editBuffer h change) d.session now
  | written change => exact ⟨.of_kept rfl rfl, h⟩

/-- The order does not need the host to tell its edits. -/
private theorem ordered_turn {d : Desk} (h : d.session.Ordered) (t : Turn) :
    (d.turn t).session.Ordered := by
  cases t with
  | op op => exact (treats_tell h (.op op)).2
  | typed change => exact ordered_editBuffer h change
  | written change => exact h

theorem ordered_run {d : Desk} (h : d.session.Ordered) (turns : List Turn) :
    (turns.foldl turn d).session.Ordered := by
  induction turns generalizing d with
  | nil => exact h
  | cons t turns ih => exact ih (ordered_turn h t)

end Desk

/-! ### A whole run -/

/-- A session and the store, and the text that was shown when the last list was made. -/
structure Listed where
  desk : Desk
  source : Option String

namespace Listed

open Session Desk

def turn (w : Listed) (t : Told) : Listed :=
  { desk := w.desk.tell t
    source := if (w.desk.lists? t).isSome then (w.desk.tell t).session.view.shown else w.source }

/-- If a list is open, the text shown is the one that it was made for. -/
def UpToDate (w : Listed) : Prop :=
  w.desk.session.completion.isSome → w.desk.session.view.shown = w.source

/-- The open list was made for some buffer with the text at hand. -/
structure Sound (w : Listed) : Prop where
  ordered : w.desk.session.Ordered
  made : ∀ list, w.desk.session.completion = some list →
    ∃ kind b sources, Completion.complete kind b sources = .ok (some list) ∧ w.source = some b.text

/-- A turn keeps the list sound; it stays up to date unless the turn overtakes it. -/
private theorem sound_turn {w : Listed} (h : w.Sound) (t : Told) :
    (w.turn t).Sound ∧ (w.UpToDate → ((w.turn t).UpToDate ↔ ¬ w.desk.Overtakes t)) := by
  obtain ⟨htreats, hordered⟩ := treats_tell h.ordered t
  unfold UpToDate
  cases htreats with
  | makes list b hmade hopen hshown hlist hin =>
    have hsource : (w.turn t).source = some b.text := by simp [turn, hmade, hshown]
    refine ⟨⟨hordered, fun l hl => ?_⟩, fun _ => iff_of_true (fun _ => hshown.trans hsource.symm) hin⟩
    obtain rfl : list = l := Option.some.inj (hopen.symm.trans hl)
    obtain ⟨kind, sources, hfound⟩ := hlist
    exact ⟨kind, b, sources, hfound, hsource⟩
  | closes hmade hclosed hin =>
    have hnone : (w.turn t).desk.session.completion = none := hclosed
    exact ⟨⟨hordered, fun l hl => by simp [hnone] at hl⟩,
      fun _ => iff_of_true (fun hc => by simp [hnone] at hc) hin⟩
  | leaves hmade hsame htext =>
    have hsource : (w.turn t).source = w.source := by simp [turn, hmade]
    have hlist : (w.turn t).desk.session.completion = w.desk.session.completion := hsame
    refine ⟨⟨hordered, fun l hl => ?_⟩, fun hup => ?_⟩
    · rw [hsource]
      exact h.made l (hlist ▸ hl)
    · have hbefore : (w.turn t).desk.session.view.shown = (w.desk.tell t).session.view.shown := rfl
      rw [hlist, hsource, htext, hbefore]
      constructor
      · rintro hafter ⟨hc, hne⟩
        exact hne ((hafter hc).trans (hup hc).symm)
      · intro hno hc
        by_contra hne
        exact hno ⟨hc, fun hs => hne (hs.trans (hup hc))⟩

section Run

variable {store : Store} {formats : Registry} {story : StoryId} {passage : PassageId}
  {config : Config} {s : Session}

/-- The desk with a session that has just been opened. -/
def opened (store : Store) (s : Session) : Listed := ⟨⟨store, s⟩, none⟩

theorem sound_run (h : Session.open? store formats story passage config = .ok s) (turns : List Told) :
    (turns.foldl turn (opened store s)).Sound := by
  obtain ⟨hordered, hclosed⟩ := ordered_open h
  induction turns using List.reverseRecOn with
  | nil => exact ⟨hordered, fun list hl => by simp [opened, hclosed] at hl⟩
  | append_singleton turns t ih =>
    rw [List.foldl_append]
    exact (sound_turn ih t).1

/-- Through any run of a session in which the host tells its edits, an open list was made for some buffer,
and while the text shown is still the text of that buffer, the next turn keeps it so unless it overtakes
the list: by a command that changes the text, by attaching a buffer that shows another text than the
session has, or by a story that brings another text.  Without such turns an open list is always up to
date. -/
theorem list_current_of_run (h : Session.open? store formats story passage config = .ok s)
    (turns : List Told) :
    let run := fun turns : List Told => turns.foldl turn (opened store s)
    (∀ list, (run turns).desk.session.completion = some list →
      ∃ kind b sources, Completion.complete kind b sources = .ok (some list) ∧
        (run turns).source = some b.text) ∧
    (∀ t, (run turns).UpToDate → ((run (turns ++ [t])).UpToDate ↔ ¬ (run turns).desk.Overtakes t)) ∧
    ((∀ before t, before ++ [t] <+: turns → ¬ (run before).desk.Overtakes t) → (run turns).UpToDate) := by
  intro run
  have hturn : ∀ turns t, run (turns ++ [t]) = (run turns).turn t := fun turns t => by
    simp [run, List.foldl_append]
  have hkept : ∀ turns t, (run turns).UpToDate →
      ((run (turns ++ [t])).UpToDate ↔ ¬ (run turns).desk.Overtakes t) := by
    intro turns t hup
    rw [hturn]
    exact (sound_turn (sound_run h turns) t).2 hup
  refine ⟨(sound_run h turns).made, hkept turns, fun hnone => ?_⟩
  induction turns using List.reverseRecOn with
  | nil =>
    intro hc
    have hclosed : s.completion = none := (ordered_open h).2
    simp [run, opened, hclosed] at hc
  | append_singleton turns t ih =>
    have hbefore : (run turns).UpToDate := ih fun before t' hp =>
      hnone before t' (hp.trans (List.prefix_append _ _))
    exact (hkept turns t hbefore).2 (hnone turns t (List.prefix_refl _))

/-! ### A list for a text that is gone -/

/-- A format with one name of its own, which is always offered. -/
def offeringFormat : Registry :=
  let hooks : VariableHooks := ⟨[], none, some fun names _ => .ok names, fun _ => .ok [.native "it"]⟩
  ⟨[(⟨"Harlowe", "3.3.8"⟩, ⟨⟨"Harlowe", "3.3.8"⟩, .loaded, none,
    some ⟨0, { Extensions.empty with variableHooks := some hooks }⟩⟩)], 1⟩

/-- A store with one empty passage of that format. -/
def offeringStore : Store :=
  ⟨[⟨⟨1⟩, "Story", ⟨"Harlowe", "3.3.8"⟩, [⟨0, .fresh ⟨1⟩ "Start" "" []⟩]⟩], 0, 1⟩

/-- An at sign opens the list and is committed. -/
def atSign : List Told :=
  [.op (.request (.attach (.ofText ""))), .typed (·.typeText "@") 0, .op (.advance 1000)]

/-- Then others write another text, and the session takes it over. -/
def rewritten : List Told :=
  atSign ++ [.written (·.updatePassage ⟨1⟩ ⟨1⟩ (.ofText "The end")), .op (.syncFromStore 1000)]

/-- The list for the at sign is open over the other text, and a pick overwrites the first letter of
that. -/
theorem pick_overwrites_rewritten_text :
    ((Session.open? offeringStore offeringFormat ⟨1⟩ ⟨1⟩ .default).toOption.map fun s =>
      let w := rewritten.foldl turn (opened offeringStore s)
      (w.source, w.desk.session.view.shown, w.desk.session.completion.map (·.range),
        (w.desk.session.serve (.pick 0)).view.shown)) =
      some (some "@", some "The end", some ⟨⟨0, 0⟩, ⟨0, 1⟩⟩, some "ithe end") := by
  decide +kernel

/-- While the at sign is all there is, its list is up to date. -/
theorem list_current_of_run_at_sign :
    ∃ s, Session.open? offeringStore offeringFormat ⟨1⟩ ⟨1⟩ .default = .ok s ∧
      let w := atSign.foldl turn (opened offeringStore s)
      w.desk.session.completion.isSome ∧ w.source = some "@" ∧ w.UpToDate ∧
        ∀ list, w.desk.session.completion = some list →
          ∃ kind b sources, Completion.complete kind b sources = .ok (some list) ∧
            w.source = some b.text := by
  have hopen : (Session.open? offeringStore offeringFormat ⟨1⟩ ⟨1⟩ .default).isOk := by decide +kernel
  rcases h : Session.open? offeringStore offeringFormat ⟨1⟩ ⟨1⟩ .default with e | s
  · simp [h, Except.isOk, Except.toBool] at hopen
  have hlist : ((Session.open? offeringStore offeringFormat ⟨1⟩ ⟨1⟩ .default).toOption.map fun s =>
      let w := atSign.foldl turn (opened offeringStore s)
      (w.desk.session.completion.isSome, w.source, w.desk.session.view.shown)) =
        some (true, some "@", some "@") := by
    decide +kernel
  rw [h, Except.toOption, Option.map_some, Option.some.injEq] at hlist
  simp only [Prod.mk.injEq] at hlist
  obtain ⟨hopened, hsource, hshown⟩ := hlist
  have hmade := (list_current_of_run h atSign).1
  exact ⟨s, rfl, hopened, hsource, fun _ => hshown.trans hsource.symm, hmade⟩

end Run

end Listed

end PassageEditor
