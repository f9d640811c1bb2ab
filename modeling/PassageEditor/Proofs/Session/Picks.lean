import PassageEditor.Proofs.Session.Errors
import PassageEditor.Proofs.Session.Hints

/-!
# Picks that fail

The pick of an entry that runs a command is two things, one after the other: the word that was typed goes,
and then the command runs.  Nothing can stop the first where there is an entry to pick, and nothing takes
it back where the second fails (`Session.pickCompletion_of_error`).
-/

namespace PassageEditor

namespace Completion

/-- The buffer without the word that a command was picked for. -/
def wordCut (b : Buffer) (range : Range) (consumeSlash : Bool) : Buffer :=
  b.replaceRange ""
    (if consumeSlash then ⟨range.start.line, range.start.ch - 1⟩ else range.start) range.stop

/-- An entry that runs a command does nothing to the buffer but to cut the word. -/
private theorem applyPick_eq_command {b cut : Buffer} {list : CompletionList} {index : Nat}
    {name : String} (h : applyPick b list index = .ok (some name, cut)) :
    ∃ item consumes, list.items[index]? = some item ∧ item.action = .runCommand name consumes ∧
      cut = wordCut b list.range consumes := by
  unfold applyPick at h
  split at h
  · simp at h
  · rename_i item hitem
    have happly := Except.ok.inj h
    unfold applyItem at happly
    split at happly
    · simp at happly
    · dsimp only at happly
      split at happly <;> simp at happly
    · rename_i command consumes haction
      obtain ⟨hname, hcut⟩ := Prod.mk.inj happly
      obtain rfl := Option.some.inj hname
      exact ⟨item, consumes, hitem, haction, hcut.symm⟩

end Completion

namespace Session

open Completion

variable {s t : Session} {e : SessionError}

/-- What a session is after the pick of an entry whose command has failed: the word is cut, the list is
closed, and the text without the word waits to be committed.  But for the buffer the session is that of
any pick (`kept`); a command that is not there leaves the buffer at that as well. -/
structure LostCommand (s t : Session) (e : SessionError) (name : String) (cut : Buffer) : Prop where
  kept : { t with buffer := (s.afterPick cut).buffer } = s.afterPick cut
  closed : t.completion = none
  text : t.localText = cut.text
  pending : t.draft.pending = some ⟨cut.text, s.draft.target, s.now + s.draft.delay⟩
  shown : t = s.afterPick cut → ∀ b, t.buffer = some b → b.text = cut.text ∧ b.hints = none
  error : e = .surface (.unknown name) ∧ t = s.afterPick cut ∨
    ∃ fault, e = .extension fault ∧ fault.format = s.format

private theorem shown_afterPick (s : Session) (cut : Buffer) :
    ∀ b, (s.afterPick cut).buffer = some b → b.text = cut.text ∧ b.hints = none := by
  intro b hb
  have hview : (s.afterPick cut).view.shown = some cut.text := congrArg View.shown (view_afterPick s cut)
  have htext : some b.text = some cut.text := (shown_of_buffer hb).symm.trans hview
  exact ⟨Option.some.inj htext, hinted_afterPick s cut b hb⟩

private theorem lostCommand_of_execCommand {name : String} {cut : Buffer} (hlive : s.health ≠ .crashed)
    (h : errorIn ((s.afterPick cut).execCommand name).1 = some e) :
    s.LostCommand ((s.afterPick cut).execCommand name).2 e name cut := by
  have hthere : ∃ c, (s.afterPick cut).buffer = some c := ⟨_, rfl⟩
  obtain ⟨b, c, hb, hran, -, hafter⟩ := (error_execCommand h).resolve_left fun hlacks =>
    not_lacks (s := s.afterPick cut) hlive hthere.choose_spec hlacks.1
  rw [hafter]
  refine ⟨rfl, rfl, rfl, rfl, fun hsame => ?_, ?_⟩
  · rw [hsame]
    exact shown_afterPick s cut
  rcases error_runCommand hran with ⟨rfl, rfl⟩ | hfault
  · exact .inl ⟨rfl, by rw [← hb]⟩
  · exact .inr hfault

/-- A pick fails in one of two ways.  It is refused where there is no entry to pick, and then nothing has
changed.  Or the entry is picked, which takes the word away, and it is its command that fails, because
there is none of that name or because the code of the format fails. -/
theorem pickCompletion_of_error {index : Nat} (h : (s.pickCompletion index).1 = .error e) :
    ((e = .crashed ∨ e = .noActiveCompletion ∨ e = .noEditorAttached ∨
          ∃ count, e = .completion (.noSuchItem index count)) ∧
        s.picked? index = none ∧ (s.pickCompletion index).2 = s) ∨
      ∃ list b item name consumes, s.completion = some list ∧ s.buffer = some b ∧
        list.items[index]? = some item ∧ item.action = .runCommand name consumes ∧
        s.LostCommand (s.pickCompletion index).2 e name (wordCut b list.range consumes) := by
  rcases hpicked : s.picked? index with _ | ⟨_ | name, cut⟩
  · obtain ⟨e', hrefused, herror⟩ := pickCompletion_of_not_picked hpicked
    rw [hrefused] at h ⊢
    obtain rfl := Except.error.inj h
    exact .inl ⟨herror, rfl, rfl⟩
  · rw [pickCompletion_of_text hpicked] at h
    simp at h
  · obtain ⟨hlive, list, b, hlist, hb, happly⟩ := picked?_eq_some_iff.1 hpicked
    obtain ⟨item, consumes, hitem, haction, rfl⟩ := applyPick_eq_command happly
    rw [pickCompletion_of_command hpicked] at h ⊢
    have herror : errorIn ((s.afterPick (wordCut b list.range consumes)).execCommand name).1 = some e :=
      (errorIn_map (fun _ => some name) _).symm.trans (congrArg errorIn h)
    exact .inr ⟨list, b, item, name, consumes, hlist, hb, hitem, haction,
      lostCommand_of_execCommand hlive herror⟩

end Session

namespace Desk

open Session

/-! ### A button without a command -/

/-- A format with one button, for a command that neither it nor the buffer has. -/
def strayFormat : Registry :=
  let toolbar : Buffer → ToolbarContext → Outcome (List ToolbarItem) :=
    fun _ _ => .ok [.button ⟨"nowhere", "Top", "", false, false⟩]
  ⟨[(⟨"Harlowe", "3.3.8"⟩, ⟨⟨"Harlowe", "3.3.8"⟩, .loaded, none,
    some ⟨0, { Extensions.empty with toolbar := some toolbar }⟩⟩)], 1⟩

/-- A store with one passage. -/
def strayStore : Store := ⟨[⟨⟨1⟩, "Story", ⟨"Harlowe", "3.3.8"⟩, [⟨0, .fresh ⟨1⟩ "Start" "" []⟩]⟩], 0, 1⟩

/-- A slash opens the list of the button, and is committed. -/
def strayDesk (s : Session) : Desk :=
  [Turn.op (.request (.attach (.ofText ""))), .typed (·.typeText "/"), .op (.localChange 0),
    .op (.advance 1000)].foldl turn ⟨strayStore, s⟩

/-- The texts kept and shown, the time of a pending commit, and whether a list is open. -/
structure Seen where
  kept : String
  shown : Option String
  deadline : Option Nat
  listed : Bool
  deriving DecidableEq

def seen (s : Session) : Seen :=
  ⟨s.localText, s.buffer.map (·.text), s.draft.pending.map (·.deadline), s.completion.isSome⟩

/-- The pick ends in an error; before it the slash was there, the list was open and no commit was
pending. -/
theorem slash_lost_to_stray_button :
    ((Session.open? strayStore strayFormat ⟨1⟩ ⟨1⟩ .default).toOption.map fun s =>
      let pick := (strayDesk s).session.pickCompletion 0
      (errorIn pick.1, seen (strayDesk s).session, seen pick.2)) =
      some (some (.surface (.unknown "nowhere")), ⟨"/", some "/", none, true⟩,
        ⟨"", some "", some 2000, false⟩) := by
  decide +kernel

/-- This is the pick of an entry whose command is lost. -/
theorem pickCompletion_of_error_stray :
    ∃ s, Session.open? strayStore strayFormat ⟨1⟩ ⟨1⟩ .default = .ok s ∧
      let d := strayDesk s
      (d.session.pickCompletion 0).1 = .error (.surface (.unknown "nowhere")) ∧
        ∃ list b item name consumes, d.session.completion = some list ∧ d.session.buffer = some b ∧
          list.items[0]? = some item ∧ item.action = .runCommand name consumes ∧
          d.session.LostCommand (d.session.pickCompletion 0).2 (.surface (.unknown "nowhere")) name
            (Completion.wordCut b list.range consumes) := by
  have hpick : ((Session.open? strayStore strayFormat ⟨1⟩ ⟨1⟩ .default).toOption.map fun s =>
      errorIn ((strayDesk s).session.pickCompletion 0).1) =
        some (some (.surface (.unknown "nowhere"))) := by
    decide +kernel
  rcases h : Session.open? strayStore strayFormat ⟨1⟩ ⟨1⟩ .default with e | s
  · simp [h, Except.toOption] at hpick
  rw [h, Except.toOption, Option.map_some, Option.some.injEq] at hpick
  have herror : ((strayDesk s).session.pickCompletion 0).1 = .error (.surface (.unknown "nowhere")) := by
    rcases hresult : ((strayDesk s).session.pickCompletion 0).1 with e | command
    · rw [hresult] at hpick
      exact congrArg Except.error (Option.some.inj hpick)
    · simp [hresult, errorIn] at hpick
  refine ⟨s, rfl, herror, (pickCompletion_of_error herror).resolve_left fun hrefused => ?_⟩
  simp at hrefused

end Desk

end PassageEditor
