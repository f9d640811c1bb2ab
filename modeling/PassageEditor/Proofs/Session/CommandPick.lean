import PassageEditor.Proofs.Completion.Commands
import PassageEditor.Proofs.Session.UpToDate

/-!
# Picks of commands through a run

A list of commands opens for a slash at the start of a line, and as long as it is open it is made anew
wherever the cursor goes.  It always covers the word at the cursor, and a pick takes that word away,
whether or not it belongs to the command that has been typed (`command_pick_of_run`).
-/

namespace PassageEditor

namespace Listed

open Session Desk Completion

section Run

variable {store : Store} {formats : Registry} {story : StoryId} {passage : PassageId}
  {config : Config} {s : Session}

/-- Through any run an open list of commands covers the word at the cursor of the text that it was made
for.  While that text is shown, each entry can be picked and takes away the word, and the character before
it unless the word is a lone slash, and nothing else.  What is taken away begins with the slash at the
start of the line just where one stands there and nothing but one word stands between it and the
cursor. -/
theorem command_pick_of_run (h : Session.open? store formats story passage config = .ok s)
    (turns : List Told) {list : CompletionList} :
    let w := turns.foldl turn (opened store s)
    w.desk.session.completion = some list → list.kind = .command →
      ∃ (b : Buffer) (line : List Char), w.source = some b.text ∧ b.lines[b.cursor.line]? = some line ∧
        list.range =
          ⟨⟨b.cursor.line, (wordAt line b.cursor.ch).1⟩, ⟨b.cursor.line, (wordAt line b.cursor.ch).2⟩⟩ ∧
        (w.UpToDate → ∀ index item, list.items[index]? = some item → ∃ command consumes c,
          item.action = .runCommand command consumes ∧
          w.desk.session.picked? index = some (some command, c) ∧
            c.lines = b.lines.set b.cursor.line
              (line.take (takenFrom line b.cursor.ch) ++ line.drop (wordAt line b.cursor.ch).2)) ∧
        (takenFrom line b.cursor.ch = 0 ∧ line.head? = some '/' ↔ TypesCommand line b.cursor.ch) := by
  intro w hopen hkind
  have hsound : w.Sound := sound_run h turns
  obtain ⟨kind, b, sources, hmade, hsource⟩ := hsound.made list hopen
  obtain rfl : kind = .command := (kind_of_complete hmade).symm.trans hkind
  have hlist : commands? b sources.toolbar = some list := Except.ok.inj hmade
  obtain ⟨line, hline, hrange, -⟩ := commands?_eq_some hlist
  refine ⟨b, line, hsource, hline, hrange, fun hup index item hitem => ?_, takenFrom_eq_zero_iff _ _⟩
  have hthere : w.desk.session.completion.isSome := by rw [hopen]; rfl
  have hview : w.desk.session.view.shown = some b.text := (hup hthere).trans hsource
  obtain ⟨shown, hshown, htext⟩ := Option.map_eq_some_iff.1 hview
  have hlines : shown.lines = b.lines := by
    rw [← shown.lines_text, htext, b.lines_text]
  obtain ⟨command, consumes, c, haction, happly, hpicked⟩ :=
    applyPick_of_commands hlist hline hlines hitem
  have hlive : w.desk.session.health ≠ .crashed := hsound.ordered.live hthere
  exact ⟨command, consumes, c, haction, picked?_eq_some_iff.2 ⟨hlive, list, shown, hopen, hshown, happly⟩,
    hpicked⟩

/-! ### A pick away from the command -/

/-- A format with one button. -/
def buttonFormat : Registry :=
  let toolbar : Buffer → ToolbarContext → Outcome (List ToolbarItem) :=
    fun _ _ => .ok [.button ⟨"goDocStart", "Top", "", false, false⟩]
  ⟨[(⟨"Harlowe", "3.3.8"⟩, ⟨⟨"Harlowe", "3.3.8"⟩, .loaded, none,
    some ⟨0, { Extensions.empty with toolbar := some toolbar }⟩⟩)], 1⟩

/-- A store with one passage, which has a slash in it. -/
def slashStore : Store :=
  ⟨[⟨⟨1⟩, "Story", ⟨"Harlowe", "3.3.8"⟩, [⟨0, .fresh ⟨1⟩ "Start" "yes/no" []⟩]⟩], 0, 1⟩

/-- A slash opens the list at the start of the passage. -/
def slash : List Told :=
  [.op (.request (.attach (.ofText ""))), .op (.request (.select [.cursor .origin])),
    .typed (·.typeText "/") 0]

/-- Then the cursor moves behind the slash of the passage. -/
def movedAway : List Told := slash ++ [.op (.request (.select [.cursor ⟨0, 5⟩]))]

/-- The list is still open, over the slash of the passage, and a pick takes that away. -/
theorem pick_takes_slash_of_passage :
    ((Session.open? slashStore buttonFormat ⟨1⟩ ⟨1⟩ .default).toOption.map fun s =>
      let w := movedAway.foldl turn (opened slashStore s)
      (w.desk.session.view.shown, w.desk.session.completion.map fun list => (list.kind, list.range),
        (w.desk.session.picked? 0).map fun pick => (pick.1, pick.2.text))) =
      some (some "/yes/no", some (.command, ⟨⟨0, 4⟩, ⟨0, 5⟩⟩), some (some "goDocStart", "/yesno")) := by
  decide +kernel

/-- Where the slash has just been typed, a pick takes it away again. -/
theorem command_pick_of_run_slash :
    ∃ s, Session.open? slashStore buttonFormat ⟨1⟩ ⟨1⟩ .default = .ok s ∧
      let w := slash.foldl turn (opened slashStore s)
      w.UpToDate ∧ ∃ list, w.desk.session.completion = some list ∧ list.kind = .command ∧
        list.items = [⟨"Top", .runCommand "goDocStart" false⟩] ∧
        ∃ (b : Buffer) (line : List Char), w.source = some b.text ∧ b.lines[b.cursor.line]? = some line ∧
          list.range =
            ⟨⟨b.cursor.line, (wordAt line b.cursor.ch).1⟩, ⟨b.cursor.line, (wordAt line b.cursor.ch).2⟩⟩ ∧
          ∃ c, w.desk.session.picked? 0 = some (some "goDocStart", c) ∧ c.lines = ["yes/no".toList] ∧
            c.lines = b.lines.set b.cursor.line
              (line.take (takenFrom line b.cursor.ch) ++ line.drop (wordAt line b.cursor.ch).2) := by
  have hvalues : ((Session.open? slashStore buttonFormat ⟨1⟩ ⟨1⟩ .default).toOption.map fun s =>
      let w := slash.foldl turn (opened slashStore s)
      (w.desk.session.completion.map fun list => (list.kind, list.items),
        decide (w.desk.session.view.shown = w.source), (w.desk.session.picked? 0).map (·.2.text))) =
        some (some (.command, [⟨"Top", .runCommand "goDocStart" false⟩]), true, some "yes/no") := by
    decide +kernel
  rcases h : Session.open? slashStore buttonFormat ⟨1⟩ ⟨1⟩ .default with e | s
  · simp [h, Except.toOption] at hvalues
  rw [h, Except.toOption, Option.map_some, Option.some.injEq] at hvalues
  simp only [Prod.mk.injEq] at hvalues
  obtain ⟨hlist, hshown, hpicked⟩ := hvalues
  obtain ⟨list, hopen, hlist⟩ := Option.map_eq_some_iff.1 hlist
  obtain ⟨hkind, hitems⟩ := Prod.mk.inj hlist
  have hup : (slash.foldl turn (opened slashStore s)).UpToDate := fun _ => of_decide_eq_true hshown
  have hitem : list.items[0]? = some ⟨"Top", .runCommand "goDocStart" false⟩ := by rw [hitems]; rfl
  obtain ⟨b, line, hmade, hline, hrange, htaken, -⟩ := command_pick_of_run h slash hopen hkind
  obtain ⟨command, consumes, c, haction, hpick, hlines⟩ := htaken hup 0 _ hitem
  obtain ⟨rfl, -⟩ := CompletionAction.runCommand.inj haction
  have htext : c.text = "yes/no" := by
    rw [hpick, Option.map_some, Option.some.injEq] at hpicked
    exact hpicked
  have hsplit : Text.lines "yes/no".toList = ["yes/no".toList] := by decide
  have hpicked' : c.lines = ["yes/no".toList] := by rw [← c.lines_text, htext, hsplit]
  exact ⟨s, rfl, hup, list, hopen, hkind, hitems, b, line, hmade, hline, hrange, c,
    hpick, hpicked', hlines⟩

end Run

end Listed

end PassageEditor
