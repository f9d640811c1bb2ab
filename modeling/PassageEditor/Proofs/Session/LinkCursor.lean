import PassageEditor.Proofs.Completion.Commands
import PassageEditor.Proofs.Completion.LinkList
import PassageEditor.Proofs.Session.Listing

/-!
# A cursor that opens the list of passages

A cursor that comes to stand between brackets opens the list of passages.  There need only be opening
brackets somewhere before it and closing ones somewhere behind it (`cursorInLink_iff`), which may belong
to two links: the cursor is in one link just where some brackets before it have not been closed up to it
(`encloses_iff_leftOpen`).
-/

namespace PassageEditor

namespace Completion

open Markup

variable {line : List Char} {ch p i j : Nat}

/-! ### The brackets on both sides -/

/-- The brackets at two places of a line make one closed link, and the column is in it or at its edge. -/
structure Encloses (line : List Char) (p i j : Nat) : Prop where
  starts : i ≤ p
  ends : p ≤ j
  apart : i + 2 ≤ j
  opens : OccursAt opening line i
  closes : OccursAt closing line j
  first : ∀ k, i + 2 ≤ k → k < j → ¬ OccursAt closing line k

/-- Opening brackets before the column that have not been closed up to it. -/
def LeftOpen (line : List Char) (p : Nat) : Prop :=
  ∃ i, i ≤ p ∧ OccursAt opening line i ∧ ∀ k, i + 2 ≤ k → k < p → ¬ OccursAt closing line k

theorem cursorInLink_iff (line : List Char) (ch : Nat) :
    cursorInLink line ch = true ↔
      (∃ i, i ≤ min ch line.length ∧ OccursAt opening line i) ∧
        (∃ j, min ch line.length ≤ j ∧ OccursAt closing line j) ∧
          ∀ k, min ch line.length ≤ k → ¬ OccursAt arrow line k := by
  have hopens : (lastIndexOf? opening (line.take (min ch line.length + 2))).isSome ↔
      ∃ i, i ≤ min ch line.length ∧ OccursAt opening line i := by
    rw [isSome_lastIndexOf?_iff opening_ne_nil]
    refine exists_congr fun i => ?_
    rw [occursAt_take opening_ne_nil, and_comm]
    exact and_congr_left fun _ => Nat.add_le_add_iff_right
  have hcloses : (indexOf? closing (line.drop ch)).isSome ↔
      ∃ j, min ch line.length ≤ j ∧ OccursAt closing line j := by
    rw [isSome_indexOf?_iff closing_ne_nil, List.drop_eq_drop_min, exists_occursAt_drop]
  have harrow : (indexOf? arrow (line.drop ch)).isNone ↔ ∀ k, min ch line.length ≤ k →
      ¬ OccursAt arrow line k := by
    rw [Option.isNone_iff_eq_none, ← Option.not_isSome_iff_eq_none, isSome_indexOf?_iff arrow_ne_nil,
      List.drop_eq_drop_min, exists_occursAt_drop]
    simp only [not_exists, not_and]
  unfold cursorInLink
  rw [Bool.and_eq_true, Bool.and_eq_true, hopens, hcloses, harrow, and_assoc]

/-- Closing brackets do not overlap with opening ones before them. -/
private theorem apart_of_occursAt (hopen : OccursAt opening line i) (hclose : OccursAt closing line j)
    (hle : i ≤ j) :
    i + 2 ≤ j := by
  by_contra hnear
  obtain ⟨opened, hopened⟩ := hopen
  obtain ⟨closed, hclosed⟩ := hclose
  have hdrop : line.drop j = (opening ++ opened).drop (j - i) := by
    rw [hopened, List.drop_drop, Nat.add_sub_cancel' hle]
  rw [← hclosed] at hdrop
  -- any nearer, an opening bracket would be a closing one
  have hcases : j - i = 0 ∨ j - i = 1 := by omega
  rcases hcases with hzero | hone
  · rw [hzero] at hdrop
    simp [opening, closing] at hdrop
  · rw [hone] at hdrop
    simp [opening, closing] at hdrop

/-- Where closing brackets stand behind the column, it is in a closed link just where brackets before it
have not been closed up to it. -/
theorem encloses_iff_leftOpen (hclose : ∃ j, p ≤ j ∧ OccursAt closing line j) :
    (∃ i j, Encloses line p i j) ↔ LeftOpen line p := by
  constructor
  · rintro ⟨i, j, h⟩
    exact ⟨i, h.starts, h.opens, fun k hk hlt => h.first k hk (Nat.lt_of_lt_of_le hlt h.ends)⟩
  · rintro ⟨i, hle, hopen, hunclosed⟩
    -- the link ends with the first brackets behind the column
    have hfound := (isSome_indexOf?_iff closing_ne_nil).2 (exists_occursAt_drop.2 hclose)
    obtain ⟨n, hn⟩ := Option.isSome_iff_exists.1 hfound
    obtain ⟨hoccurs, hfirst⟩ := (indexOf?_eq_some_iff closing_ne_nil).1 hn
    rw [occursAt_drop] at hoccurs
    refine ⟨i, p + n, hle, Nat.le_add_right _ _, apart_of_occursAt hopen hoccurs (by omega),
      hopen, hoccurs, ?_⟩
    intro k hk hlt
    rcases Nat.lt_or_ge k p with hbefore | hbehind
    · exact hunclosed k hk hbefore
    · have hnot := hfirst (k - p) (by omega)
      rwa [occursAt_drop, Nat.add_sub_cancel' hbehind] at hnot

end Completion

namespace Session

open Completion

variable {s : Session} {b : Buffer} {ranges : List Selection} {list : CompletionList}

/-! ### The list that a selection opens -/

private theorem completion_openCompletion_iff {kind : CompletionKind} (hc : s.completion = none) :
    (s.openCompletion b kind).2.completion = some list ↔
      complete kind b ⟨s.story, s.revision.passage.id, s.toolbar, s.tracker, s.pattern⟩ =
        .ok (some list) ∧
        list.items ≠ [] := by
  rw [openCompletion_def]
  cases complete kind b ⟨s.story, s.revision.passage.id, s.toolbar, s.tracker, s.pattern⟩ with
  | error e => simp [hc]
  | ok found =>
    cases found with
    | none => simp [completion_closeCompletion]
    | some found =>
      by_cases hempty : found.items = []
      · simp only [hempty, List.isEmpty_nil, ↓reduceIte, completion_closeCompletion,
          Except.ok.injEq, Option.some.injEq]
        exact iff_of_false (by simp) fun ⟨hsame, hitems⟩ => hitems (hsame ▸ hempty)
      · simp only [List.isEmpty_iff, hempty, ↓reduceIte, Except.ok.injEq, Option.some.injEq]
        exact ⟨fun hsame => ⟨hsame, hsame ▸ hempty⟩, And.left⟩

private theorem isInLink_iff : isInLink b = true ↔
    ∃ p line, b.selections = [.cursor p] ∧ b.lines[p.line]? = some line ∧
      cursorInLink line p.ch = true := by
  unfold isInLink
  split
  · rename_i only honly
    have hcursor : only.anchor = only.head ↔ only = .cursor only.head := by
      obtain ⟨anchor, head⟩ := only
      simp [Selection.cursor]
    rw [honly, Bool.and_eq_true, Selection.isEmpty, decide_eq_true_eq, hcursor]
    constructor
    · rintro ⟨hsame, hlink⟩
      split at hlink
      · rename_i line hline
        exact ⟨only.head, line, congrArg (fun s => [s]) hsame, hline, hlink⟩
      · simp at hlink
    · rintro ⟨p, line, hsame, hline, hlink⟩
      obtain rfl : only = .cursor p := List.singleton_inj.1 hsame
      have hline' : b.lines[(Selection.cursor p).head.line]? = some line := hline
      exact ⟨rfl, by rw [hline']; exact hlink⟩
  · rename_i hmany
    exact iff_of_false (by simp) fun ⟨p, _, hsame, _⟩ => hmany _ hsame

/-- A selection opens the list of passages for a cursor between brackets, if there is anything in it, and
no other. -/
private theorem completion_changeSelection_iff (hc : s.completion = none) (hb : s.buffer = some b) :
    (s.changeSelection ranges).2.completion = some list ↔
      s.health ≠ .crashed ∧ isInLink (b.setSelections ranges) = true ∧
        passages? (b.setSelections ranges) s.story = some list ∧ list.items ≠ [] := by
  rw [changeSelection_eq]
  by_cases hlive : s.health = .crashed
  · simp [hlive, hc]
  have hclosed : (s.select ranges).completion = none :=
    (congrArg Prod.fst (offer_select s ranges)).trans hc
  have hselected : (s.select ranges).buffer = some (b.setSelections ranges) := by simp [select, hb]
  simp only [hlive, hb, Option.isNone_some, Bool.false_eq_true, or_self, ↓reduceIte,
    followSelection_def, withBuffer_def,
    hclosed, Option.isSome_none, hselected, ne_eq, not_false_eq_true, true_and]
  split
  · rename_i hlink
    rw [completion_openCompletion_iff hclosed]
    simp only [hlink, true_and]
    exact and_congr_left fun _ => ⟨Except.ok.inj, congrArg _⟩
  · simp_all

/-- The check asks for brackets on both sides of the cursor and for no arrow behind it.  A cursor that
passes it is in a closed link just where some brackets before the cursor have not been closed up to it,
and a selection opens a list only for a cursor that passes it. -/
theorem link_around_cursor (line : List Char) (ch : Nat) :
    (cursorInLink line ch = true ↔
      (∃ i, i ≤ min ch line.length ∧ Markup.OccursAt opening line i) ∧
        (∃ j, min ch line.length ≤ j ∧ Markup.OccursAt closing line j) ∧
          ∀ k, min ch line.length ≤ k → ¬ Markup.OccursAt arrow line k) ∧
    (cursorInLink line ch = true →
      ((∃ i j, Encloses line (min ch line.length) i j) ↔ LeftOpen line (min ch line.length))) ∧
    ∀ (s : Session) (b : Buffer) (ranges : List Selection) (list : CompletionList),
      s.completion = none → s.buffer = some b → (s.changeSelection ranges).2.completion = some list →
        list.kind = .link ∧ ∃ p line, (b.setSelections ranges).selections = [.cursor p] ∧
          b.lines[p.line]? = some line ∧ cursorInLink line p.ch = true := by
  refine ⟨cursorInLink_iff line ch, fun h => ?_, fun s b ranges list hc hb h => ?_⟩
  · exact encloses_iff_leftOpen ((cursorInLink_iff line ch).1 h).2.1
  · obtain ⟨-, hin, hlist, -⟩ := (completion_changeSelection_iff hc hb).1 h
    obtain ⟨p, line, hselections, hline, hlink⟩ := isInLink_iff.1 hin
    obtain ⟨selections, _, hsame⟩ := b.exists_setSelections ranges
    have hcomplete : complete .link (b.setSelections ranges)
        ⟨s.story, s.revision.passage.id, s.toolbar, s.tracker, s.pattern⟩ = .ok (some list) :=
      congrArg Except.ok hlist
    have hkind := kind_of_complete hcomplete
    rw [hsame] at hline
    exact ⟨hkind, p, line, hselections, hline, hlink⟩

/-- Between two closed links a cursor is in neither. -/
theorem between_links :
    cursorInLink "[[a]] b [[c]]".toList 6 = true ∧
      ¬ ∃ i j, Encloses "[[a]] b [[c]]".toList (min 6 "[[a]] b [[c]]".toList.length) i j := by
  have hlink : cursorInLink "[[a]] b [[c]]".toList 6 = true := by decide +kernel
  have hfirst : ∀ i, i ≤ 6 → Markup.OccursAt opening "[[a]] b [[c]]".toList i → i = 0 := by decide
  have hclosed : Markup.OccursAt closing "[[a]] b [[c]]".toList 3 := by decide
  refine ⟨hlink, fun h => ?_⟩
  obtain ⟨i, hle, hopen, hunclosed⟩ := (encloses_iff_leftOpen ((cursorInLink_iff _ _).1 hlink).2.1).1 h
  obtain rfl := hfirst i hle hopen
  exact hunclosed 3 (by decide) (by decide) hclosed

/-! ### A list that a selection opens -/

/-- A session for a story with one passage. -/
def showing (b : Buffer) : Session :=
  { story := startStory, revision := ⟨0, .fresh ⟨1⟩ "Start" "" []⟩, config := .default,
    pattern := .empty, hub := .empty
    buffer := some b, marks := .empty .alt, draft := .ofText "" ⟨0, ⟨1⟩, ⟨1⟩⟩ 1000,
    nextSerial := 1, extensions := none
    format := ⟨"Harlowe", "3.3.8"⟩, tracker := none, health := .full, crashMessage :=
    none, mode := none, toolbar := []
    completion := none, tasks := [], opened := [], now := 0 }

/-- A cursor that goes into a link passes the check and opens the list. -/
theorem link_around_cursor_inside :
    (∃ i j, Encloses "Go [[Sta]]".toList 7 i j) ∧
      ∃ (s : Session) (b : Buffer) (list : CompletionList), s.completion = none ∧ s.buffer = some b ∧
        (s.changeSelection [.cursor ⟨0, 7⟩]).2.completion = some list ∧ list.kind = .link ∧
        ∃ p line, (b.setSelections [.cursor ⟨0, 7⟩]).selections = [.cursor p] ∧
          b.lines[p.line]? = some line ∧
          cursorInLink line p.ch = true := by
  let b := Buffer.ofText "Go [[Sta]]"
  have hlink : cursorInLink "Go [[Sta]]".toList 7 = true := by decide +kernel
  have hunclosed : ∀ k, k < 7 → ¬ Markup.OccursAt closing "Go [[Sta]]".toList k := by decide
  obtain ⟨-, hencloses, hopening⟩ := link_around_cursor "Go [[Sta]]".toList 7
  have hlist : passages? inside startStory =
      some ⟨.link, ⟨⟨0, 5⟩, ⟨0, 7⟩⟩, (Ranking.rank ["Start"] "Sta").map fun name =>
        ⟨name, .insertLink true⟩⟩ := rfl
  rw [Ranking.rank_singleton] at hlist
  have hopens : ((showing b).changeSelection [.cursor ⟨0, 7⟩]).2.completion =
      some ⟨.link, ⟨⟨0, 5⟩, ⟨0, 7⟩⟩, ["Start"].map fun name => ⟨name, .insertLink true⟩⟩ :=
    (completion_changeSelection_iff rfl rfl).2 ⟨by decide, by decide +kernel, hlist, by simp⟩
  refine ⟨(hencloses hlink).2 ⟨3, by decide, by decide, fun k _ => hunclosed k⟩, showing b, b,
    _, rfl, rfl, hopens, ?_⟩
  exact hopening (showing b) b _ _ rfl rfl hopens

end Session

end PassageEditor
