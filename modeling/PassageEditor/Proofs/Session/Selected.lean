import PassageEditor.Proofs.Session.InStep

/-!
# Placeholders that are marked as selected

Before a selection is made, the widget of each live placeholder is marked as selected, or not, by the
ranges that are asked for (`marks_of_select`).  What is selected then is those ranges moved into the text,
or what was selected before where none are asked for.  So the mark is right unless nothing was asked for
while the placeholder was hit, or a range was that goes on from the start of the placeholder beyond the
end of the text (`Buffer.Misses`).
-/

namespace PassageEditor

open Markup

namespace Buffer

variable {b : Buffer}

/-- Before the end of a line only the position itself is moved to one. -/
private theorem clamp_eq_iff {p q : Position} (hline : q.line < b.lines.length)
    (hch : q.ch < (b.line q.line).length) :
    b.clamp p = q ↔ p = q := by
  constructor
  · intro h
    unfold clamp at h
    split at h
    · subst h
      exact absurd hch (Nat.lt_irrefl _)
    · subst h
      obtain ⟨line, ch⟩ := p
      simp only [Position.mk.injEq, true_and]
      simp only at hch
      omega
  · rintro rfl
    exact clamp_of_inside ⟨hline, Nat.le_of_lt hch⟩

/-- Of the ranges that are asked for a range is hit otherwise than by what is selected in the end. -/
def Misses (b : Buffer) (ranges : List Selection) (r : Range) : Prop :=
  (ranges = [] ∧ selectionHits b.selections r) ∨
    ∃ head, ranges = [⟨r.start, head⟩] ∧ head ≠ r.stop ∧ b.clamp head = r.stop

private theorem selectionHits_setSelections_iff {r : Range} (hr : b.Holds r)
    (hline : r.stop.line = r.start.line) (ranges : List Selection) :
    selectionHits ranges r = selectionHits (b.setSelections ranges).selections r ↔
      ¬ b.Misses ranges r := by
  obtain ⟨hstart, hstop, hlt⟩ := hr
  have hch : r.start.ch < r.stop.ch := by
    rw [Position.lt_def] at hlt
    omega
  have hclamp {p : Position} : b.clamp p = r.start ↔ p = r.start :=
    clamp_eq_iff hstart.1 (Nat.lt_of_lt_of_le hch (hline ▸ hstop.2))
  have hne : r.stop ≠ r.start := fun heq => Nat.lt_irrefl _ (heq ▸ hch)
  rcases ranges with _ | ⟨only, _ | ⟨second, ranges⟩⟩
  · -- nothing is asked for, and what is selected stays
    show false = selectionHits b.selections r ↔ _
    simp [Misses]
  · obtain ⟨anchor, head⟩ := only
    have hhits : selectionHits [⟨anchor, head⟩] r = true ↔
        anchor = r.start ∧ (head = r.start ∨ head = r.stop) := by
      simp [selectionHits]
    have hhits' : selectionHits (b.setSelections [⟨anchor, head⟩]).selections r = true ↔
        anchor = r.start ∧ (head = r.start ∨ b.clamp head = r.stop) := by
      simp [setSelections, selectionHits, hclamp]
    have hmisses : b.Misses [⟨anchor, head⟩] r ↔
        anchor = r.start ∧ head ≠ r.stop ∧ b.clamp head = r.stop := by
      simp [Misses]
    rw [Bool.eq_iff_iff, hhits, hhits', hmisses]
    by_cases hend : head = r.stop
    · simp [hend, clamp_of_inside hstop]
    · by_cases hbeyond : b.clamp head = r.stop
      · have hapart : head ≠ r.start := by
          rintro rfl
          exact hne (hbeyond.symm.trans (clamp_of_inside hstart))
        simp [hend, hbeyond, hapart]
      · simp [hend, hbeyond]
  · -- several ranges hit nothing, wherever they are moved to
    simp [Misses, setSelections, selectionHits]

end Buffer

namespace Session

variable {s : Session} {b : Buffer}

/-- Each widget of a live placeholder is marked by the ranges that are asked for. -/
theorem marks_of_select (h : s.InStep b) (hattuned : Attuned s.hub s.marks) (ranges : List Selection)
    {x : Range × WidgetId} (hx : x ∈ s.marks.livePlaceholders b) :
    ∃ w, (s.select ranges).hub.widget? x.2 = some w ∧ w.selected = selectionHits ranges x.1 := by
  obtain ⟨drawn, hdrawn, htuned⟩ := hattuned.tuned
  obtain ⟨d, hd, rfl⟩ := Reconciler.InStep.exists_drawn h hattuned.wired.own hdrawn htuned hx
  unfold select
  rw [htuned.dispatch_beforeSelection hattuned.wired.own]
  exact widget?_foldl_mark ranges htuned.increasing s.hub htuned.below hd

/-- The session without list and hints. -/
def listless (s : Session) : Session := s.withList none none

private theorem listless_withList (s : Session) (completion : Option CompletionList)
    (hints : Option Hints) :
    (s.withList completion hints).listless = s.listless := by
  unfold listless withList
  rw [Option.map_map]
  rfl

private theorem listless_changeSelection (hlive : s.health ≠ .crashed) (hbuffer : s.buffer = some b)
    (ranges : List Selection) : (s.changeSelection ranges).2.listless = (s.select ranges).listless := by
  rw [changeSelection_eq, if_neg (by simp [hlive, hbuffer])]
  exact keeps_followSelection listless_withList _

/-- But for the list and the hints, the placeholders stay as they are when the selection is changed, and
the widgets are those that the selection leaves. -/
private theorem exists_changeSelection (hlive : s.health ≠ .crashed) (hbuffer : s.buffer = some b)
    (ranges : List Selection) :
    let u := (s.changeSelection ranges).2
    ∃ c, u.buffer = some c ∧ c.lines = b.lines ∧ c.selections = (b.setSelections ranges).selections ∧
      u.marks.livePlaceholders c = s.marks.livePlaceholders b ∧ u.hub = (s.select ranges).hub := by
  intro u
  have hsame : u.listless = (s.select ranges).listless := listless_changeSelection hlive hbuffer ranges
  obtain ⟨selections, _, hselected⟩ := b.exists_setSelections ranges
  have hshown : u.listless.buffer = some { b.setSelections ranges with hints := none } := by
    rw [hsame]
    show (s.buffer.map _).map _ = _
    rw [hbuffer]
    rfl
  obtain ⟨c, hc, hcb⟩ := Option.map_eq_some_iff.1 hshown
  have hlines : c.lines = b.lines :=
    (congrArg Buffer.lines hcb :).trans (congrArg Buffer.lines hselected :)
  have hboard : c.marks = b.marks :=
    (congrArg Buffer.marks hcb :).trans (congrArg Buffer.marks hselected :)
  have hmarks : u.marks = s.marks := (congrArg marks hsame :)
  refine ⟨c, hc, hlines, (congrArg Buffer.selections hcb :), ?_, (congrArg hub hsame :)⟩
  rw [hmarks]
  refine Reconciler.livePlaceholders_congr rfl fun h _ => ?_
  unfold Buffer.findMark?
  rw [hboard]

/-- After a change of the selection the widget of a live placeholder is marked as selected just when the
selection hits the placeholder, unless what was asked for misses it. -/
theorem marked_iff_of_changeSelection {store : Store} {formats : Registry} {story : StoryId}
    {passage : PassageId} {config : Config} (hopen : open? store formats story passage config = .ok s)
    (turns : List Desk.Turn) {b : Buffer} :
    let t := (turns.foldl Desk.turn ⟨store, s⟩).session
    t.health ≠ .crashed → t.buffer = some b → t.InStep b → ∀ ranges,
      let u := (t.changeSelection ranges).2
      ∃ c, u.buffer = some c ∧ c.lines = b.lines ∧ c.selections = (b.setSelections ranges).selections ∧
        u.marks.livePlaceholders c = t.marks.livePlaceholders b ∧
        ∀ x ∈ u.marks.livePlaceholders c, ∃ w, u.hub.widget? x.2 = some w ∧
          w.selected = selectionHits ranges x.1 ∧
          (w.selected = selectionHits c.selections x.1 ↔ ¬ b.Misses ranges x.1) := by
  intro t hlive hbuffer hstep ranges u
  obtain ⟨c, hc, hlines, hselections, hplaceholders, hhub⟩ := exists_changeSelection hlive hbuffer ranges
  refine ⟨c, hc, hlines, hselections, hplaceholders, fun x hx => ?_⟩
  rw [hplaceholders] at hx
  obtain ⟨w, hw, hmarked⟩ := marks_of_select hstep (Desk.attuned_run hopen turns) ranges hx
  obtain ⟨p, hp, hrange⟩ := Reconciler.InStep.exists_scanned hstep hx
  have hline : x.1.stop.line = x.1.start.line := by
    rw [← hrange, (shaped_of_mem_scanPlaceholders b.unbroken hp).range]
    rfl
  refine ⟨w, hhub ▸ hw, hmarked, ?_⟩
  rw [hmarked, hselections]
  exact Buffer.selectionHits_setSelections_iff (hrange ▸ holds_of_mem_scanPlaceholders hp) hline ranges

/-- A passage that is one placeholder. -/
def placeholderStore : Store :=
  ⟨[⟨⟨1⟩, "Story", default, [⟨0, .fresh ⟨1⟩ "Start" "$\x7b1:a\x7d" []⟩]⟩], 0, 1⟩

/-- The text of that passage is shown, and the cursor is set before the placeholder. -/
def placeholderTurns : List Desk.Turn :=
  [.op (.request (.attach (.ofText ""))), .op (.request (.select [.cursor .origin]))]

/-- The session after that. -/
private theorem exists_placeholderTurns : ∃ s, open? placeholderStore .empty ⟨1⟩ ⟨1⟩ .default = .ok s ∧
    let t := (placeholderTurns.foldl Desk.turn ⟨placeholderStore, s⟩).session
    ∃ b, t.health ≠ .crashed ∧ t.buffer = some b ∧ t.InStep b ∧ b.selections = [.cursor .origin] ∧
      (⟨.origin, ⟨0, 6⟩⟩, ⟨0⟩) ∈ t.marks.livePlaceholders b ∧ (t.changeSelection []).1.isOk := by
  have hvalues : ((open? placeholderStore .empty ⟨1⟩ ⟨1⟩ .default).toOption.bind fun s =>
      let t := (placeholderTurns.foldl Desk.turn ⟨placeholderStore, s⟩).session
      t.buffer.map fun b => decide (t.health ≠ .crashed ∧ b.selections = [.cursor .origin] ∧
        t.marks.standing b = [(⟨.origin, ⟨0, 6⟩⟩, ⟨0⟩)] ∧
        (t.marks.standing b).map (·.1) = (scanPlaceholders b.lines).map (·.range) ∧
        (∀ x ∈ t.marks.standing b, (t.hub.dispatch (.click x.2 .primary ⟨[]⟩)).1 = [.setSelection x.1]) ∧
        (t.changeSelection []).1.isOk)) = some true := by
    decide +kernel
  rcases h : open? placeholderStore .empty ⟨1⟩ ⟨1⟩ .default with e | s
  · simp [h, Except.toOption] at hvalues
  rw [h, Except.toOption, Option.bind_some, Option.map_eq_some_iff] at hvalues
  obtain ⟨b, hbuffer, hvalues⟩ := hvalues
  obtain ⟨hlive, hselections, hstanding, hranges, hclicks, hok⟩ := of_decide_eq_true hvalues
  refine ⟨s, rfl, b, hlive, hbuffer, Reconciler.inStep_of_standing (c := ⟨b, _⟩) hranges hclicks,
    hselections, ?_, hok⟩
  rw [Reconciler.livePlaceholders_of_standing hranges, hstanding]
  exact List.mem_singleton.2 rfl

/-- With the cursor before the placeholder its widget is marked. -/
theorem marked_iff_of_changeSelection_cursor :
    ∃ s, open? placeholderStore .empty ⟨1⟩ ⟨1⟩ .default = .ok s ∧
      let t := (placeholderTurns.foldl Desk.turn ⟨placeholderStore, s⟩).session
      let u := (t.changeSelection [.cursor .origin]).2
      ∃ b c, t.health ≠ .crashed ∧ t.buffer = some b ∧ t.InStep b ∧ u.buffer = some c ∧
        ∃ x ∈ u.marks.livePlaceholders c, ∃ w, u.hub.widget? x.2 = some w ∧ w.selected = true ∧
          selectionHits c.selections x.1 = true := by
  obtain ⟨s, hopen, b, hlive, hbuffer, hstep, -, hmem, -⟩ := exists_placeholderTurns
  obtain ⟨c, hc, -, -, hsame, hmarked⟩ :=
    marked_iff_of_changeSelection hopen placeholderTurns hlive hbuffer hstep [.cursor .origin]
  obtain ⟨w, hw, hselected, hright⟩ := hmarked _ (hsame ▸ hmem)
  have hinside : b.Inside .origin := ⟨List.length_pos_iff.2 b.nonempty, Nat.zero_le _⟩
  have hhits : ¬ b.Misses [.cursor .origin] ⟨.origin, ⟨0, 6⟩⟩ := by
    rintro (⟨hnil, -⟩ | ⟨head, hsingle, -, hbeyond⟩)
    · exact List.cons_ne_nil _ _ hnil
    · obtain rfl : Position.origin = head := congrArg Selection.head (List.singleton_inj.1 hsingle)
      rw [Buffer.clamp_of_inside hinside] at hbeyond
      exact absurd hbeyond (by decide)
  exact ⟨s, hopen, b, c, hlive, hbuffer, hstep, hc, _, hsame ▸ hmem, w, hw, hselected,
    (hright.2 hhits).symm.trans hselected⟩

/-- An empty request leaves the cursor where it is, but the widget is not marked any more. -/
theorem unmarked_of_empty_request :
    ∃ s, open? placeholderStore .empty ⟨1⟩ ⟨1⟩ .default = .ok s ∧
      let t := (placeholderTurns.foldl Desk.turn ⟨placeholderStore, s⟩).session
      let u := (t.changeSelection []).2
      ∃ b c, t.health ≠ .crashed ∧ t.buffer = some b ∧ t.InStep b ∧ (t.changeSelection []).1.isOk ∧
        u.buffer = some c ∧ ∃ x ∈ u.marks.livePlaceholders c, ∃ w, u.hub.widget? x.2 = some w ∧
        w.selected = false ∧
          selectionHits c.selections x.1 = true := by
  obtain ⟨s, hopen, b, hlive, hbuffer, hstep, hselections, hmem, hok⟩ := exists_placeholderTurns
  obtain ⟨c, hc, -, hkept, hsame, hhub⟩ := exists_changeSelection hlive hbuffer []
  obtain ⟨w, hw, hmarked⟩ := marks_of_select hstep (Desk.attuned_run hopen placeholderTurns) [] hmem
  refine ⟨s, hopen, b, c, hlive, hbuffer, hstep, hok, hc, _, hsame ▸ hmem, w, hhub ▸ hw, hmarked, ?_⟩
  rw [hkept, show b.setSelections [] = b from rfl, hselections]
  decide

end Session

end PassageEditor
