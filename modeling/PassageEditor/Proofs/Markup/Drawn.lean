import PassageEditor.Proofs.Markup.Kept

/-!
# Drawing placeholders

Placeholders are drawn one after the other.  Each gets a fresh handle, a mark at its range, and a widget;
a click on the widget selects the range (`drawing_drawPlaceholders`).  Where there was no mark of a
placeholder before, the handles are kept and their marks intact (`kept_drawPlaceholders`).
-/

namespace PassageEditor.Markup

/-- The mark of a handle that has just been drawn. -/
def drawnMark (d : Handle × Placeholder) : Mark :=
  ⟨d.1.mark, ⟨.placeholder, none, some d.1.widget⟩, d.2.range⟩

/-- The handles that are drawn for a list of placeholders, and their marks. -/
structure Drawing (c : Canvas) (ps : List Placeholder) (out : List Handle × Canvas) : Prop where
  length : out.1.length = ps.length
  marks : out.2.buffer.marks = c.buffer.marks ++ (out.1.zip ps).map drawnMark
  increasing : out.1.Pairwise fun g h => g.mark.value < h.mark.value
  fresh : ∀ h ∈ out.1, h.Fresh c out.2
  clicks : ∀ d ∈ out.1.zip ps, d.1.clickRanges out.2.hub = [d.2.range]

private theorem Drawing.marksOf_eq {c : Canvas} {ps : List Placeholder} {out : List Handle × Canvas}
    (h : Drawing c ps out) (hnone : marksOf .placeholder c.buffer = []) :
    marksOf .placeholder out.2.buffer = (out.1.zip ps).map drawnMark := by
  have hself : (((out.1.zip ps).map drawnMark).filter (·.info.cls = .placeholder)) =
      (out.1.zip ps).map drawnMark := by
    rw [List.filter_eq_self]
    intro m hm
    obtain ⟨d, -, rfl⟩ := List.mem_map.1 hm
    rfl
  unfold marksOf at hnone ⊢
  rw [h.marks, List.filter_append, hnone, List.nil_append, hself]

namespace Reconciler

private theorem marks_drawPlaceholder (c : Canvas) (p : Placeholder) :
    (drawPlaceholder c p).2.buffer.marks = c.buffer.marks ++ [drawnMark ((drawPlaceholder c p).1, p)] :=
  rfl

/-- A click on the widget selects the range. -/
private theorem clickRanges_drawPlaceholder {c : Canvas} (hc : c.hub.Numbered) (p : Placeholder) :
    (drawPlaceholder c p).1.clickRanges (drawPlaceholder c p).2.hub = [p.range] := by
  have hlisteners : (drawPlaceholder c p).1.listeners =
      [⟨c.hub.nextListener⟩, ⟨c.hub.nextListener + 1⟩] := rfl
  have hwidget : (drawPlaceholder c p).1.widget = ⟨c.hub.widgets.length⟩ := rfl
  have hhub : (drawPlaceholder c p).2.hub.listeners = c.hub.listeners ++
      [⟨⟨c.hub.nextListener⟩, .click, .selectOnClick ⟨c.hub.widgets.length⟩ p.range⟩] ++
        [⟨⟨c.hub.nextListener + 1⟩, .beforeSelection, .followSelection ⟨c.hub.widgets.length⟩ p.range⟩] :=
        rfl
  have hnone : (c.hub.listeners.filter fun l =>
      [(⟨c.hub.nextListener⟩ : ListenerId), ⟨c.hub.nextListener + 1⟩].contains l.id) = [] := by
    rw [List.filter_eq_nil_iff]
    intro l hl hmem
    have hlt := hc l hl
    simp only [List.contains_cons, List.contains_nil, Bool.or_false, Bool.or_eq_true, beq_iff_eq] at hmem
    rcases hmem with heq | heq <;> rw [heq] at hlt <;> simp only at hlt <;> omega
  unfold Handle.clickRanges
  rw [hlisteners, hwidget, hhub, List.filter_append, List.filter_append, hnone]
  simp

private theorem drawing_cons {c c' : Canvas} {h : Handle} {p : Placeholder} {ps : List Placeholder}
    {out : List Handle × Canvas} (hfront : Later c c') (hmoves : Moves .placeholder [] c' out.2)
    (hfresh : h.Fresh c c') (hmark : h.mark.value < c'.buffer.nextMark)
    (hmarks : c'.buffer.marks = c.buffer.marks ++ [drawnMark (h, p)])
    (hclick : h.clickRanges c'.hub = [p.range]) (hrest : Drawing c' ps out) :
    Drawing c (p :: ps) (h :: out.1, out.2) := by
  refine ⟨?_, ?_, ?_, ?_, ?_⟩
  · rw [List.length_cons, List.length_cons, hrest.length]
  · rw [hrest.marks, hmarks, List.zip_cons_cons, List.map_cons, List.append_assoc, List.singleton_append]
  · refine List.pairwise_cons.2 ⟨?_, hrest.increasing⟩
    intro g hg
    exact Nat.lt_of_lt_of_le hmark (hrest.fresh g hg).mark
  · intro g hg
    rcases List.mem_cons.1 hg with rfl | hg
    · exact hfresh.mono (Later.refl c) (Later.of_moves hmoves)
    · exact (hrest.fresh g hg).mono hfront (Later.refl _)
  · intro d hd
    rw [List.zip_cons_cons] at hd
    rcases List.mem_cons.1 hd with rfl | hd
    · -- drawing the others leaves the listeners of the first alone
      rw [Handle.clickRanges_moves hmoves (fun id hid => (hfresh.listeners id hid).2) (by simp)]
      exact hclick
    · exact hrest.clicks d hd

theorem drawing_drawPlaceholders {c : Canvas} (hc : c.hub.Numbered) (ps : List Placeholder) :
    Drawing c ps (drawPlaceholders c ps) := by
  induction ps generalizing c with
  | nil => exact ⟨rfl, by simp [drawPlaceholders], List.Pairwise.nil, by simp [drawPlaceholders], by simp⟩
  | cons p ps ih =>
    have hfront : Later c (drawPlaceholder c p).2 := Later.of_move (move_drawPlaceholder [] c p)
    have hmoves := moves_drawPlaceholders [] ps (drawPlaceholder c p).2
    have hfresh : (drawPlaceholder c p).1.Fresh c (drawPlaceholder c p).2 := by
      rw [drawPlaceholder_eq]
      exact Handle.fresh_place _ _ _ _ _ _
    exact drawing_cons hfront hmoves hfresh (Nat.lt_succ_self _) (marks_drawPlaceholder c p)
      (clickRanges_drawPlaceholder hc p) (ih (hfront.hub hc))

/-- On a buffer without marks of placeholders the drawn ones are there, and all are intact. -/
theorem kept_drawPlaceholders {c : Canvas} (hnumbered : c.buffer.Numbered) (hc : c.hub.Numbered)
    (hnone : marksOf .placeholder c.buffer = []) :
    let out := drawPlaceholders c (scanPlaceholders c.buffer.lines)
    let drawn := out.1.zip (scanPlaceholders c.buffer.lines)
    Kept out.2 drawn ∧ drawn.map (·.1) = out.1 ∧ drawn.map (·.2) = scanPlaceholders c.buffer.lines ∧
      (∀ d ∈ drawn, d.1.Fresh c out.2) ∧ ∀ d ∈ drawn, Intact out.2.buffer d := by
  intro out drawn
  have hdrawing := drawing_drawPlaceholders hc (scanPlaceholders c.buffer.lines)
  have hlater := Later.of_moves (moves_drawPlaceholders [] (scanPlaceholders c.buffer.lines) c)
  have hfst : drawn.map (·.1) = out.1 := List.map_fst_zip (Nat.le_of_eq hdrawing.length)
  have hsnd : drawn.map (·.2) = scanPlaceholders c.buffer.lines :=
    List.map_snd_zip (Nat.le_of_eq hdrawing.length.symm)
  have hall : marksOf .placeholder out.2.buffer = drawn.map drawnMark := hdrawing.marksOf_eq hnone
  have hmem : ∀ d ∈ drawn, d.2 ∈ scanPlaceholders c.buffer.lines := fun d hd => (List.of_mem_zip hd).2
  have hfreshs : ∀ d ∈ drawn, d.1.Fresh c out.2 := fun d hd => hdrawing.fresh d.1 (List.of_mem_zip hd).1
  have hcovers : ∀ d ∈ drawn, out.2.buffer.Covers (drawnMark d).range d.2.chars := fun d hd =>
    hlater.covers (covers_of_mem_scanPlaceholders (hmem d hd))
  refine ⟨⟨hlater.numbered hnumbered, hlater.hub hc, ?_, hdrawing.clicks, ?_, ?_, ?_, ?_⟩,
    hfst, hsnd, hfreshs, ?_⟩
  · intro d hd id hid
    exact ((hfreshs d hd).listeners id hid).2
  · intro d hd
    exact shaped_of_mem_scanPlaceholders c.buffer.unbroken (hmem d hd)
  · have hincreasing := hdrawing.increasing
    rw [← hfst, List.pairwise_map] at hincreasing
    exact hincreasing
  · rw [hall, List.pairwise_map]
    have hscan := pairwise_scanPlaceholders c.buffer.lines
    rw [← hsnd, List.pairwise_map] at hscan
    exact hscan
  · intro m hm
    rw [hall] at hm
    obtain ⟨d, hd, rfl⟩ := List.mem_map.1 hm
    exact ⟨d, hd, rfl, d.2.chars, hcovers d hd, .inl rfl⟩
  · intro d hd
    refine ⟨drawnMark d, ?_, rfl, hcovers d hd⟩
    rw [hall]
    exact List.mem_map_of_mem hd

end Reconciler

end PassageEditor.Markup
