import Mathlib.Data.List.Perm.Subperm
import PassageEditor.Proofs.Markup.Matches
import PassageEditor.Proofs.Markup.Passes

/-!
# Placeholders and their marks

A handle that was drawn for a placeholder may lose its mark to an edit, and text put inside the mark makes
it longer for good (`Placeholder.Grown`).  What holds of all handles from the last drawing on is `Kept`.
As long as every mark still covers the text of its placeholder (`Intact`), the marks stand where the
placeholders of the text are, whenever that text is again the one that they were drawn for
(`Kept.aligned`); and an edit takes an intact mark away or makes it longer just where it disturbs one
(`intact_edit_iff`).
-/

namespace PassageEditor.Markup

/-! ### Marks under edits -/

private theorem filter_filterMap_mark? (change : Change) (cls : MarkClass) (marks : List Mark) :
    (marks.filterMap change.mark?).filter (·.info.cls = cls) =
      (marks.filter (·.info.cls = cls)).filterMap change.mark? := by
  induction marks with
  | nil => rfl
  | cons m marks ih =>
    have hcls : ∀ n, change.mark? m = some n → n.info.cls = m.info.cls := fun n hn => by
      rw [(Change.mark?_eq_some hn).2]
    cases hm : change.mark? m with
    | none =>
      rw [List.filterMap_cons_none hm, ih]
      by_cases hkeep : m.info.cls = cls
      · rw [List.filter_cons_of_pos (by simpa using hkeep), List.filterMap_cons_none hm]
      · rw [List.filter_cons_of_neg (by simpa using hkeep)]
    | some n =>
      rw [List.filterMap_cons_some hm]
      by_cases hkeep : m.info.cls = cls
      · rw [List.filter_cons_of_pos (by simpa [hcls n hm] using hkeep),
          List.filter_cons_of_pos (by simpa using hkeep),
          List.filterMap_cons_some hm, ih]
      · rw [List.filter_cons_of_neg (by simpa [hcls n hm] using hkeep),
          List.filter_cons_of_neg (by simpa using hkeep),
          ih]

/-- A change takes each class of marks by itself. -/
private theorem marksOf_of_marks_eq {b b' : Buffer} {change : Change}
    (h : b'.marks = b.marks.filterMap change.mark?) (cls : MarkClass) :
    marksOf cls b' = (marksOf cls b).filterMap change.mark? := by
  unfold marksOf
  rw [h, filter_filterMap_mark?]

/-! ### Texts that grow -/

/-- The text of the placeholder, or a longer one. -/
def Placeholder.Grown (p : Placeholder) (cs : List Char) : Prop :=
  cs = p.chars ∨ p.chars.length < cs.length

private theorem Placeholder.Grown.ne_nil {p : Placeholder} {cs : List Char} (h : p.Grown cs) :
    cs ≠ [] := by
  rintro rfl
  rcases h with h | h
  · exact absurd h.symm (by simp [Placeholder.chars])
  · exact absurd h (by simp)

/-- An edit that leaves a mark there lets its text grow; the text is that of the placeholder afterwards
just where it was before and nothing was put inside. -/
private theorem grown_moved {change : Change} {b b' : Buffer} {before old cs after : List Char}
    (h : change.Splices b b' before old cs after) {r : Range} {p : Placeholder} {piece : List Char}
    (hr : b.Covers r piece) (hgrown : p.Grown piece) (hd : ¬ change.Damages r) :
    ∃ piece', b'.Covers (change.moved r) piece' ∧ p.Grown piece' ∧
      (piece' = p.chars ↔ piece = p.chars ∧ ¬ (cs ≠ [] ∧ change.Enters r)) := by
  rcases h.covers_moved hr hgrown.ne_nil hd with ⟨hout, hmoved⟩ | ⟨hinside, x, y, rfl, -, -, hmoved⟩
  · exact ⟨piece, hmoved, hgrown, by simp [hout]⟩
  · by_cases hcs : cs = []
    · subst hcs
      rw [List.append_nil] at hmoved
      exact ⟨x ++ y, hmoved, hgrown, by simp⟩
    · have hpos : 0 < cs.length := List.length_pos_iff.2 hcs
      have hlonger : p.chars.length < (x ++ cs ++ y).length := by
        simp only [List.length_append]
        rcases hgrown with heq | hlt
        · rw [← heq, List.length_append]
          omega
        · rw [List.length_append] at hlt
          omega
      refine ⟨x ++ cs ++ y, hmoved, .inr hlonger, ?_⟩
      refine iff_of_false (fun heq => ?_) (by simp [hcs, hinside])
      rw [heq] at hlonger
      exact Nat.lt_irrefl _ hlonger

/-! ### What was drawn -/

/-- Handles with the placeholders that they were drawn for.  A mark is that of one of the handles and
covers the text of its placeholder or a longer one; the marks stand one after the other, in the order of
the handles. -/
structure Kept (c : Canvas) (drawn : List (Handle × Placeholder)) : Prop where
  numbered : c.buffer.Numbered
  hub : c.hub.Numbered
  below : ∀ d ∈ drawn, ∀ id ∈ d.1.listeners, id.value < c.hub.nextListener
  clicks : ∀ d ∈ drawn, d.1.clickRanges c.hub = [d.2.range]
  shaped : ∀ d ∈ drawn, d.2.Shaped
  increasing : drawn.Pairwise fun d e => d.1.mark.value < e.1.mark.value
  ordered : (marksOf .placeholder c.buffer).Pairwise fun m n => m.range.stop ≤ n.range.start
  owned : ∀ m ∈ marksOf .placeholder c.buffer, ∃ d ∈ drawn, m.id = d.1.mark ∧
    ∃ piece, c.buffer.Covers m.range piece ∧ d.2.Grown piece

/-- The mark of a handle still covers the text of its placeholder. -/
def Intact (b : Buffer) (d : Handle × Placeholder) : Prop :=
  ∃ m ∈ marksOf .placeholder b, m.id = d.1.mark ∧ b.Covers m.range d.2.chars

/-- An edit that takes a character of a placeholder away or puts a text inside one. -/
def disturbs (b : Buffer) (e : Buffer.Edit) : Bool :=
  match b.change? e with
  | none => false
  | some (change, cs) =>
    (marksOf .placeholder b).any fun m => change.Damages m.range ∨ cs ≠ [] ∧ change.Enters m.range

namespace Kept

variable {c : Canvas} {drawn : List (Handle × Placeholder)}

private theorem eq_of_id_eq (h : Kept c drawn) {m n : Mark} (hm : m ∈ marksOf .placeholder c.buffer)
    (hn : n ∈ marksOf .placeholder c.buffer) (hid : m.id = n.id) : m = n :=
  h.numbered.eq_of_id_eq (mem_marksOf.1 hm).1 (mem_marksOf.1 hn).1 hid

private theorem eq_of_mark_eq (h : Kept c drawn) {d e : Handle × Placeholder} (hd : d ∈ drawn)
    (he : e ∈ drawn) (hmark : d.1.mark = e.1.mark) : d = e := by
  have hnodup : (drawn.map (·.1.mark)).Nodup := by
    rw [List.Nodup, List.pairwise_map]
    refine h.increasing.imp ?_
    intro x y hlt heq
    rw [heq] at hlt
    exact Nat.lt_irrefl _ hlt
  exact List.inj_on_of_nodup_map hnodup hd he hmark

/-- What the mark of a given handle covers. -/
private theorem exists_grown (h : Kept c drawn) {m : Mark} (hm : m ∈ marksOf .placeholder c.buffer)
    {d : Handle × Placeholder} (hd : d ∈ drawn) (hid : m.id = d.1.mark) :
    ∃ piece, c.buffer.Covers m.range piece ∧ d.2.Grown piece := by
  obtain ⟨e, he, hid', hpiece⟩ := h.owned m hm
  obtain rfl := h.eq_of_mark_eq he hd (hid'.symm.trans hid)
  exact hpiece

private theorem start_lt_stop (h : Kept c drawn) {m : Mark} (hm : m ∈ marksOf .placeholder c.buffer) :
    m.range.start < m.range.stop := by
  obtain ⟨d, -, -, piece, hcovers, hgrown⟩ := h.owned m hm
  exact hcovers.start_lt_stop hgrown.ne_nil

theorem edit (h : Kept c drawn) (e : Buffer.Edit) : Kept { c with buffer := c.buffer.edit e } drawn := by
  rcases c.buffer.edit_cases e with ⟨-, hsame⟩ | ⟨change, before, old, cs, after, -, hsplices, hmarks, -⟩
  · rw [hsame]
    exact h
  · have hof := marksOf_of_marks_eq hmarks .placeholder
    refine ⟨h.numbered.edit e, h.hub, h.below, h.clicks, h.shaped, h.increasing, ?_, ?_⟩
    · show (marksOf .placeholder (c.buffer.edit e)).Pairwise _
      rw [hof]
      refine (List.Pairwise.and_mem.1 h.ordered).filterMap _ ?_
      rintro m n ⟨hm, hn, hle⟩ m' hm' n' hn'
      obtain ⟨hund, rfl⟩ := Change.mark?_eq_some hm'
      obtain ⟨hund', rfl⟩ := Change.mark?_eq_some hn'
      exact Change.moved_stop_le_moved_start hsplices.start_le_newStop (h.start_lt_stop hm)
        (h.start_lt_stop hn) hund hund' hle
    · intro m hm
      obtain ⟨n, hn, hmn⟩ := List.mem_filterMap.1 (hof ▸ hm)
      obtain ⟨hund, rfl⟩ := Change.mark?_eq_some hmn
      obtain ⟨d, hd, hid, piece, hcovers, hgrown⟩ := h.owned n hn
      obtain ⟨piece', hcovers', hgrown', -⟩ := grown_moved hsplices hcovers hgrown hund
      exact ⟨d, hd, hid, piece', hcovers', hgrown'⟩

/-- After an edit the marks are intact just where they were before and it disturbs none of them. -/
theorem intact_edit_iff (h : Kept c drawn) (e : Buffer.Edit) :
    (∀ d ∈ drawn, Intact (c.buffer.edit e) d) ↔
      (∀ d ∈ drawn, Intact c.buffer d) ∧ disturbs c.buffer e = false := by
  rcases c.buffer.edit_cases e with ⟨hnone, hsame⟩ |
    ⟨change, before, old, cs, after, hchange, hsplices, hmarks, -⟩
  · simp [hsame, disturbs, hnone]
  · have hof := marksOf_of_marks_eq hmarks .placeholder
    have hcalm : disturbs c.buffer e = false ↔ ∀ m ∈ marksOf .placeholder c.buffer,
        ¬ change.Damages m.range ∧ ¬ (cs ≠ [] ∧ change.Enters m.range) := by
      simp only [disturbs, hchange, List.any_eq_false, decide_eq_true_eq, not_or]
    -- a mark that is intact afterwards was so before, and the edit does not touch it
    have hback : ∀ d ∈ drawn, Intact (c.buffer.edit e) d →
        ∃ m ∈ marksOf .placeholder c.buffer, m.id = d.1.mark ∧
        c.buffer.Covers m.range d.2.chars ∧ ¬ change.Damages m.range ∧
        ¬ (cs ≠ [] ∧ change.Enters m.range) := by
      rintro d hd ⟨m, hm, hid, hcovers⟩
      obtain ⟨n, hn, hmn⟩ := List.mem_filterMap.1 (hof ▸ hm)
      obtain ⟨hund, rfl⟩ := Change.mark?_eq_some hmn
      obtain ⟨piece, hpiece, hgrown⟩ := h.exists_grown hn hd hid
      obtain ⟨piece', hpiece', -, hiff⟩ := grown_moved hsplices hpiece hgrown hund
      obtain ⟨rfl, hout⟩ := hiff.1 (hpiece'.unique hcovers)
      exact ⟨n, hn, hid, hpiece, hund, hout⟩
    rw [hcalm]
    constructor
    · intro hafter
      refine ⟨fun d hd => ?_, fun m hm => ?_⟩
      · obtain ⟨n, hn, hid, hcovers, -⟩ := hback d hd (hafter d hd)
        exact ⟨n, hn, hid, hcovers⟩
      · obtain ⟨d, hd, hid, -⟩ := h.owned m hm
        obtain ⟨n, hn, hid', -, hundisturbed⟩ := hback d hd (hafter d hd)
        obtain rfl := h.eq_of_id_eq hn hm (hid'.trans hid.symm)
        exact hundisturbed
    · rintro ⟨hbefore, hnone⟩ d hd
      obtain ⟨m, hm, hid, hcovers⟩ := hbefore d hd
      obtain ⟨hund, hout⟩ := hnone m hm
      obtain ⟨piece', hcovers', -, hiff⟩ := grown_moved hsplices hcovers (.inl rfl) hund
      rw [hiff.2 ⟨rfl, hout⟩] at hcovers'
      refine ⟨{ m with range := change.moved m.range }, ?_, hid, hcovers'⟩
      rw [hof]
      exact List.mem_filterMap.2 ⟨m, hm, if_neg hund⟩

/-- A pass over marks of another kind leaves them alone, if its handles have listeners of their own. -/
theorem of_moves {cls : MarkClass} (hne : MarkClass.placeholder ≠ cls) {old : List Handle} {c' : Canvas}
    (h : Kept c drawn) (hmoves : Moves cls old c c') (hold : Handle.HoldAll cls old c.buffer)
    (hapart : ∀ g ∈ old, ∀ d ∈ drawn, ∀ id ∈ d.1.listeners, id ∉ g.listeners) :
    Kept c' drawn ∧ ∀ d, Intact c'.buffer d ↔ Intact c.buffer d := by
  have hlater := Later.of_moves hmoves
  have hsame := (marksOf_moves hne hmoves hold).1
  have hchars : c.buffer.chars = c'.buffer.chars := by
    unfold Buffer.chars
    rw [hlater.lines]
  refine ⟨⟨hlater.numbered h.numbered, hlater.hub h.hub, ?_, ?_, h.shaped, h.increasing,
    hsame ▸ h.ordered, ?_⟩, ?_⟩
  · intro d hd id hid
    exact Nat.lt_of_lt_of_le (h.below d hd id hid) hlater.nextListener
  · intro d hd
    rw [Handle.clickRanges_moves hmoves (h.below d hd) fun g hg => hapart g hg d hd]
    exact h.clicks d hd
  · intro m hm
    obtain ⟨d, hd, hid, piece, hcovers, hgrown⟩ := h.owned m (hsame ▸ hm)
    exact ⟨d, hd, hid, piece, hlater.covers hcovers, hgrown⟩
  · intro d
    unfold Intact
    rw [hsame]
    constructor
    · rintro ⟨m, hm, hid, hcovers⟩
      exact ⟨m, hm, hid, hcovers.of_chars_eq hchars⟩
    · rintro ⟨m, hm, hid, hcovers⟩
      exact ⟨m, hm, hid, hlater.covers hcovers⟩

end Kept

/-! ### Marks that are all intact -/

/-- Of two lists in strict order one that holds no more than the other, and is as long, is the other. -/
private theorem eq_of_subset_of_length_le {α : Type} {r : α → α → Prop} (hr : ∀ x, ¬ r x x)
    (hanti : ∀ x y, r x y → ¬ r y x) {l l' : List α} (hl : l.Pairwise r) (hl' : l'.Pairwise r)
    (hsub : l ⊆ l') (hlength : l'.length ≤ l.length) : l = l' := by
  have hnodup : l.Nodup := by
    refine hl.imp ?_
    rintro x _ hx rfl
    exact hr x hx
  have hperm : l.Perm l' := (List.subperm_of_subset hnodup hsub).perm_of_length_le hlength
  exact hperm.eq_of_pairwise (fun x y _ _ hxy hyx => absurd hyx (hanti x y hxy)) hl hl'

private theorem map_stop_pairwise {α : Type} {range : α → Range} {l : List α}
    (h : l.Pairwise fun x y => (range x).stop ≤ (range y).start)
    (hlt : ∀ x ∈ l, (range x).start < (range x).stop) :
    (l.map fun x => (range x).stop).Pairwise (· < ·) := by
  rw [List.pairwise_map]
  refine (List.Pairwise.and_mem.1 h).imp ?_
  rintro x y ⟨-, hy, hle⟩
  exact Position.lt_of_le_of_lt hle (hlt y hy)

namespace Kept

variable {c : Canvas} {drawn : List (Handle × Placeholder)}

/-- When every mark is intact, the marks are those of the handles, in order. -/
private theorem ids_eq (h : Kept c drawn) (hintact : ∀ d ∈ drawn, Intact c.buffer d) :
    (marksOf .placeholder c.buffer).map (·.id.value) = drawn.map (·.1.mark.value) := by
  have hids : ((marksOf .placeholder c.buffer).map (·.id.value)).Pairwise (· < ·) := by
    rw [List.pairwise_map]
    exact h.numbered.increasing.filter _
  have hmarks : (drawn.map (·.1.mark.value)).Pairwise (· < ·) := by
    rw [List.pairwise_map]
    exact h.increasing
  have hsub : (marksOf .placeholder c.buffer).map (·.id.value) ⊆ drawn.map (·.1.mark.value) := by
    intro i hi
    obtain ⟨m, hm, rfl⟩ := List.mem_map.1 hi
    obtain ⟨d, hd, hid, -⟩ := h.owned m hm
    exact List.mem_map.2 ⟨d, hd, by rw [hid]⟩
  have hsub' : drawn.map (·.1.mark.value) ⊆ (marksOf .placeholder c.buffer).map (·.id.value) := by
    intro i hi
    obtain ⟨d, hd, rfl⟩ := List.mem_map.1 hi
    obtain ⟨m, hm, hid, -⟩ := hintact d hd
    exact List.mem_map.2 ⟨m, hm, by rw [hid]⟩
  have hnodup : (drawn.map (·.1.mark.value)).Nodup := hmarks.imp Nat.ne_of_lt
  exact eq_of_subset_of_length_le Nat.lt_irrefl (fun _ _ => Nat.lt_asymm) hids hmarks hsub
    (List.subperm_of_subset hnodup hsub').length_le

/-- If moreover the text has the placeholders that they were drawn for, then each mark ends where one of
those does. -/
private theorem stops_eq (h : Kept c drawn) (hintact : ∀ d ∈ drawn, Intact c.buffer d)
    (hscan : drawn.map (·.2) = scanPlaceholders c.buffer.lines) :
    (marksOf .placeholder c.buffer).map (·.range.stop) = drawn.map (·.2.range.stop) := by
  have hstops : drawn.map (·.2.range.stop) = (scanPlaceholders c.buffer.lines).map (·.range.stop) := by
    rw [← hscan, List.map_map]
    rfl
  have hlength := congrArg List.length (h.ids_eq hintact)
  rw [List.length_map, List.length_map] at hlength
  refine eq_of_subset_of_length_le Position.lt_irrefl ?_ (map_stop_pairwise h.ordered fun _ =>
    h.start_lt_stop) ?_ ?_ ?_
  · intro p q hpq hqp
    exact Position.lt_irrefl p (Position.lt_of_lt_of_le hpq (Position.le_of_lt hqp))
  · rw [hstops]
    refine map_stop_pairwise (pairwise_scanPlaceholders _) ?_
    intro p hp
    exact (covers_of_mem_scanPlaceholders hp).start_lt_stop (by simp [Placeholder.chars])
  · -- the text of a placeholder stands there, so a placeholder that is found ends there
    intro stop hstop
    obtain ⟨m, hm, rfl⟩ := List.mem_map.1 hstop
    obtain ⟨d, hd, hid, -⟩ := h.owned m hm
    obtain ⟨n, hn, hid', hcovers⟩ := hintact d hd
    obtain rfl := h.eq_of_id_eq hn hm (hid'.trans hid.symm)
    obtain ⟨q, hq, hend⟩ := exists_scanned_of_covers (h.shaped d hd) hcovers
    rw [hstops]
    exact List.mem_map.2 ⟨q, hq, hend⟩
  · rw [List.length_map, List.length_map, hlength]

/-- Then the marks are the handles' marks at the ranges of the placeholders. -/
theorem aligned (h : Kept c drawn) (hintact : ∀ d ∈ drawn, Intact c.buffer d)
    (hscan : drawn.map (·.2) = scanPlaceholders c.buffer.lines) :
    (marksOf .placeholder c.buffer).map (fun m => (m.id, m.range)) = drawn.map fun d =>
      (d.1.mark, d.2.range) := by
  have hids := h.ids_eq hintact
  have hstops := h.stops_eq hintact hscan
  have hlength := congrArg List.length hids
  rw [List.length_map, List.length_map] at hlength
  refine List.ext_getElem (by simpa using hlength) ?_
  intro i hi hi'
  rw [List.length_map] at hi hi'
  have hid := List.getElem_of_eq hids (by simpa using hi)
  have hstop := List.getElem_of_eq hstops (by simpa using hi)
  simp only [List.getElem_map] at hid hstop ⊢
  have hm := List.getElem_mem hi
  have hd := List.getElem_mem hi'
  generalize (marksOf .placeholder c.buffer)[i] = m at hid hstop hm ⊢
  generalize drawn[i] = d at hid hstop hd ⊢
  have hmark : m.id = d.1.mark := congrArg MarkId.mk hid
  obtain ⟨n, hn, hid', hcovers⟩ := hintact d hd
  obtain rfl := h.eq_of_id_eq hn hm (hid'.trans hmark.symm)
  -- both ranges lie on one line, have the same length and end together
  have hshaped := h.shaped d hd
  have hrange := (hcovers.onLine hshaped.unbroken).1
  have hrange' := hshaped.range
  rw [Prod.mk.injEq]
  refine ⟨hmark, ?_⟩
  rw [hrange, hrange'] at hstop ⊢
  simp only [Range.onLine, Position.mk.injEq, Range.mk.injEq] at hstop ⊢
  omega

end Kept

end PassageEditor.Markup
