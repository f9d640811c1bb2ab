import PassageEditor.Proofs.Markup.PlaceholderEvents

/-!
# Live placeholders

The live placeholders are those whose mark is still there.  They are in step with the buffer when they
stand at the placeholders of the text and a plain click on the widget of one selects the range where it
stands (`Reconciler.InStep`).  They are whenever a pass has drawn them (`inStep_renderPlaceholders`), and
a pass over the links leaves them so (`InStep.renderLinks`).
-/

namespace PassageEditor.Markup

namespace Reconciler

theorem mem_livePlaceholders {r : Reconciler} {b : Buffer} {x : Range × WidgetId} :
    x ∈ r.livePlaceholders b ↔
      ∃ h ∈ r.placeholders, ∃ m, b.findMark? h.mark = some m ∧ x = (m.range, h.widget) := by
  unfold livePlaceholders
  rw [(List.mergeSort_perm _ _).mem_iff, List.mem_filterMap]
  refine exists_congr fun h => and_congr_right fun _ => ?_
  rw [Option.map_eq_some_iff]
  exact exists_congr fun m => and_congr_right fun _ => eq_comm

/-- The placeholders whose marks are there, in the order in which they were drawn. -/
def standing (r : Reconciler) (b : Buffer) : List (Range × WidgetId) :=
  r.placeholders.filterMap fun h => (b.findMark? h.mark).map fun m => (m.range, h.widget)

/-- The live placeholders are told by where the marks of the handles are. -/
theorem livePlaceholders_congr {r r' : Reconciler} {b b' : Buffer}
    (hplaceholders : r'.placeholders = r.placeholders)
    (hmarks : ∀ h ∈ r.placeholders, b'.findMark? h.mark = b.findMark? h.mark) :
    r'.livePlaceholders b' = r.livePlaceholders b := by
  unfold livePlaceholders
  rw [hplaceholders]
  congr 1
  exact List.filterMap_congr fun h hh => by rw [hmarks h hh]

/-- Where they were drawn in the order of the text there is nothing to sort. -/
theorem livePlaceholders_of_standing {r : Reconciler} {b : Buffer}
    (h : (r.standing b).map (·.1) = (scanPlaceholders b.lines).map (·.range)) :
    r.livePlaceholders b = r.standing b := by
  have hordered : ((scanPlaceholders b.lines).map (·.range)).Pairwise fun x y => x.start ≤ y.start := by
    rw [List.pairwise_map]
    refine (List.Pairwise.and_mem.1 (pairwise_scanPlaceholders b.lines)).imp ?_
    rintro p q ⟨hp, -, hle⟩
    have hlt := (covers_of_mem_scanPlaceholders hp).start_lt_stop (by simp [Placeholder.chars])
    exact Position.le_trans (Position.le_of_lt hlt) hle
  rw [← h, List.pairwise_map] at hordered
  exact List.mergeSort_of_pairwise (hordered.imp fun hle => decide_eq_true hle)

structure InStep (r : Reconciler) (c : Canvas) : Prop where
  ranges : (r.livePlaceholders c.buffer).map (·.1) = (scanPlaceholders c.buffer.lines).map (·.range)
  clicks : ∀ x ∈ r.livePlaceholders c.buffer, (c.hub.dispatch (.click x.2 .primary ⟨[]⟩)).1 =
    [.setSelection x.1]

/-- The marks of placeholders, apart from foreign ones, stand at the placeholders of the text, in their
order. -/
def Exact (b : Buffer) (foreign : List MarkId) : Prop :=
  ((marksOf .placeholder b).filter (·.id ∉ foreign)).map (·.range) =
    (scanPlaceholders b.lines).map (·.range)

theorem inStep_of_standing {r : Reconciler} {c : Canvas}
    (hranges : (r.standing c.buffer).map (·.1) = (scanPlaceholders c.buffer.lines).map (·.range))
    (hclicks : ∀ x ∈ r.standing c.buffer, (c.hub.dispatch (.click x.2 .primary ⟨[]⟩)).1 =
      [.setSelection x.1]) :
    r.InStep c := by
  have hlive := livePlaceholders_of_standing hranges
  exact ⟨by rw [hlive, hranges], by rwa [hlive]⟩

namespace InStep

variable {r : Reconciler} {c : Canvas}

/-- Each live placeholder was drawn for the range where it stands. -/
theorem exists_drawn (h : r.InStep c) (hown : ∀ l ∈ c.hub.listeners, ∀ x, l.reaction ≠ .host x)
    {drawn : List (Handle × Range)} (hdrawn : drawn.map (·.1) = r.placeholders)
    (htuned : Tuned c.hub drawn) {x : Range × WidgetId} (hx : x ∈ r.livePlaceholders c.buffer) :
    ∃ d ∈ drawn, x = (d.2, d.1.widget) := by
  obtain ⟨g, hg, m, -, rfl⟩ := mem_livePlaceholders.1 hx
  rw [← hdrawn] at hg
  obtain ⟨d, hd, rfl⟩ := List.mem_map.1 hg
  have hclick := h.clicks _ hx
  rw [htuned.dispatch_click_of_mem hown hd, List.singleton_inj, Effect.setSelection.injEq] at hclick
  exact ⟨d, hd, by rw [hclick]⟩

theorem exists_scanned (h : r.InStep c) {x : Range × WidgetId} (hx : x ∈ r.livePlaceholders c.buffer) :
    ∃ p ∈ scanPlaceholders c.buffer.lines, p.range = x.1 := by
  have hmem : x.1 ∈ (r.livePlaceholders c.buffer).map (·.1) := List.mem_map_of_mem hx
  rw [h.ranges] at hmem
  exact List.mem_map.1 hmem

/-- Where the same placeholders are live on the same text, and answer for the same ranges, they are still
in step. -/
theorem of_same (h : r.InStep c) (hown : ∀ l ∈ c.hub.listeners, ∀ x, l.reaction ≠ .host x)
    {r' : Reconciler} {c' : Canvas} (hown' : ∀ l ∈ c'.hub.listeners, ∀ x, l.reaction ≠ .host x)
    {drawn : List (Handle × Range)} (hdrawn : drawn.map (·.1) = r.placeholders)
    (htuned : Tuned c.hub drawn) (htuned' : Tuned c'.hub drawn)
    (hlive : r'.livePlaceholders c'.buffer = r.livePlaceholders c.buffer)
    (hlines : c'.buffer.lines = c.buffer.lines) : r'.InStep c' := by
  refine ⟨?_, fun x hx => ?_⟩
  · rw [hlive, hlines]
    exact h.ranges
  · rw [hlive] at hx
    obtain ⟨d, hd, rfl⟩ := h.exists_drawn hown hdrawn htuned hx
    rw [htuned'.dispatch_click_of_mem hown' hd]

end InStep

/-! ### Drawing placeholders -/

section Drawing

variable {c : Canvas} {ps : List Placeholder} {out : List Handle × Canvas} (h : Drawing c ps out)

include h

/-- The placeholders that have been drawn are there. -/
private theorem standing_of_drawing (hnumbered : out.2.buffer.Numbered) {r : Reconciler}
    (hr : r.placeholders = out.1) :
    r.standing out.2.buffer = (out.1.zip ps).map fun d => (d.2.range, d.1.widget) := by
  have hfind : ∀ d ∈ out.1.zip ps, out.2.buffer.findMark? d.1.mark = some (drawnMark d) := by
    intro d hd
    refine hnumbered.findMark?_eq_some_iff.2 ⟨?_, rfl⟩
    rw [h.marks]
    exact List.mem_append_right _ (List.mem_map_of_mem hd)
  have hfst : (out.1.zip ps).map (·.1) = out.1 := List.map_fst_zip (Nat.le_of_eq h.length)
  unfold standing
  rw [hr]
  conv_lhs => rw [← hfst]
  rw [List.filterMap_map, ← List.filterMap_eq_map]
  refine List.filterMap_congr fun d hd => ?_
  simp [hfind d hd, drawnMark]

/-- Of the marks of placeholders only foreign ones are older. -/
private theorem ranges_of_drawing {foreign : List MarkId}
    (hnone : (marksOf .placeholder c.buffer).filter (·.id ∉ foreign) = [])
    (hbelow : ∀ id ∈ foreign, id.value < c.buffer.nextMark) :
    ((marksOf .placeholder out.2.buffer).filter (·.id ∉ foreign)).map (·.range) = ps.map (·.range) := by
  have hdrawn :
      (((out.1.zip ps).map drawnMark).filter (·.info.cls = .placeholder)).filter (·.id ∉ foreign) =
        (out.1.zip ps).map drawnMark := by
    rw [List.filter_filter, List.filter_eq_self]
    intro m hm
    obtain ⟨d, hd, rfl⟩ := List.mem_map.1 hm
    have hfresh := (h.fresh d.1 (List.of_mem_zip hd).1).mark
    have hnew : d.1.mark ∉ foreign := fun hmem => Nat.not_le.2 (hbelow _ hmem) hfresh
    simp [drawnMark, hnew]
  unfold marksOf at hnone ⊢
  rw [h.marks, List.filter_append, List.filter_append, hnone, hdrawn, List.nil_append, List.map_map]
  conv_rhs => rw [← List.map_snd_zip (Nat.le_of_eq h.length.symm), List.map_map]
  rfl

end Drawing

/-! ### Passes -/

section Passes

variable {r : Reconciler} {c : Canvas} {foreign : List MarkId}

/-- No mark of a placeholder but foreign ones is left when the old ones have been cleared. -/
private theorem marksOf_clearAll (hclassed : r.Classed) (howned : Owned c.buffer foreign r.handles) :
    (marksOf .placeholder (Handle.clearAll r.placeholders c).buffer).filter (·.id ∉ foreign) = [] := by
  rw [List.filter_eq_nil_iff]
  intro m hm hforeign
  obtain ⟨hm, hcls⟩ := mem_marksOf.1 hm
  obtain ⟨hm, hgone⟩ := mem_marks_clearAll.1 hm
  rcases howned.marks m hm with hmem | ⟨g, hg, hid, hgcls⟩
  · simp [hmem] at hforeign
  · rcases List.mem_append.1 hg with hg | hg
    · exact hgone g hg hid
    · obtain ⟨p, hp, rfl⟩ := List.mem_map.1 hg
      rw [hcls, (hclassed.links p hp).1] at hgcls
      exact absurd hgcls (by decide)

/-- Placeholders that have just been drawn are in step. -/
theorem inStep_renderPlaceholders (hattuned : Attuned c.hub r) (howned : Owned c.buffer foreign r.handles)
    {force : Bool} (hdraws : force = true ∨ r.source ≠ some c.buffer.text) :
    (r.renderPlaceholders c force).2.1.InStep (r.renderPlaceholders c force).2.2 ∧
      Exact (r.renderPlaceholders c force).2.2.buffer foreign := by
  have hlines := lines_renderPlaceholders r c force
  have hown := (hattuned.renderPlaceholders force).wired.own
  have hnumbered :=
    (accounts_renderPlaceholders (accounting_owned _ foreign) howned hattuned.classed force).1.numbered
  have hpass : (r.renderPlaceholders c force).2 =
      let out := drawPlaceholders (Handle.clearAll r.placeholders c) (scanPlaceholders c.buffer.lines)
      ({ r with placeholders := out.1, source := some c.buffer.text }, out.2) := by
    unfold renderPlaceholders
    dsimp only
    rw [if_neg]
    intro hkeep
    simp only [Bool.and_eq_true, Bool.not_eq_true', decide_eq_true_eq] at hkeep
    rcases hdraws with hforce | hchanged
    · simp [hforce] at hkeep
    · exact hchanged hkeep.2
  obtain ⟨hdrawing, htuned⟩ := hattuned.drawing (scanPlaceholders c.buffer.lines)
  have hbelow : ∀ id ∈ foreign, id.value < (Handle.clearAll r.placeholders c).buffer.nextMark := by
    rw [(Handle.clearAll_counters r.placeholders c).1]
    exact howned.foreign_below
  have hexact := ranges_of_drawing hdrawing (marksOf_clearAll hattuned.classed howned) hbelow
  rw [hpass] at hlines hown hnumbered ⊢
  dsimp only at hlines hown hnumbered ⊢
  have hstanding := standing_of_drawing hdrawing hnumbered
    (r := { r with
      placeholders :=
        (drawPlaceholders (Handle.clearAll r.placeholders c) (scanPlaceholders c.buffer.lines)).1
      source := some c.buffer.text }) rfl
  refine ⟨inStep_of_standing ?_ fun x hx => ?_, ?_⟩
  · rw [hstanding, hlines, List.map_map]
    conv_rhs => rw [← List.map_snd_zip (Nat.le_of_eq hdrawing.length.symm), List.map_map]
    rfl
  · rw [hstanding] at hx
    obtain ⟨d, hd, rfl⟩ := List.mem_map.1 hx
    refine congrArg Prod.fst (htuned.dispatch_click_of_mem hown (d := (d.1, d.2.range)) ?_)
    rw [List.zip_map_right]
    exact List.mem_map_of_mem hd
  · unfold Exact
    rw [hlines]
    exact hexact

/-- The mark of a placeholder's handle is one of the marks of placeholders. -/
private theorem findMark?_eq_some_iff (howned : Owned c.buffer foreign r.handles) (hclassed : r.Classed)
    {g : Handle} (hg : g ∈ r.placeholders) {m : Mark} :
    c.buffer.findMark? g.mark = some m ↔ m ∈ marksOf .placeholder c.buffer ∧ m.id = g.mark := by
  rw [howned.numbered.findMark?_eq_some_iff, mem_marksOf]
  refine ⟨fun ⟨hm, hid⟩ => ⟨⟨hm, ?_⟩, hid⟩, fun ⟨⟨hm, _⟩, hid⟩ => ⟨hm, hid⟩⟩
  have hhandle : g ∈ r.handles := List.mem_append_left _ hg
  rcases howned.marks m hm with hforeign | ⟨k, hk, hid', hcls⟩
  · exact absurd (hid ▸ hforeign) (howned.apart g hhandle)
  · obtain rfl : k = g := List.inj_on_of_nodup_map howned.single hk hhandle (hid'.symm.trans hid)
    rw [hcls, hclassed.placeholders k hg]

/-- A pass over the links leaves the placeholders in step. -/
theorem InStep.renderLinks (h : r.InStep c) (hattuned : Attuned c.hub r)
    (howned : Owned c.buffer foreign r.handles) (story : Story) :
    (r.renderLinks c story).2.1.InStep (r.renderLinks c story).2.2 ∧
      (Exact c.buffer foreign → Exact (r.renderLinks c story).2.2.buffer foreign) := by
  have hplaceholders : (r.renderLinks c story).2.1.placeholders = r.placeholders := rfl
  have hlines := lines_renderLinks r c story
  obtain ⟨howned', hclassed'⟩ :=
    accounts_renderLinks (accounting_owned _ foreign) howned hattuned.classed story
  have hold : Handle.HoldAll .passageLink (r.links.map (·.2)) c.buffer := by
    intro g hg m hm hid
    have hhandle : g ∈ r.handles := List.mem_append_right _ hg
    rcases howned.marks m hm with hforeign | ⟨k, hk, hid', hcls⟩
    · exact absurd (hid ▸ hforeign) (howned.apart g hhandle)
    · obtain rfl : k = g := List.inj_on_of_nodup_map howned.single hk hhandle (hid'.symm.trans hid)
      obtain ⟨p, hp, rfl⟩ := List.mem_map.1 hg
      rw [hcls, (hattuned.classed.links p hp).1]
  have hother : MarkClass.placeholder ≠ .passageLink := by decide
  have hsame := (marksOf_moves hother (moves_renderLinks r c story) hold).1
  have hlive : (r.renderLinks c story).2.1.livePlaceholders (r.renderLinks c story).2.2.buffer =
      r.livePlaceholders c.buffer := by
    refine livePlaceholders_congr hplaceholders fun g hg => Option.ext fun m => ?_
    rw [findMark?_eq_some_iff howned' hclassed' (hplaceholders ▸ hg),
      findMark?_eq_some_iff howned hattuned.classed hg,
      hsame]
  obtain ⟨drawn, hdrawn, htuned, htuned'⟩ := hattuned.tuned_renderLinks story
  refine ⟨h.of_same hattuned.wired.own (hattuned.renderLinks story).wired.own hdrawn htuned
    htuned' hlive hlines, ?_⟩
  unfold Exact
  rw [hsame, hlines]
  exact id

/-- After a pass over all marks that draws the placeholders they are in step. -/
theorem inStep_reconcile (hattuned : Attuned c.hub r) (howned : Owned c.buffer foreign r.handles)
    (story : Story) {force : Bool} (hdraws : force = true ∨ r.source ≠ some c.buffer.text) :
    (r.reconcile c story force).2.1.InStep (r.reconcile c story force).2.2 ∧
      Exact (r.reconcile c story force).2.2.buffer foreign := by
  obtain ⟨hdrawn, hexact⟩ := inStep_renderPlaceholders hattuned howned hdraws
  have howned' :=
    (accounts_renderPlaceholders (accounting_owned _ foreign) howned hattuned.classed force).1
  obtain ⟨hstill, hexact'⟩ := hdrawn.renderLinks (hattuned.renderPlaceholders force) howned' story
  exact ⟨hstill, hexact' hexact⟩

end Passes

end Reconciler

end PassageEditor.Markup
