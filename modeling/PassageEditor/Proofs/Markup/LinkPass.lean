import PassageEditor.Proofs.Markup.Passes

/-!
# What a pass over the links keeps, clears and draws

A pass over the links does three things, one after the other: some of the old handles are cleared, the
others stay, and new ones are drawn (`Swept`).  The report counts the first and the last.  The canvas that
the new ones are drawn on is the old one with the handles that go cleared from it, and nothing else done
to it.
-/

namespace PassageEditor.Markup

namespace Handle

/-- A handle whose mark is gone has only its listeners left to be cleared. -/
private theorem clear_of_mark_gone {h : Handle} {c : Canvas}
    (hgone : ∀ m ∈ c.buffer.marks, m.id ≠ h.mark) :
    h.clear c = { c with hub := h.release c.hub } := by
  have hmarks : c.buffer.marks.filter (·.id ≠ h.mark) = c.buffer.marks := by
    rw [List.filter_eq_self]
    intro m hm
    simpa using hgone m hm
  have hbuffer : (c.buffer.clearMark h.mark).2 = c.buffer := by
    unfold Buffer.clearMark
    rw [hmarks]
  unfold clear
  rw [hbuffer]

private theorem clearAll_concat (gone : List Handle) (h : Handle) (c : Canvas) :
    clearAll (gone ++ [h]) c = h.clear (clearAll gone c) := by
  unfold clearAll
  rw [List.foldl_append]
  rfl

private theorem clearAll_append (gone more : List Handle) (c : Canvas) :
    clearAll (gone ++ more) c = clearAll more (clearAll gone c) := List.foldl_append

theorem mem_listeners_clearAll {gone : List Handle} {c : Canvas} {l : Listener} :
    l ∈ (clearAll gone c).hub.listeners ↔ l ∈ c.hub.listeners ∧ ∀ h ∈ gone, l.id ∉ h.listeners := by
  induction gone generalizing c with
  | nil => simp [clearAll]
  | cons g gone ih =>
    have hstep : l ∈ (g.clear c).hub.listeners ↔ l ∈ c.hub.listeners ∧ l.id ∉ g.listeners := by
      show l ∈ c.hub.listeners.filter (fun l => !g.listeners.contains l.id) ↔ _
      simp [List.mem_filter]
    show l ∈ (clearAll gone (g.clear c)).hub.listeners ↔ _
    rw [ih, hstep]
    simp only [List.mem_cons, forall_eq_or_imp, and_assoc]

/-- Clearing uses no number up and leaves the widgets. -/
theorem clearAll_counters (gone : List Handle) (c : Canvas) :
    (clearAll gone c).buffer.nextMark = c.buffer.nextMark ∧
      (clearAll gone c).hub.nextListener = c.hub.nextListener ∧
      (clearAll gone c).hub.widgets = c.hub.widgets := by
  induction gone generalizing c with
  | nil => exact ⟨rfl, rfl, rfl⟩
  | cons g gone ih => exact ih (g.clear c)

end Handle

/-! ### Drawing alone -/

/-- A canvas after something has been drawn and nothing cleared. -/
structure Grows (c c' : Canvas) : Prop where
  later : Later c c'
  marks : ∀ m ∈ c.buffer.marks, m ∈ c'.buffer.marks
  listeners : ∀ l ∈ c.hub.listeners, l ∈ c'.hub.listeners
  added : ∀ l ∈ c'.hub.listeners, l ∈ c.hub.listeners ∨ c.hub.nextListener ≤ l.id.value
  widgets : c.hub.widgets <+: c'.hub.widgets

theorem widgets_addAll (h : Hub) (listeners : List (EventKind × Reaction)) :
    (h.addAll listeners).2.widgets = h.widgets := by
  induction listeners generalizing h with
  | nil => rfl
  | cons l listeners ih => exact ih (h.add l.1 l.2).2

theorem grows_place (c : Canvas) (cls : MarkClass) (text : String) (passage : Option PassageId)
    (range : Range) (listeners : WidgetId → List (EventKind × Reaction)) :
    Grows c (Handle.place c cls text passage range listeners).2 := by
  let widget : WidgetId × Hub := c.hub.addWidget cls.name text passage
  obtain ⟨-, added, hadded, hfresh⟩ := addAll_listeners widget.2 (listeners widget.1)
  have hlisteners : (Handle.place c cls text passage range listeners).2.hub.listeners =
      c.hub.listeners ++ added :=
    hadded
  have hmove : Move cls [] c (Handle.place c cls text passage range listeners).2 :=
    .place text passage range listeners
  refine ⟨Later.of_move hmove, ?_, ?_, ?_, ?_⟩
  · intro m hm
    exact List.mem_append_left _ hm
  · intro l hl
    rw [hlisteners]
    exact List.mem_append_left _ hl
  · intro l hl
    rw [hlisteners] at hl
    exact (List.mem_append.1 hl).imp_right fun hl => (hfresh l hl).1
  · show c.hub.widgets <+: (widget.2.addAll (listeners widget.1)).2.widgets
    rw [widgets_addAll]
    exact List.prefix_append _ _

/-- With no old handle there is nothing to clear. -/
private theorem grows_of_moves {cls : MarkClass} {c c' : Canvas} (h : Moves cls [] c c') :
    Grows c c' := by
  induction h with
  | refl => exact ⟨Later.refl c, fun _ => id, fun _ => id, fun _ => .inl, List.prefix_rfl⟩
  | @tail d _ _ hmove ih =>
    cases hmove with
    | release hold => simp at hold
    | clear hold => simp at hold
    | place text passage range listeners =>
      have hnext := grows_place d cls text passage range listeners
      refine ⟨ih.later.trans hnext.later, fun m hm => hnext.marks m (ih.marks m hm),
        fun l hl => hnext.listeners l (ih.listeners l hl), ?_, ih.widgets.trans hnext.widgets⟩
      intro l hl
      rcases hnext.added l hl with hl | hle
      · exact ih.added l hl
      · exact .inr (Nat.le_trans ih.later.nextListener hle)

namespace Reconciler

/-! ### Taking old links over -/

/-- A handle that is put under a key is there afterwards, and what comes back is not. -/
private theorem insertLink_perm (key : LinkKey) (h : Handle) (links : List (LinkKey × Handle)) :
    ((insertLink key h links).1.toList ++ (insertLink key h links).2.map (·.2)).Perm
      (h :: links.map (·.2)) := by
  induction links with
  | nil => exact List.Perm.refl _
  | cons p rest ih =>
    obtain ⟨k, g⟩ := p
    unfold insertLink
    split
    · exact List.Perm.swap _ _ _
    · split
      · exact List.Perm.refl _
      · exact List.perm_middle.trans ((List.Perm.cons g ih).trans (List.Perm.swap _ _ _))

/-- A key that is not there gives nothing back. -/
theorem insertLink_fst_of_new {key : LinkKey} {h : Handle} {links : List (LinkKey × Handle)}
    (hnew : links.any (·.1 = key) = false) : (insertLink key h links).1 = none := by
  rcases hback : (insertLink key h links).1 with _ | g
  · rfl
  · have hthere : links.any (·.1 = key) = true :=
      List.any_eq_true.2 ⟨_, mem_of_insertLink_eq_some hback, by simp⟩
    rw [hnew] at hthere
    simp at hthere

/-- A handle under a new key comes on top of the others. -/
theorem insertLink_perm_of_new {key : LinkKey} {h : Handle} {links : List (LinkKey × Handle)}
    (hnew : links.any (·.1 = key) = false) : (insertLink key h links).2.Perm ((key, h) :: links) := by
  induction links with
  | nil => exact List.Perm.refl _
  | cons p rest ih =>
    obtain ⟨k, g⟩ := p
    rw [List.any_cons, Bool.or_eq_false_iff] at hnew
    unfold insertLink
    rw [if_neg (of_decide_eq_false hnew.1)]
    split
    · exact List.Perm.refl _
    · exact (List.Perm.cons _ (ih hnew.2)).trans (List.Perm.swap _ _ _)

/-- Of the old handles that are done, some are under their keys, and the others have been cleared. -/
structure Rekeyed.Sorted (c : Canvas) (done gone : List Handle) (s : Rekeyed) : Prop where
  passage : ∀ p ∈ s.links, p.2.passage = some p.1.passage
  handles : (s.links.map (·.2) ++ gone).Perm done
  canvas : s.canvas = Handle.clearAll gone c
  cleared : s.cleared = gone.length

private theorem sorted_rekey {c : Canvas} {done gone : List Handle} {s : Rekeyed}
    (hs : s.Sorted c done gone) {h : Handle} (hpassage : h.passage.isSome) :
    ∃ gone', (rekey s h).Sorted c (done ++ [h]) gone' := by
  obtain ⟨passage, hp⟩ := Option.isSome_iff_exists.1 hpassage
  obtain ⟨links, cleared, canvas⟩ := s
  obtain ⟨hlinks, hhandles, rfl, rfl⟩ := hs
  have hdone : (h :: (links.map (·.2) ++ gone)).Perm (done ++ [h]) :=
    (List.Perm.cons h hhandles).trans (List.perm_append_singleton h done).symm
  unfold rekey
  simp only [hp]
  cases hm : (Handle.clearAll gone c).buffer.findMark? h.mark with
  | none =>
    have hnone : ∀ m ∈ (Handle.clearAll gone c).buffer.marks, m.id ≠ h.mark := by
      intro m hmem
      simpa using List.find?_eq_none.1 hm m hmem
    refine ⟨gone ++ [h], hlinks, ?_, ?_, ?_⟩
    · refine List.Perm.trans ?_ hdone
      rw [← List.append_assoc]
      exact List.perm_append_singleton h _
    · rw [Handle.clearAll_concat, Handle.clear_of_mark_gone hnone]
    · simp
  | some m =>
    have hperm := insertLink_perm ⟨passage, m.range.start⟩ h links
    have hpassages : ∀ p ∈ (insertLink ⟨passage, m.range.start⟩ h links).2,
        p.2.passage = some p.1.passage := by
      intro p hmem
      rcases mem_of_mem_insertLink hmem with rfl | hmem
      · exact hp
      · exact hlinks p hmem
    dsimp only
    generalize insertLink ⟨passage, m.range.start⟩ h links = inserted at hperm hpassages
    obtain ⟨_ | g, links'⟩ := inserted
    · exact ⟨gone, hpassages, (hperm.append_right gone).trans hdone, rfl, rfl⟩
    · refine ⟨gone ++ [g], hpassages, ?_, (Handle.clearAll_concat gone g c).symm, by simp⟩
      refine List.Perm.trans ?_ hdone
      rw [← List.append_assoc]
      exact (List.perm_append_singleton g _).trans (hperm.append_right gone)

private theorem sorted_foldl_rekey {c : Canvas} {todo done gone : List Handle} {s : Rekeyed}
    (hs : s.Sorted c done gone) (hpassage : ∀ h ∈ todo, h.passage.isSome) :
    ∃ gone', (todo.foldl rekey s).Sorted c (done ++ todo) gone' := by
  induction todo generalizing done gone s with
  | nil => exact ⟨gone, by simpa using hs⟩
  | cons h todo ih =>
    obtain ⟨gone', hs'⟩ := sorted_rekey hs (hpassage h List.mem_cons_self)
    rw [List.append_cons]
    exact ih hs' fun g hg => hpassage g (List.mem_cons_of_mem _ hg)

/-! ### Drawing what is missing -/

/-- The handles that are there after drawing are those from before and as many new ones as were drawn. -/
private theorem exists_drawn (designated : Modifier) (wanted : List Link)
    (links : List (LinkKey × Handle)) (c : Canvas) :
    ∃ drawn :
    List Handle, ((drawMissing designated wanted links c).2.1.map (·.2)).Perm (links.map (·.2) ++ drawn) ∧
      (drawMissing designated wanted links c).1 = drawn.length ∧
      ∀ h ∈ drawn, h.Fresh c (drawMissing designated wanted links c).2.2 := by
  induction wanted generalizing links c with
  | nil => exact ⟨[], by simp [drawMissing], rfl, by simp⟩
  | cons link rest ih =>
    unfold drawMissing
    split
    · exact ih links c
    · rename_i hnew
      have hperm :=
        (insertLink_perm_of_new (h := (drawLink c designated link).1) (Bool.not_eq_true _ ▸ hnew)).map
        (fun p : LinkKey × Handle => p.2)
      rw [List.map_cons] at hperm
      have hfront := Later.of_move (move_drawLink [] c designated link)
      have hback := Later.of_moves (moves_drawMissing [] designated rest
        (insertLink link.key (drawLink c designated link).1 links).2 (drawLink c designated link).2)
      have hfresh : (drawLink c designated link).1.Fresh c (drawLink c designated link).2 := by
        rw [drawLink_eq]
        exact Handle.fresh_place _ _ _ _ _ _
      obtain ⟨drawn, hhandles, hcount, hdrawn⟩ := ih
        (insertLink link.key (drawLink c designated link).1 links).2 (drawLink c designated link).2
      refine ⟨(drawLink c designated link).1 :: drawn, ?_, congrArg (· + 1) hcount, ?_⟩
      · exact (hhandles.trans (hperm.append_right drawn)).trans List.perm_middle.symm
      · intro h hh
        rcases List.mem_cons.1 hh with rfl | hh
        · exact hfresh.mono (Later.refl c) hback
        · exact (hdrawn h hh).mono hfront (Later.refl _)

/-- What is there stays. -/
theorem mem_drawMissing {p : LinkKey × Handle} {links : List (LinkKey × Handle)} (hp : p ∈ links)
    (designated : Modifier) (wanted : List Link) (c : Canvas) :
    p ∈ (drawMissing designated wanted links c).2.1 := by
  induction wanted generalizing links c with
  | nil => exact hp
  | cons link rest ih =>
    unfold drawMissing
    split
    · exact ih hp c
    · rename_i hnew
      have hperm :=
        insertLink_perm_of_new (h := (drawLink c designated link).1) (Bool.not_eq_true _ ▸ hnew)
      exact ih (hperm.mem_iff.2 (List.mem_cons_of_mem _ hp)) _

/-! ### A whole pass -/

/-- The old links under the keys for where their marks stand. -/
def takenOver (r : Reconciler) (c : Canvas) : Rekeyed := (r.links.map (·.2)).foldl rekey ⟨[], 0, c⟩

/-- Those of them that the text has a link for. -/
def keptLinks (r : Reconciler) (c : Canvas) (story : Story) : List (LinkKey × Handle) :=
  (r.takenOver c).links.filter fun p => (scanLinks c.buffer.lines story).any (·.key = p.1)

/-- The links of the text are drawn on a canvas from which the handles that go have been cleared. -/
structure Swept (r : Reconciler) (c : Canvas) (story : Story) (gone drawn : List Handle) : Prop where
  passage : ∀ p ∈ r.keptLinks c story, p.2.passage = some p.1.passage
  old : ((r.keptLinks c story).map (·.2) ++ gone).Perm (r.links.map (·.2))
  pass : (r.renderLinks c story).2 =
    let out := drawMissing r.designated (scanLinks c.buffer.lines story) (r.keptLinks c story)
      (Handle.clearAll gone c)
    ({ r with links := out.2.1 }, out.2.2)
  new : ((r.renderLinks c story).2.1.links.map (·.2)).Perm ((r.keptLinks c story).map (·.2) ++ drawn)
  created : (r.renderLinks c story).1.created = drawn.length
  cleared : (r.renderLinks c story).1.cleared = gone.length
  fresh : ∀ h ∈ drawn, h.Fresh c (r.renderLinks c story).2.2

/-- Once the handles that go have been cleared the pass only draws. -/
theorem Swept.grows {r : Reconciler} {c : Canvas} {story : Story} {gone drawn : List Handle}
    (h : Swept r c story gone drawn) : Grows (Handle.clearAll gone c) (r.renderLinks c story).2.2 := by
  rw [h.pass]
  exact grows_of_moves (moves_drawMissing [] _ _ _ _)

theorem exists_swept {r : Reconciler} (hpassage : ∀ p ∈ r.links, p.2.passage.isSome) (c : Canvas)
    (story : Story) : ∃ gone drawn, Swept r c story gone drawn := by
  have hold : ∀ h ∈ r.links.map (·.2), h.passage.isSome := by
    intro h hh
    obtain ⟨p, hp, rfl⟩ := List.mem_map.1 hh
    exact hpassage p hp
  have hnone : Rekeyed.Sorted c [] [] ⟨[], 0, c⟩ := ⟨by simp, List.Perm.refl _, rfl, rfl⟩
  obtain ⟨gone, hsorted⟩ := sorted_foldl_rekey hnone hold
  rw [List.nil_append] at hsorted
  change Rekeyed.Sorted c _ gone (r.takenOver c) at hsorted
  let isWanted (p : LinkKey × Handle) : Bool := (scanLinks c.buffer.lines story).any (·.key = p.1)
  let stale := (r.takenOver c).links.filter fun p => !isWanted p
  have hcanvas : Handle.clearAll (stale.map (·.2)) (r.takenOver c).canvas =
      Handle.clearAll (gone ++ stale.map (·.2)) c := by
    rw [Handle.clearAll_append, hsorted.canvas]
  have hpass : r.renderLinks c story =
      let out := drawMissing r.designated (scanLinks c.buffer.lines story) (r.keptLinks c story)
        (Handle.clearAll (gone ++ stale.map (·.2)) c)
      (⟨out.1, gone.length + stale.length⟩, { r with links := out.2.1 }, out.2.2) := by
    rw [← hcanvas, ← hsorted.cleared]
    rfl
  obtain ⟨drawn, hnew, hcreated, hfresh⟩ := exists_drawn r.designated (scanLinks c.buffer.lines story)
    (r.keptLinks c story) (Handle.clearAll (gone ++ stale.map (·.2)) c)
  refine ⟨gone ++ stale.map (·.2), drawn, fun p hp => hsorted.passage p (List.mem_filter.1 hp).1,
    ?_, by rw [hpass],
    ?_, ?_, ?_, ?_⟩
  · have hsplit : ((r.keptLinks c story).map (·.2) ++ stale.map (·.2)).Perm
        ((r.takenOver c).links.map (·.2)) := by
      rw [← List.map_append]
      exact (List.filter_append_perm isWanted _).map _
    refine List.Perm.trans ?_ hsorted.handles
    refine (List.Perm.append_left _ List.perm_append_comm).trans ?_
    rw [← List.append_assoc]
    exact hsplit.append_right gone
  · rw [hpass]
    exact hnew
  · rw [hpass]
    exact hcreated
  · rw [hpass]
    simp
  · intro h hh
    rw [hpass]
    refine (hfresh h hh).mono ?_ (Later.refl _)
    have hmoves : Moves .passageLink (gone ++ stale.map (·.2)) c
        (Handle.clearAll (gone ++ stale.map (·.2)) c) :=
      moves_clearAll (fun _ hg => hg) c
    exact Later.of_moves hmoves

end Reconciler

end PassageEditor.Markup
