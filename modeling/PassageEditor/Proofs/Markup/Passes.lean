import PassageEditor.Proofs.Markup.Scene

/-!
# What a pass does

A pass over the placeholders or over the links is a sequence of moves (`moves_renderPlaceholders`,
`moves_renderLinks`), and the handles that it leaves are old ones or fresh ones, whose mark and listeners
were made on the way (`handle_renderLinks`).
-/

namespace PassageEditor.Markup

/-! ### Fresh handles -/

namespace Handle

/-- A handle whose mark and listeners were made on the way from one canvas to another. -/
structure Fresh (c c' : Canvas) (h : Handle) : Prop where
  mark : c.buffer.nextMark ≤ h.mark.value
  listeners : ∀ id ∈ h.listeners, c.hub.nextListener ≤ id.value ∧ id.value < c'.hub.nextListener

theorem Fresh.mono {c c' d d' : Canvas} {h : Handle} (hfresh : h.Fresh c c') (hfront : Later d c)
    (hback : Later c' d') : h.Fresh d d' := by
  refine ⟨Nat.le_trans hfront.nextMark hfresh.mark, ?_⟩
  intro id hid
  obtain ⟨hge, hlt⟩ := hfresh.listeners id hid
  exact ⟨Nat.le_trans hfront.nextListener hge, Nat.lt_of_lt_of_le hlt hback.nextListener⟩

theorem fresh_place (c : Canvas) (cls : MarkClass) (text : String) (passage : Option PassageId)
    (range : Range) (listeners : WidgetId → List (EventKind × Reaction)) :
    (place c cls text passage range listeners).1.Fresh c
      (place c cls text passage range listeners).2 := by
  let widget : WidgetId × Hub := c.hub.addWidget cls.name text passage
  obtain ⟨hids, -⟩ := addAll_listeners widget.2 (listeners widget.1)
  refine ⟨Nat.le_refl _, ?_⟩
  intro id hid
  exact hids id hid

end Handle

/-! ### Placeholders -/

theorem moves_clearAll {cls : MarkClass} {old handles : List Handle} (h : ∀ g ∈ handles, g ∈ old)
    (c : Canvas) : Moves cls old c (Handle.clearAll handles c) := by
  induction handles generalizing c with
  | nil => exact Relation.ReflTransGen.refl
  | cons g handles ih =>
    have hrest := ih (fun g' hg' => h g' (List.mem_cons_of_mem _ hg')) (g.clear c)
    exact Relation.ReflTransGen.head (Move.clear (h g List.mem_cons_self)) hrest

theorem mem_marks_clearAll {handles : List Handle} {c : Canvas} {m : Mark} :
    m ∈ (Handle.clearAll handles c).buffer.marks ↔ m ∈ c.buffer.marks ∧ ∀ h ∈ handles, m.id ≠ h.mark := by
  induction handles generalizing c with
  | nil => simp [Handle.clearAll]
  | cons g handles ih =>
    have hstep : m ∈ (g.clear c).buffer.marks ↔ m ∈ c.buffer.marks ∧ m.id ≠ g.mark := by
      show m ∈ c.buffer.marks.filter (·.id ≠ g.mark) ↔ _
      simp [List.mem_filter]
    show m ∈ (Handle.clearAll handles (g.clear c)).buffer.marks ↔ _
    rw [ih, hstep]
    simp only [List.mem_cons, forall_eq_or_imp, and_assoc]

theorem move_drawPlaceholder (old : List Handle) (c : Canvas) (p : Placeholder) :
    Move .placeholder old c (Reconciler.drawPlaceholder c p).2 := by
  rw [drawPlaceholder_eq]
  exact Move.place _ _ _ _

theorem moves_drawPlaceholders (old : List Handle) (ps : List Placeholder) (c : Canvas) :
    Moves .placeholder old c (Reconciler.drawPlaceholders c ps).2 := by
  induction ps generalizing c with
  | nil => exact Relation.ReflTransGen.refl
  | cons p ps ih => exact Relation.ReflTransGen.head (move_drawPlaceholder old c p) (ih _)

theorem moves_renderPlaceholders (r : Reconciler) (c : Canvas) (force : Bool) :
    Moves .placeholder r.placeholders c (r.renderPlaceholders c force).2.2 := by
  unfold Reconciler.renderPlaceholders
  dsimp only
  split
  · exact Relation.ReflTransGen.refl
  · exact (moves_clearAll (fun _ hg => hg) c).trans (moves_drawPlaceholders _ _ _)

namespace Reconciler

theorem links_renderPlaceholders (r : Reconciler) (c : Canvas) (force : Bool) :
    (r.renderPlaceholders c force).2.1.links = r.links := by
  unfold renderPlaceholders
  dsimp only
  split <;> rfl

/-! ### Links -/

section Insert

variable {key : LinkKey} {h : Handle} {links : List (LinkKey × Handle)}

/-- A handle that comes back was there under the key. -/
theorem mem_of_insertLink_eq_some {g : Handle} (hg : (insertLink key h links).1 = some g) :
    (key, g) ∈ links := by
  induction links with
  | nil => simp [insertLink] at hg
  | cons p rest ih =>
    obtain ⟨k, g'⟩ := p
    unfold insertLink at hg
    split at hg
    · rename_i hk
      obtain rfl := Option.some.inj hg
      rw [hk]
      exact List.mem_cons_self
    · split at hg
      · simp at hg
      · exact List.mem_cons_of_mem _ (ih hg)

/-- What is there afterwards is the handle or was there before. -/
theorem mem_of_mem_insertLink {p : LinkKey × Handle} (hp : p ∈ (insertLink key h links).2) :
    p = (key, h) ∨ p ∈ links := by
  induction links with
  | nil => exact .inl (List.mem_singleton.1 hp)
  | cons q rest ih =>
    obtain ⟨k, g⟩ := q
    unfold insertLink at hp
    split at hp
    · exact (List.mem_cons.1 hp).imp_right (List.mem_cons_of_mem _)
    · split at hp
      · exact List.mem_cons.1 hp
      · rcases List.mem_cons.1 hp with rfl | hp
        · exact .inr List.mem_cons_self
        · exact (ih hp).imp_right (List.mem_cons_of_mem _)

end Insert

/-- Old links as far as they have been taken over. -/
structure Rekeyed.Taken (c : Canvas) (old : List Handle) (s : Rekeyed) : Prop where
  handles : ∀ p ∈ s.links, p.2 ∈ old
  moves : Moves .passageLink old c s.canvas

private theorem taken_rekey {c : Canvas} {old : List Handle} {s : Rekeyed} (hs : s.Taken c old)
    {h : Handle} (hold : h ∈ old) : (rekey s h).Taken c old := by
  unfold rekey
  split
  · rename_i m passage hm hpassage
    have hmem : ∀ p ∈ (insertLink ⟨passage, m.range.start⟩ h s.links).2, p.2 ∈ old := by
      intro p hp
      rcases mem_of_mem_insertLink hp with rfl | hp
      · exact hold
      · exact hs.handles p hp
    have hback : ∀ g, (insertLink ⟨passage, m.range.start⟩ h s.links).1 = some g → g ∈ old := fun g hg =>
      hs.handles _ (mem_of_insertLink_eq_some hg)
    generalize insertLink ⟨passage, m.range.start⟩ h s.links = inserted at hmem hback
    obtain ⟨_ | g, links⟩ := inserted
    · exact ⟨hmem, hs.moves⟩
    · exact ⟨hmem, hs.moves.tail (Move.clear (hback g rfl))⟩
  · exact ⟨hs.handles, hs.moves.tail (Move.release hold)⟩

private theorem taken_foldl_rekey {c : Canvas} {old todo : List Handle} {s : Rekeyed} (hs : s.Taken c old)
    (hold : ∀ h ∈ todo, h ∈ old) : (todo.foldl rekey s).Taken c old := by
  induction todo generalizing s with
  | nil => exact hs
  | cons h todo ih =>
    exact ih (taken_rekey hs (hold h List.mem_cons_self)) fun g hg => hold g (List.mem_cons_of_mem _ hg)

theorem Rekeyed.Taken.moves_clear {c : Canvas} {old : List Handle} {s : Rekeyed} (hs : s.Taken c old)
    (stale : LinkKey × Handle → Bool) :
    Moves .passageLink old c (Handle.clearAll ((s.links.filter stale).map (·.2)) s.canvas) := by
  refine hs.moves.trans (moves_clearAll ?_ _)
  intro g hg
  obtain ⟨p, hp, rfl⟩ := List.mem_map.1 hg
  exact hs.handles p (List.mem_filter.1 hp).1

theorem move_drawLink (old : List Handle) (c : Canvas) (designated : Modifier) (link : Link) :
    Move .passageLink old c (drawLink c designated link).2 := by
  rw [drawLink_eq]
  exact Move.place _ _ _ _

theorem moves_drawMissing (old : List Handle) (designated : Modifier) (wanted : List Link)
    (links : List (LinkKey × Handle)) (c : Canvas) :
    Moves .passageLink old c (drawMissing designated wanted links c).2.2 := by
  induction wanted generalizing links c with
  | nil => exact Relation.ReflTransGen.refl
  | cons link rest ih =>
    unfold drawMissing
    split
    · exact ih links c
    · exact Relation.ReflTransGen.head (move_drawLink old c designated link) (ih _ _)

private theorem handle_drawMissing {designated : Modifier} {wanted : List Link}
    {links : List (LinkKey × Handle)} {c : Canvas} {p : LinkKey × Handle}
    (hp : p ∈ (drawMissing designated wanted links c).2.1) :
    p ∈ links ∨ p.2.Fresh c (drawMissing designated wanted links c).2.2 := by
  induction wanted generalizing links c with
  | nil => exact .inl hp
  | cons link rest ih =>
    unfold drawMissing at hp ⊢
    split at hp
    · rename_i hthere
      rw [if_pos hthere]
      exact ih hp
    · rename_i hmissing
      rw [if_neg hmissing]
      have hfront := Later.of_move (move_drawLink [] c designated link)
      have hback := Later.of_moves (moves_drawMissing [] designated rest
        (insertLink link.key (drawLink c designated link).1 links).2 (drawLink c designated link).2)
      rcases ih hp with hp | hfresh
      · rcases mem_of_mem_insertLink hp with rfl | hp
        · have hdrawn : (drawLink c designated link).1.Fresh c (drawLink c designated link).2 := by
            rw [drawLink_eq]
            exact Handle.fresh_place _ _ _ _ _ _
          exact .inr (hdrawn.mono (Later.refl c) hback)
        · exact .inl hp
      · exact .inr (hfresh.mono hfront (Later.refl _))

theorem taken_links (r : Reconciler) (c : Canvas) :
    ((r.links.map (·.2)).foldl rekey ⟨[], 0, c⟩).Taken c (r.links.map (·.2)) :=
  taken_foldl_rekey ⟨by simp, Relation.ReflTransGen.refl⟩ fun _ hg => hg

theorem moves_renderLinks (r : Reconciler) (c : Canvas) (story : Story) :
    Moves .passageLink (r.links.map (·.2)) c (r.renderLinks c story).2.2 := by
  have htaken := taken_links r c
  unfold renderLinks
  dsimp only
  generalize (r.links.map (·.2)).foldl rekey ⟨[], 0, c⟩ = moved at htaken
  exact (htaken.moves_clear _).trans (moves_drawMissing _ _ _ _ _)

theorem handle_renderLinks {r : Reconciler} {c : Canvas} {story : Story} {p : LinkKey × Handle}
    (hp : p ∈ (r.renderLinks c story).2.1.links) :
    p.2 ∈ r.links.map (·.2) ∨ p.2.Fresh c (r.renderLinks c story).2.2 := by
  have htaken := taken_links r c
  unfold renderLinks at hp ⊢
  dsimp only at hp ⊢
  generalize (r.links.map (·.2)).foldl rekey ⟨[], 0, c⟩ = moved at htaken hp ⊢
  rcases handle_drawMissing hp with hp | hfresh
  · exact .inl (htaken.handles p (List.mem_filter.1 hp).1)
  · exact .inr (hfresh.mono (Later.of_moves (htaken.moves_clear _)) (Later.refl _))

end Reconciler

end PassageEditor.Markup
