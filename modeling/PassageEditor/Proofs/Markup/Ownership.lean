import Mathlib.Data.List.Pairwise
import PassageEditor.Proofs.Markup.Dispatch
import PassageEditor.Proofs.Markup.LinkPass

/-!
# Who owns marks and listeners

Every listener of the hub is that of one handle, and every handle has just the listeners of its class
(`Wired`).  Every mark on the buffer is that of one handle, or it is foreign: it was put there by someone
else (`Owned`).  Drawing and clearing keep both, whatever the order (`Accounting`), and so does a whole
pass (`accounts_renderPlaceholders`, `accounts_renderLinks`).
-/

namespace PassageEditor

/-- The kinds of the listeners of a handle. -/
def MarkClass.kinds : MarkClass → List EventKind
  | .placeholder => [.click, .beforeSelection]
  | .passageLink => [.mouseEnter, .mouseLeave, .keyDown, .keyUp, .click]

namespace Hub

private theorem addAll_cons (h : Hub) (l : EventKind × Reaction)
    (listeners : List (EventKind × Reaction)) :
    h.addAll (l :: listeners) =
      (⟨h.nextListener⟩ :: ((h.add l.1 l.2).2.addAll listeners).1,
        ((h.add l.1 l.2).2.addAll listeners).2) := rfl

theorem length_addAll (h : Hub) (listeners : List (EventKind × Reaction)) :
    (h.addAll listeners).1.length = listeners.length := by
  induction listeners generalizing h with
  | nil => rfl
  | cons l listeners ih => rw [addAll_cons, List.length_cons, List.length_cons, ih]

private theorem nodup_addAll (h : Hub) (listeners : List (EventKind × Reaction)) :
    (h.addAll listeners).1.Nodup := by
  induction listeners generalizing h with
  | nil => exact List.nodup_nil
  | cons l listeners ih =>
    rw [addAll_cons]
    refine List.nodup_cons.2 ⟨?_, ih _⟩
    intro hmem
    have hlater := ((Markup.addAll_listeners (h.add l.1 l.2).2 listeners).1 _ hmem).1
    exact Nat.not_succ_le_self _ hlater

/-- The listeners that are added, with their numbers. -/
theorem listeners_addAll (h : Hub) (listeners : List (EventKind × Reaction)) :
    (h.addAll listeners).2.listeners =
      h.listeners ++ List.zipWith (fun id l => ⟨id, l.1, l.2⟩) (h.addAll listeners).1 listeners := by
  induction listeners generalizing h with
  | nil => simp [addAll]
  | cons l listeners ih =>
    rw [addAll_cons, ih]
    simp [add]

theorem of_mem_added {ids : List ListenerId} {listeners : List (EventKind × Reaction)} {l : Listener}
    (hl : l ∈ List.zipWith (fun id l => (⟨id, l.1, l.2⟩ : Listener)) ids listeners) :
    l.id ∈ ids ∧ ∃ x ∈ listeners, l.reaction = x.2 := by
  rw [← List.map_uncurry_zip_eq_zipWith] at hl
  obtain ⟨⟨id, x⟩, hx, rfl⟩ := List.mem_map.1 hl
  exact ⟨(List.of_mem_zip hx).1, x, (List.of_mem_zip hx).2, rfl⟩

end Hub

namespace Markup

/-! ### Listeners -/

/-- The listeners of a handle with their kinds. -/
def Handle.heard (h : Handle) : List (ListenerId × EventKind) := h.listeners.zip h.cls.kinds

/-- The listeners of the hub are those of the handles, and none of them is the host's. -/
structure Wired (hub : Hub) (handles : List Handle) : Prop where
  numbered : hub.Numbered
  nodup : (hub.listeners.map (·.id)).Nodup
  own : ∀ l ∈ hub.listeners, ∀ x, l.reaction ≠ .host x
  complete : ∀ h ∈ handles, h.listeners.length = h.cls.kinds.length
  heard : (hub.listeners.map fun l => (l.id, l.kind)).Perm (handles.flatMap Handle.heard)

namespace Wired

variable {hub : Hub} {handles : List Handle}

theorem perm {handles' : List Handle} (h : Wired hub handles) (hperm : handles.Perm handles') :
    Wired hub handles' :=
  ⟨h.numbered, h.nodup, h.own, fun g hg => h.complete g (hperm.mem_iff.2 hg),
    h.heard.trans (hperm.flatMap_right _)⟩

/-- The numbers of the listeners are those that the handles remember. -/
theorem ids (h : Wired hub handles) :
    (hub.listeners.map (·.id)).Perm (handles.flatMap (·.listeners)) := by
  have hfst := h.heard.map Prod.fst
  rw [List.map_map, List.map_flatMap] at hfst
  refine hfst.trans (List.Perm.of_eq (List.flatMap_congr ?_))
  intro g hg
  exact List.map_fst_zip (Nat.le_of_eq (h.complete g hg))

private theorem nodup_handles (h : Wired hub handles) : (handles.flatMap (·.listeners)).Nodup :=
  h.ids.nodup_iff.1 h.nodup

/-- Two handles have no listener in common. -/
theorem apart (h : Wired hub handles) {g k : Handle} (hg : g ∈ handles) (hk : k ∈ handles) (hne : g ≠ k)
    {id : ListenerId} (hid : id ∈ g.listeners) : id ∉ k.listeners := by
  have hpairs := (List.nodup_flatMap.1 h.nodup_handles).2
  have : Std.Symm (Function.onFun List.Disjoint fun h : Handle => h.listeners) :=
    ⟨fun _ _ hd _ hx hy => hd hy hx⟩
  exact fun hid' => hpairs.forall hg hk hne hid hid'

theorem below (h : Wired hub handles) {g : Handle} (hg : g ∈ handles) {id : ListenerId}
    (hid : id ∈ g.listeners) :
    id.value < hub.nextListener := by
  obtain ⟨l, hl, rfl⟩ := List.mem_map.1 (h.ids.mem_iff.2 (List.mem_flatMap.2 ⟨g, hg, hid⟩))
  exact h.numbered l hl

theorem empty : Wired .empty [] :=
  ⟨by simp [Hub.Numbered, Hub.empty], List.nodup_nil, by simp [Hub.empty], by simp, List.Perm.refl _⟩

/-- Nothing but the listeners counts. -/
theorem of_same {hub' : Hub} (h : Wired hub handles) (hlisteners : hub'.listeners = hub.listeners)
    (hnext : hub'.nextListener = hub.nextListener) : Wired hub' handles := by
  refine ⟨?_, hlisteners ▸ h.nodup, hlisteners ▸ h.own, h.complete, hlisteners ▸ h.heard⟩
  unfold Hub.Numbered
  rw [hlisteners, hnext]
  exact h.numbered

theorem listeners_of_nil (h : Wired hub []) : hub.listeners = [] := List.map_eq_nil_iff.1 h.heard.eq_nil

/-- Releasing a handle takes its listeners away and no others. -/
theorem release {g : Handle} (h : Wired hub (g :: handles)) : Wired (g.release hub) handles := by
  have hnodup := h.nodup_handles
  rw [List.flatMap_cons] at hnodup
  have hapart := (List.nodup_append.1 hnodup).2.2
  have hothers : ∀ k ∈ handles, k.heard.filter (fun x => !g.listeners.contains x.1) = k.heard := by
    intro k hk
    rw [List.filter_eq_self]
    rintro ⟨id, kind⟩ hmem
    have hid := (List.of_mem_zip hmem).1
    simp only [Bool.not_eq_true', List.contains_eq_mem, decide_eq_false_iff_not]
    intro hg
    exact hapart id hg id (List.mem_flatMap.2 ⟨k, hk, hid⟩) rfl
  have hown : g.heard.filter (fun x => !g.listeners.contains x.1) = [] := by
    rw [List.filter_eq_nil_iff]
    rintro ⟨id, kind⟩ hmem
    simpa using (List.of_mem_zip hmem).1
  have hsub : (hub.listeners.filter fun l => !g.listeners.contains l.id).Sublist hub.listeners :=
    List.filter_sublist
  refine ⟨fun l hl => h.numbered l (hsub.mem hl), h.nodup.sublist (hsub.map _),
    fun l hl => h.own l (hsub.mem hl),
    fun k hk => h.complete k (List.mem_cons_of_mem _ hk), ?_⟩
  have hfilter := h.heard.filter fun x => !g.listeners.contains x.1
  rw [List.filter_map, List.flatMap_cons, List.filter_append, hown, List.nil_append,
    List.filter_flatMap] at hfilter
  exact hfilter.trans (List.Perm.of_eq (List.flatMap_congr hothers))

/-- A handle with new listeners for all the kinds of its class. -/
private theorem add (h : Wired hub handles) {g : Handle} {listeners : List (EventKind × Reaction)}
    (hids : g.listeners = (hub.addAll listeners).1) (hkinds : listeners.map (·.1) = g.cls.kinds)
    (hown : ∀ l ∈ listeners, ∀ x, l.2 ≠ .host x) : Wired (hub.addAll listeners).2 (g :: handles) := by
  have hadded := hub.listeners_addAll listeners
  have hlength := hub.length_addAll listeners
  obtain ⟨hfresh, -⟩ := addAll_listeners hub listeners
  have hnext := nextListener_addAll hub listeners
  have hids' : (hub.addAll listeners).2.listeners.map (·.id) =
      hub.listeners.map (·.id) ++ g.listeners := by
    rw [hadded, List.map_append, List.map_zipWith, hids]
    congr 1
    exact (List.map_uncurry_zip_eq_zipWith (f := fun id _ => id)).symm.trans
      (List.map_fst_zip (Nat.le_of_eq hlength))
  have hnew : ∀ l ∈ (hub.addAll listeners).2.listeners, l ∈ hub.listeners ∨ l.id ∈ g.listeners ∧
      ∃ x ∈ listeners, l.reaction = x.2 := by
    intro l hl
    rw [hadded] at hl
    rw [hids]
    exact (List.mem_append.1 hl).imp_right Hub.of_mem_added
  refine ⟨?_, ?_, ?_, ?_, ?_⟩
  · intro l hl
    rcases hnew l hl with hl | ⟨hid, -⟩
    · have := h.numbered l hl
      omega
    · exact (hfresh l.id (hids ▸ hid)).2
  · rw [hids']
    refine List.nodup_append.2 ⟨h.nodup, hids ▸ hub.nodup_addAll listeners, ?_⟩
    rintro id hid id' hid' rfl
    obtain ⟨l, hl, rfl⟩ := List.mem_map.1 hid
    have hlt := h.numbered l hl
    have hge := (hfresh l.id (hids ▸ hid')).1
    omega
  · intro l hl
    rcases hnew l hl with hl | ⟨-, x, hx, hreaction⟩
    · exact h.own l hl
    · rw [hreaction]
      exact hown x hx
  · intro k hk
    rcases List.mem_cons.1 hk with rfl | hk
    · rw [hids, hlength, ← hkinds, List.length_map]
    · exact h.complete k hk
  · have hheard : ((hub.addAll listeners).2.listeners.map fun l => (l.id, l.kind)) =
        (hub.listeners.map fun l => (l.id, l.kind)) ++ g.heard := by
      rw [hadded, List.map_append, List.map_zipWith, Handle.heard, hids, ← hkinds, List.zip_map_right,
        ← List.map_uncurry_zip_eq_zipWith]
      rfl
    rw [hheard, List.flatMap_cons]
    exact List.perm_append_comm.trans (h.heard.append_left _)

end Wired

/-! ### Marks -/

/-- The marks on a buffer are those of the handles and foreign ones. -/
structure Owned (b : Buffer) (foreign : List MarkId) (handles : List Handle) : Prop where
  numbered : b.Numbered
  foreign_below : ∀ id ∈ foreign, id.value < b.nextMark
  below : ∀ h ∈ handles, h.mark.value < b.nextMark
  apart : ∀ h ∈ handles, h.mark ∉ foreign
  single : (handles.map (·.mark)).Nodup
  marks : ∀ m ∈ b.marks, m.id ∈ foreign ∨ ∃ h ∈ handles, m.id = h.mark ∧ m.info.cls = h.cls

namespace Owned

variable {b : Buffer} {foreign : List MarkId} {handles : List Handle}

theorem perm {handles' : List Handle} (h : Owned b foreign handles) (hperm : handles.Perm handles') :
    Owned b foreign handles' where
  numbered := h.numbered
  foreign_below := h.foreign_below
  below g hg := h.below g (hperm.mem_iff.2 hg)
  apart g hg := h.apart g (hperm.mem_iff.2 hg)
  single := (hperm.map _).nodup_iff.1 h.single
  marks m hm := (h.marks m hm).imp_right fun ⟨g, hg, hmark⟩ => ⟨g, hperm.mem_iff.1 hg, hmark⟩

/-- Before anything is drawn all marks are foreign. -/
theorem of_numbered (hb : b.Numbered) : Owned b (b.marks.map (·.id)) [] := by
  refine ⟨hb, ?_, by simp, by simp, List.nodup_nil, fun m hm => .inl (List.mem_map_of_mem hm)⟩
  intro id hid
  obtain ⟨m, hm, rfl⟩ := List.mem_map.1 hid
  exact hb.below m hm

/-- Without handles all marks are foreign. -/
theorem foreign_of_nil (h : Owned b foreign []) : ∀ m ∈ b.marks, m.id ∈ foreign := by
  intro m hm
  rcases h.marks m hm with hforeign | ⟨g, hg, -⟩
  · exact hforeign
  · simp at hg

private theorem clear {g : Handle} (h : Owned b foreign (g :: handles)) :
    Owned (b.clearMark g.mark).2 foreign handles where
  numbered := h.numbered.clearMark _
  foreign_below := h.foreign_below
  below k hk := h.below k (List.mem_cons_of_mem _ hk)
  apart k hk := h.apart k (List.mem_cons_of_mem _ hk)
  single := (List.nodup_cons.1 h.single).2
  marks := by
    intro m hm
    obtain ⟨hm, hne⟩ := List.mem_filter.1 hm
    refine (h.marks m hm).imp_right ?_
    rintro ⟨k, hk, hid, hcls⟩
    rcases List.mem_cons.1 hk with rfl | hk
    · simp [hid] at hne
    · exact ⟨k, hk, hid, hcls⟩

private theorem add (h : Owned b foreign handles) {g : Handle} (range : Range) (info : MarkInfo)
    (hmark : g.mark = (b.addMark range info).1) (hcls : info.cls = g.cls) :
    Owned (b.addMark range info).2 foreign (g :: handles) := by
  have hvalue : g.mark.value = b.nextMark := congrArg MarkId.value hmark
  refine ⟨h.numbered.addMark range info, fun id hid => Nat.lt_succ_of_lt (h.foreign_below id hid),
    ?_, ?_, ?_, ?_⟩
  · intro k hk
    rcases List.mem_cons.1 hk with rfl | hk
    · exact Nat.lt_succ_of_le (Nat.le_of_eq hvalue)
    · exact Nat.lt_succ_of_lt (h.below k hk)
  · intro k hk
    rcases List.mem_cons.1 hk with rfl | hk
    · intro hforeign
      have := h.foreign_below _ hforeign
      omega
    · exact h.apart k hk
  · refine List.nodup_cons.2 ⟨?_, h.single⟩
    intro hmem
    obtain ⟨k, hk, heq⟩ := List.mem_map.1 hmem
    have hlt : g.mark.value < b.nextMark := by
      rw [← show k.mark = g.mark from heq]
      exact h.below k hk
    omega
  · intro m hm
    rcases List.mem_append.1 hm with hm | hm
    · exact (h.marks m hm).imp_right fun ⟨k, hk, hown⟩ => ⟨k, List.mem_cons_of_mem _ hk, hown⟩
    · obtain rfl := List.mem_singleton.1 hm
      exact .inr ⟨g, List.mem_cons_self, hmark.symm, hcls⟩

/-- Marks that others put on the buffer are foreign. -/
theorem ages (h : Owned b foreign handles) {b' : Buffer} (hages : b.Ages b') :
    Owned b' (foreign ++ b.newMarks b') handles := by
  have hnumbered := hages.numbered h.numbered
  have hnew : ∀ id ∈ b.newMarks b', b.nextMark ≤ id.value ∧ id.value < b'.nextMark := by
    intro id hid
    obtain ⟨hid, hnot⟩ := List.mem_filter.1 hid
    obtain ⟨m, hm, rfl⟩ := List.mem_map.1 hid
    refine ⟨(hages.marks m hm).resolve_left ?_, hnumbered.below m hm⟩
    rintro ⟨n, hn, heq, -⟩
    simp only [decide_eq_true_eq] at hnot
    exact hnot (List.mem_map.2 ⟨n, hn, heq⟩)
  refine ⟨hnumbered, ?_, fun g hg => Nat.lt_of_lt_of_le (h.below g hg) hages.nextMark, ?_, h.single, ?_⟩
  · intro id hid
    rcases List.mem_append.1 hid with hid | hid
    · exact Nat.lt_of_lt_of_le (h.foreign_below id hid) hages.nextMark
    · exact (hnew id hid).2
  · intro g hg hid
    rcases List.mem_append.1 hid with hid | hid
    · exact h.apart g hg hid
    · have := h.below g hg
      have := (hnew _ hid).1
      omega
  · intro m hm
    rcases hages.marks m hm with ⟨n, hn, hid, hinfo⟩ | hle
    · rcases h.marks n hn with hforeign | ⟨g, hg, hmark, hcls⟩
      · exact .inl (List.mem_append_left _ (hid ▸ hforeign))
      · exact .inr ⟨g, hg, hid ▸ hmark, hinfo ▸ hcls⟩
    · refine .inl (List.mem_append_right _ (List.mem_filter.2 ⟨List.mem_map_of_mem hm, ?_⟩))
      simp only [decide_eq_true_eq]
      intro hmem
      obtain ⟨n, hn, heq⟩ := List.mem_map.1 hmem
      have := h.numbered.below n hn
      rw [heq] at this
      omega

/-- An edit moves marks along or drops them. -/
theorem edit (h : Owned b foreign handles) (e : Buffer.Edit) : Owned (b.edit e) foreign handles := by
  obtain ⟨hages, hnone⟩ := b.ages_edit e
  have hedit := h.ages hages
  rwa [hnone, List.append_nil] at hedit

/-- Nothing but the marks counts. -/
theorem of_same (h : Owned b foreign handles) {b' : Buffer} (hmarks : b'.marks = b.marks)
    (hnext : b'.nextMark = b.nextMark) : Owned b' foreign handles := by
  refine ⟨(Buffer.Ages.of_same hmarks hnext).numbered h.numbered, ?_, ?_, h.apart,
    h.single, hmarks ▸ h.marks⟩
  · rw [hnext]
    exact h.foreign_below
  · rw [hnext]
    exact h.below

end Owned

/-! ### Drawing and clearing -/

/-- The listeners that a handle of a class is drawn with. -/
inductive Equips (designated : Modifier) (widget : WidgetId) :
    MarkClass → Option PassageId → List (EventKind × Reaction) → Prop
  | placeholder (range : Range) :
    Equips designated widget .placeholder none (placeholderListeners widget range)
  | link (passage : PassageId) :
    Equips designated widget .passageLink (some passage) (linkListeners widget passage designated)

namespace Equips

variable {designated : Modifier} {widget : WidgetId} {cls : MarkClass} {passage : Option PassageId}
  {listeners : List (EventKind × Reaction)}

private theorem kinds (h : Equips designated widget cls passage listeners) :
    listeners.map (·.1) = cls.kinds := by
  cases h <;> rfl

private theorem own (h : Equips designated widget cls passage listeners) :
    ∀ l ∈ listeners, ∀ x, l.2 ≠ .host x := by
  cases h with
  | placeholder range => simp [placeholderListeners]
  | link passage => simp [linkListeners]

end Equips

/-- What drawing and clearing keep of a canvas and its handles, whatever handles there are. -/
structure Accounting (designated : Modifier) (P : Canvas → List Handle → Prop) : Prop where
  perm : ∀ {c : Canvas} {handles handles' : List Handle}, P c handles →
    handles.Perm handles' → P c handles'
  clear : ∀ {c : Canvas} {g : Handle} {handles : List Handle}, P c (g :: handles) → P (g.clear c) handles
  /-- A handle is drawn with the listeners of its class. -/
  place :
    ∀ {c : Canvas} {handles : List Handle} {cls : MarkClass} (text : String) {passage : Option PassageId}
    (range : Range) {listeners : WidgetId → List (EventKind × Reaction)}, P c handles →
    (∀ widget, Equips designated widget cls passage (listeners widget)) →
    P (Handle.place c cls text passage range listeners).2
      ((Handle.place c cls text passage range listeners).1 :: handles)

theorem accounting_wired (designated : Modifier) :
    Accounting designated fun c handles => Wired c.hub handles where
  perm h hperm := h.perm hperm
  clear h := h.release
  place {c handles cls} text passage _ _ h hequips := by
    have hwidget : Wired (c.hub.addWidget cls.name text passage).2 handles :=
      ⟨h.numbered, h.nodup, h.own, h.complete, h.heard⟩
    exact hwidget.add (List.nil_append _) (hequips _).kinds (hequips _).own

theorem accounting_owned (designated : Modifier) (foreign : List MarkId) :
    Accounting designated fun c handles => Owned c.buffer foreign handles where
  perm h hperm := h.perm hperm
  clear h := h.clear
  place _ _ range _ h _ := h.add range _ rfl rfl

structure Tended (c : Canvas) (foreign : List MarkId) (handles : List Handle) : Prop where
  wired : Wired c.hub handles
  owned : Owned c.buffer foreign handles

private theorem accounting_tended (designated : Modifier) (foreign : List MarkId) :
    Accounting designated fun c handles => Tended c foreign handles where
  perm h hperm := ⟨h.wired.perm hperm, h.owned.perm hperm⟩
  clear h := ⟨h.wired.release, h.owned.clear⟩
  place text _ range _ h hequips :=
    ⟨(accounting_wired designated).place text range h.wired hequips,
      (accounting_owned designated foreign).place text range h.owned hequips⟩

namespace Accounting

variable {designated : Modifier} {P : Canvas → List Handle → Prop} {c : Canvas} {handles : List Handle}

theorem and {Q : Canvas → List Handle → Prop} (hP : Accounting designated P)
    (hQ : Accounting designated Q) :
    Accounting designated fun c handles => P c handles ∧ Q c handles where
  perm h hperm := ⟨hP.perm h.1 hperm, hQ.perm h.2 hperm⟩
  clear h := ⟨hP.clear h.1, hQ.clear h.2⟩
  place text _ range _ h hequips := ⟨hP.place text range h.1 hequips, hQ.place text range h.2 hequips⟩

private theorem clearAll (hP : Accounting designated P) {gone : List Handle} (h : P c (gone ++ handles)) :
    P (Handle.clearAll gone c) handles := by
  induction gone generalizing c with
  | nil => exact h
  | cons g gone ih => exact ih (hP.clear h)

private theorem drawPlaceholder (hP : Accounting designated P) (h : P c handles) (p : Placeholder) :
    P (Reconciler.drawPlaceholder c p).2 ((Reconciler.drawPlaceholder c p).1 :: handles) := by
  rw [drawPlaceholder_eq]
  exact hP.place _ _ h fun _ => .placeholder p.range

private theorem drawPlaceholders (hP : Accounting designated P) (h : P c handles)
    (ps : List Placeholder) :
    P (Reconciler.drawPlaceholders c ps).2 ((Reconciler.drawPlaceholders c ps).1 ++ handles) := by
  induction ps generalizing c handles with
  | nil => exact h
  | cons p ps ih => exact hP.perm (ih (hP.drawPlaceholder h p)) List.perm_middle

private theorem drawLink (hP : Accounting designated P) (h : P c handles) (link : Link) :
    P (Reconciler.drawLink c designated link).2
      ((Reconciler.drawLink c designated link).1 :: handles) := by
  rw [drawLink_eq]
  exact hP.place _ _ h fun _ => .link link.key.passage

private theorem drawMissing (hP : Accounting designated P) {links : List (LinkKey × Handle)}
    (h : P c (links.map (·.2) ++ handles)) (wanted : List Link) :
    P (Reconciler.drawMissing designated wanted links c).2.2
      ((Reconciler.drawMissing designated wanted links c).2.1.map (·.2) ++ handles) := by
  induction wanted generalizing links c with
  | nil => exact h
  | cons link rest ih =>
    unfold Reconciler.drawMissing
    split
    · exact ih h
    · rename_i hnew
      have hperm := (Reconciler.insertLink_perm_of_new (h := (Reconciler.drawLink c designated link).1)
        (Bool.not_eq_true _ ▸ hnew)).map (fun p : LinkKey × Handle => p.2)
      rw [List.map_cons] at hperm
      exact ih (hP.perm (hP.drawLink h link) (hperm.symm.append_right handles))

end Accounting

/-! ### Passes -/

namespace Reconciler

/-- All handles, placeholders first. -/
def handles (r : Reconciler) : List Handle := r.placeholders ++ r.links.map (·.2)

/-- The handles are of the right class, and a link points to the passage of its key. -/
structure Classed (r : Reconciler) : Prop where
  placeholders : ∀ h ∈ r.placeholders, h.cls = .placeholder
  links : ∀ p ∈ r.links, p.2.cls = .passageLink ∧ p.2.passage = some p.1.passage

/-- A placeholder has two listeners, and a link five. -/
theorem Classed.lengths {r : Reconciler} (h : r.Classed) {hub : Hub} (hwired : Wired hub r.handles) :
    (∀ g ∈ r.placeholders, g.listeners.length = 2) ∧ ∀ p ∈ r.links, p.2.listeners.length = 5 := by
  refine ⟨fun g hg => ?_, fun p hp => ?_⟩
  · rw [hwired.complete g (List.mem_append_left _ hg), h.placeholders g hg]
    rfl
  · rw [hwired.complete p.2 (List.mem_append_right _ (List.mem_map_of_mem hp)), (h.links p hp).1]
    rfl

theorem Classed.length_listeners {r : Reconciler} (h : r.Classed) {hub : Hub}
    (hwired : Wired hub r.handles) :
    hub.listeners.length = 2 * r.placeholders.length + 5 * r.links.length := by
  obtain ⟨hplaceholders, hlinks⟩ := h.lengths hwired
  have htwo : (r.placeholders.map fun g => g.listeners.length) = r.placeholders.map fun _ => 2 :=
    List.map_congr_left hplaceholders
  have hfive : (r.links.map ((fun g : Handle => g.listeners.length) ∘ (·.2))) = r.links.map fun _ => 5 :=
    List.map_congr_left hlinks
  have hlength := hwired.ids.length_eq
  rw [List.length_map, List.length_flatMap, handles, List.map_append, List.sum_append, List.map_map, htwo,
    hfive] at hlength
  simp only [List.map_const', List.sum_replicate_nat] at hlength
  omega

/-- The listeners with their kinds, by class. -/
theorem Classed.heard {r : Reconciler} (h : r.Classed) {hub : Hub} (hwired : Wired hub r.handles) :
    (hub.listeners.map fun l => (l.id, l.kind)).Perm
      ((r.placeholders.flatMap fun g => g.listeners.zip MarkClass.placeholder.kinds) ++
        r.links.flatMap fun p => p.2.listeners.zip MarkClass.passageLink.kinds) := by
  refine hwired.heard.trans (List.Perm.of_eq ?_)
  rw [handles, List.flatMap_append, List.flatMap_map]
  congr 1
  · refine List.flatMap_congr fun g hg => ?_
    rw [Handle.heard, h.placeholders g hg]
  · refine List.flatMap_congr fun p hp => ?_
    rw [Handle.heard, (h.links p hp).1]

/-- The marks and the listeners are those of the reconciler, apart from foreign marks. -/
structure Tends (r : Reconciler) (c : Canvas) (foreign : List MarkId) : Prop where
  tended : Tended c foreign r.handles
  classed : r.Classed

/-! ### The class of what is drawn -/

private theorem cls_drawPlaceholders (c : Canvas) (ps : List Placeholder) :
    ∀ g ∈ (drawPlaceholders c ps).1, g.cls = .placeholder := by
  induction ps generalizing c with
  | nil => simp [drawPlaceholders]
  | cons p ps ih =>
    intro g hg
    rcases List.mem_cons.1 hg with rfl | hg
    · rfl
    · exact ih _ g hg

private theorem classed_drawMissing {links : List (LinkKey × Handle)}
    (h : ∀ p ∈ links, p.2.cls = .passageLink ∧ p.2.passage = some p.1.passage) (c : Canvas)
    (designated : Modifier) (wanted : List Link) :
    ∀ p ∈ (drawMissing designated wanted links c).2.1, p.2.cls = .passageLink ∧
      p.2.passage = some p.1.passage := by
  induction wanted generalizing links c with
  | nil => exact h
  | cons link rest ih =>
    unfold drawMissing
    split
    · exact ih h c
    · refine ih ?_ _
      intro p hp
      rcases mem_of_mem_insertLink hp with rfl | hp
      · exact ⟨rfl, rfl⟩
      · exact h p hp

section Passes

variable {r : Reconciler} {c : Canvas} {foreign : List MarkId} {P : Canvas → List Handle → Prop}

theorem accounts_renderPlaceholders (hP : Accounting r.designated P) (h : P c r.handles) (hr : r.Classed)
    (force : Bool) :
    P (r.renderPlaceholders c force).2.2 (r.renderPlaceholders c force).2.1.handles ∧
      (r.renderPlaceholders c force).2.1.Classed := by
  unfold renderPlaceholders
  dsimp only
  split
  · exact ⟨h, hr⟩
  · have hcleared : P (Handle.clearAll r.placeholders c) (r.links.map (·.2)) := hP.clearAll h
    exact ⟨hP.drawPlaceholders hcleared _, cls_drawPlaceholders _ _, hr.links⟩

theorem accounts_renderLinks (hP : Accounting r.designated P) (h : P c r.handles) (hr : r.Classed)
    (story : Story) :
    P (r.renderLinks c story).2.2 (r.renderLinks c story).2.1.handles ∧
    (r.renderLinks c story).2.1.Classed := by
  have hpassage : ∀ p ∈ r.links, p.2.passage.isSome := fun p hp => by simp [(hr.links p hp).2]
  obtain ⟨gone, drawn, hswept⟩ := exists_swept hpassage c story
  have hcleared : P (Handle.clearAll gone c) ((r.keptLinks c story).map (·.2) ++ r.placeholders) := by
    refine hP.clearAll (hP.perm h ?_)
    refine (List.perm_append_comm.trans (hswept.old.symm.append_right _)).trans ?_
    rw [← List.append_assoc]
    exact List.perm_append_comm.append_right _
  have hclassed : ∀ p ∈ r.keptLinks c story, p.2.cls = .passageLink ∧ p.2.passage = some p.1.passage := by
    intro p hp
    have hmem := hswept.old.mem_iff.1 (List.mem_append_left _ (List.mem_map_of_mem hp))
    obtain ⟨q, hq, heq⟩ := List.mem_map.1 hmem
    exact ⟨heq ▸ (hr.links q hq).1, hswept.passage p hp⟩
  have hdrawn := hP.drawMissing hcleared (scanLinks c.buffer.lines story)
  rw [hswept.pass]
  exact ⟨hP.perm hdrawn List.perm_append_comm, hr.placeholders, classed_drawMissing hclassed _ _ _⟩

/-- Taking all marks away leaves no handle. -/
theorem accounts_teardown (hP : Accounting r.designated P) (h : P c r.handles) :
    P (r.teardown c).2.2 [] ∧ (r.teardown c).2.1.Classed ∧ (r.teardown c).2.1.handles = [] := by
  refine ⟨?_, ⟨by simp [teardown, empty], by simp [teardown, empty]⟩, rfl⟩
  have hlinks : P (Handle.clearAll r.placeholders c) (r.links.map (·.2) ++ []) := by
    rw [List.append_nil]
    exact hP.clearAll h
  exact hP.clearAll hlinks

theorem tends_empty (designated : Modifier) {b : Buffer} (hb : b.Numbered) :
    (empty designated).Tends ⟨b, .empty⟩ (b.marks.map (·.id)) :=
  ⟨⟨.empty, .of_numbered hb⟩, by simp [empty], by simp [empty]⟩

theorem tends_renderPlaceholders (h : r.Tends c foreign) (force : Bool) :
    (r.renderPlaceholders c force).2.1.Tends (r.renderPlaceholders c force).2.2 foreign := by
  obtain ⟨htended, hclassed⟩ :=
    accounts_renderPlaceholders (accounting_tended _ foreign) h.tended h.classed force
  exact ⟨htended, hclassed⟩

theorem tends_renderLinks (h : r.Tends c foreign) (story : Story) :
    (r.renderLinks c story).2.1.Tends (r.renderLinks c story).2.2 foreign := by
  obtain ⟨htended, hclassed⟩ :=
    accounts_renderLinks (accounting_tended _ foreign) h.tended h.classed story
  exact ⟨htended, hclassed⟩

theorem tends_reconcile (h : r.Tends c foreign) (story : Story) (force : Bool) :
    (r.reconcile c story force).2.1.Tends (r.reconcile c story force).2.2 foreign :=
  tends_renderLinks (tends_renderPlaceholders h force) story

/-- Taking all marks away leaves foreign ones and no listener. -/
theorem tends_teardown (h : r.Tends c foreign) :
    (r.teardown c).2.1.Tends (r.teardown c).2.2 foreign ∧ (r.teardown c).2.1.handles = [] := by
  obtain ⟨htended, hclassed, hnone⟩ := accounts_teardown (accounting_tended _ foreign) h.tended
  refine ⟨⟨?_, hclassed⟩, hnone⟩
  rw [hnone]
  exact htended

end Passes

theorem designated_renderPlaceholders (r : Reconciler) (c : Canvas) (force : Bool) :
    (r.renderPlaceholders c force).2.1.designated = r.designated := by
  unfold renderPlaceholders
  dsimp only
  split <;> rfl

end Reconciler

/-! ### What lasts -/

/-- What passes, the taking away of all marks, and events keep of a hub and the marks that are drawn
there. -/
structure Lasting (P : Hub → Reconciler → Prop) : Prop where
  placeholders : ∀ {r : Reconciler} {c : Canvas} (force : Bool), P c.hub r →
    P (r.renderPlaceholders c force).2.2.hub (r.renderPlaceholders c force).2.1
  links : ∀ {r : Reconciler} {c : Canvas} (story : Story), P c.hub r →
    P (r.renderLinks c story).2.2.hub (r.renderLinks c story).2.1
  teardown : ∀ {r : Reconciler} {c : Canvas}, P c.hub r → P (r.teardown c).2.2.hub (r.teardown c).2.1
  event : ∀ {hub : Hub} {r : Reconciler} (event : Event), P hub r → P (hub.dispatch event).2 r

/-- What drawing and clearing keep of a hub and its handles lasts if events keep it too. -/
theorem lasting_of_accounting {Q : Modifier → Hub → List Handle → Prop}
    (hQ : ∀ designated, Accounting designated fun c handles => Q designated c.hub handles)
    (hevent : ∀ {designated hub handles} (event : Event), Q designated hub handles →
      Q designated (hub.dispatch event).2 handles) :
    Lasting fun hub r => Q r.designated hub r.handles ∧ r.Classed where
  placeholders {r c} force h := by
    rw [Reconciler.designated_renderPlaceholders]
    exact Reconciler.accounts_renderPlaceholders (hQ r.designated) h.1 h.2 force
  links {r c} story h := Reconciler.accounts_renderLinks (hQ r.designated) h.1 h.2 story
  teardown {r c} h := by
    obtain ⟨hnone, hclassed, hhandles⟩ := Reconciler.accounts_teardown (hQ r.designated) h.1
    rw [hhandles]
    exact ⟨hnone, hclassed⟩
  event event h := ⟨hevent event h.1, h.2⟩

end Markup

end PassageEditor
