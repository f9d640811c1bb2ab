import PassageEditor.Proofs.Markup.Matches
import PassageEditor.Proofs.Markup.Passes

/-!
# The marks of links

A pass over the links keeps the mark of a link by its key, the target and the start, and lets the end be.
A mark of a link covers a text that ends with a closing bracket and has two of them at least (`Closed`):
an edit that leaves the mark there only puts text strictly inside.  So after a pass the marks correspond
to the links of the text by target and start; no mark ends before its link, and it ends with it just where
it covers no more than the two closing brackets of the link (`links_fit_of_run`).
-/

namespace PassageEditor.Markup

open Position (origin)

/-! ### Keys in order -/

theorem LinkKey.le_iff {a b : LinkKey} :
    a.le b = true ↔
      a.passage.value < b.passage.value ∨ a.passage.value = b.passage.value ∧ a.start ≤ b.start := by
  simp [LinkKey.le]

theorem LinkKey.le_refl (a : LinkKey) : a.le a = true := le_iff.2 (.inr ⟨rfl, Position.le_refl _⟩)

private theorem LinkKey.le_antisymm {a b : LinkKey} (h : a.le b = true) (h' : b.le a = true) : a = b := by
  obtain ⟨⟨a⟩, p⟩ := a
  obtain ⟨⟨b⟩, q⟩ := b
  rw [le_iff] at h h'
  simp only at h h'
  have hab : a = b := by omega
  subst hab
  have hpq : p ≤ q := by simpa using h
  have hqp : q ≤ p := by simpa using h'
  rw [Position.le_antisymm hpq hqp]

private theorem LinkKey.le_trans {a b c : LinkKey} (h : a.le b = true) (h' : b.le c = true) :
    a.le c = true := by
  rw [le_iff, Position.le_def] at *
  omega

/-- The keys are in order, and each is there once. -/
def Keyed (links : List (LinkKey × Handle)) : Prop := links.Pairwise fun p q => ¬ q.1.le p.1 = true

theorem Keyed.nodup_keys {links : List (LinkKey × Handle)} (h : Keyed links) :
    (links.map (·.1)).Nodup := by
  rw [List.Nodup, List.pairwise_map]
  refine List.Pairwise.imp ?_ h
  intro p q hpq heq
  rw [heq] at hpq
  exact hpq (LinkKey.le_refl _)

namespace Reconciler

section Insert

variable {key : LinkKey} {h : Handle} {links : List (LinkKey × Handle)}

private theorem key_ne_of_le {k : LinkKey} {rest : List (LinkKey × Handle)}
    (hfirst : ∀ p ∈ rest, ¬ p.1.le k = true) (hle : key.le k = true) : ∀ p ∈ rest, p.1 ≠ key := by
  rintro p hp rfl
  exact hfirst p hp hle

/-- The handle is under the key, and what was under other keys stays. -/
theorem mem_insertLink (hk : Keyed links) {p : LinkKey × Handle} :
    p ∈ (insertLink key h links).2 ↔ p = (key, h) ∨ p ∈ links ∧ p.1 ≠ key := by
  induction links with
  | nil => simp [insertLink]
  | cons q rest ih =>
    obtain ⟨k, g⟩ := q
    obtain ⟨hfirst, hrest⟩ := List.pairwise_cons.1 hk
    unfold insertLink
    split
    · -- the handle takes the place of the first one
      rename_i heq
      subst heq
      have hother := key_ne_of_le hfirst (LinkKey.le_refl k)
      simp only [List.mem_cons]
      constructor
      · exact Or.imp_right fun hp => ⟨.inr hp, hother p hp⟩
      · rintro (rfl | ⟨rfl | hp, hne⟩)
        · exact .inl rfl
        · exact absurd rfl hne
        · exact .inr hp
    · rename_i hne
      split
      · -- it goes in front of all
        rename_i hle
        have hother := key_ne_of_le hfirst hle
        simp only [List.mem_cons]
        constructor
        · rintro (rfl | rfl | hp)
          · exact .inl rfl
          · exact .inr ⟨.inl rfl, hne⟩
          · exact .inr ⟨.inr hp, hother p hp⟩
        · exact Or.imp_right And.left
      · simp only [List.mem_cons, ih hrest]
        constructor
        · rintro (rfl | rfl | ⟨hp, hp'⟩)
          · exact .inr ⟨.inl rfl, hne⟩
          · exact .inl rfl
          · exact .inr ⟨.inr hp, hp'⟩
        · rintro (rfl | ⟨rfl | hp, hp'⟩)
          · exact .inr (.inl rfl)
          · exact .inl rfl
          · exact .inr (.inr ⟨hp, hp'⟩)

private theorem mem_keys_insertLink (hk : Keyed links) {other : LinkKey} :
    other ∈ (insertLink key h links).2.map (·.1) ↔ other = key ∨ other ∈ links.map (·.1) := by
  simp only [List.mem_map, mem_insertLink hk]
  constructor
  · rintro ⟨p, rfl | ⟨hp, -⟩, rfl⟩
    · exact .inl rfl
    · exact .inr ⟨p, hp, rfl⟩
  · rintro (rfl | ⟨p, hp, rfl⟩)
    · exact ⟨_, .inl rfl, rfl⟩
    · by_cases heq : p.1 = key
      · exact ⟨_, .inl rfl, heq.symm⟩
      · exact ⟨p, .inr ⟨hp, heq⟩, rfl⟩

/-- A handle with a mark of its own: no two of the links share a mark afterwards. -/
private theorem single_insertLink (hk : Keyed links)
    (hsingle : ∀ p ∈ links, ∀ q ∈ links, p.2.mark = q.2.mark → p = q)
    (hother : ∀ p ∈ links, p.2.mark ≠ h.mark) :
    ∀ p ∈ (insertLink key h links).2, ∀ q ∈ (insertLink key h links).2, p.2.mark = q.2.mark → p = q := by
  intro p hp q hq heq
  rcases (mem_insertLink hk).1 hp with rfl | ⟨hp, -⟩ <;>
    rcases (mem_insertLink hk).1 hq with rfl | ⟨hq, -⟩
  · rfl
  · exact absurd heq.symm (hother q hq)
  · exact absurd heq (hother p hp)
  · exact hsingle p hp q hq heq

theorem keyed_insertLink (hk : Keyed links) : Keyed (insertLink key h links).2 := by
  induction links with
  | nil => exact List.pairwise_singleton _ _
  | cons q rest ih =>
    obtain ⟨k, g⟩ := q
    obtain ⟨hfirst, hrest⟩ := List.pairwise_cons.1 hk
    unfold insertLink
    split
    · rename_i heq
      subst heq
      exact List.pairwise_cons.2 ⟨hfirst, hrest⟩
    · rename_i hne
      split
      · rename_i hle
        refine List.pairwise_cons.2 ⟨?_, hk⟩
        intro p hp hback
        rcases List.mem_cons.1 hp with rfl | hp
        · exact hne (LinkKey.le_antisymm hback hle)
        · exact hfirst p hp (LinkKey.le_trans hback hle)
      · rename_i hnot
        refine List.pairwise_cons.2 ⟨?_, ih hrest⟩
        intro p hp
        rcases (mem_insertLink hrest).1 hp with rfl | ⟨hp, -⟩
        · exact hnot
        · exact hfirst p hp

end Insert

end Reconciler

/-! ### Closed texts -/

/-- A text that ends with a closing bracket and has another one before that. -/
def Closed (cs : List Char) : Prop := cs.getLast? = some ']' ∧ 2 ≤ cs.count ']'

theorem Closed.ne_nil {cs : List Char} (h : Closed cs) : cs ≠ [] := by
  rintro rfl
  simp [Closed] at h

/-- Text put in before the end does not open it. -/
private theorem Closed.insert {x y : List Char} (h : Closed (x ++ y)) (hy : y ≠ []) (cs : List Char) :
    Closed (x ++ cs ++ y) := by
  obtain ⟨hlast, hcount⟩ := h
  refine ⟨?_, ?_⟩
  · rw [List.getLast?_append_of_ne_nil _ hy] at hlast ⊢
    exact hlast
  · simp only [List.count_append] at hcount ⊢
    omega

private theorem closed_brackets (content : List Char) :
    Closed ('[' :: '[' :: (content ++ [']', ']'])) := by
  refine ⟨?_, ?_⟩
  · have hsplit : '[' :: '[' :: (content ++ [']', ']']) = '[' :: '[' :: content ++ [']'] ++ [']'] := by
      simp
    rw [hsplit, List.getLast?_append_of_ne_nil _ (by simp)]
    rfl
  · simp

private theorem count_brackets {content : List Char} (h : ']' ∉ content) :
    ('[' :: '[' :: (content ++ [']', ']'])).count ']' = 2 := by
  simp [List.count_eq_zero.2 h]

/-- Of a closed text and a link that stand at the same place, the link ends first; they end together where
the text has no more than two closing brackets. -/
private theorem Closed.brackets_first {cs content after after' : List Char}
    (h : Closed cs) (hu : ']' ∉ content)
    (heq : cs ++ after = '[' :: '[' :: (content ++ [']', ']']) ++ after') :
    '[' :: '[' :: (content ++ [']', ']']) <+: cs ∧
      (cs = '[' :: '[' :: (content ++ [']', ']']) ↔ cs.count ']' = 2) := by
  set brackets := '[' :: '[' :: (content ++ [']', ']']) with hbrackets
  have hcs : cs <+: brackets ++ after' := ⟨after, heq⟩
  have hb : brackets <+: brackets ++ after' := List.prefix_append _ _
  have hfront : brackets <+: cs := by
    rcases Nat.lt_or_ge cs.length brackets.length with hlt | hge
    · -- a shorter text would have one closing bracket at most
      have hshort : cs <+: '[' :: '[' :: (content ++ [']']) := by
        refine List.prefix_of_prefix_length_le hcs ⟨']' :: after', by simp [hbrackets]⟩ ?_
        simp only [hbrackets, List.length_cons, List.length_append, List.length_nil] at hlt ⊢
        omega
      have hcount := hshort.sublist.count_le ']'
      have hone : ('[' :: '[' :: (content ++ [']'])).count ']' = 1 := by
        simp [List.count_eq_zero.2 hu]
      have := h.2
      omega
    · exact List.prefix_of_prefix_length_le hb hcs hge
  refine ⟨hfront, fun hsame => hsame ▸ count_brackets hu, fun hcount => ?_⟩
  obtain ⟨z, rfl⟩ := hfront
  rw [List.count_append, count_brackets hu] at hcount
  rcases List.eq_nil_or_concat z with rfl | ⟨z', c, rfl⟩
  · simp
  · -- the last character would be a third closing bracket
    have hlast := h.1
    rw [List.concat_eq_append, ← List.append_assoc, List.getLast?_append_of_ne_nil _ (by simp)] at hlast
    obtain rfl : c = ']' := by simpa using hlast
    simp [List.count_append] at hcount

/-! ### The marks between two passes -/

/-- The handles of links: each has a mark of its own, and where that is still there it covers a closed
text. -/
structure Marked (b : Buffer) (handles : List Handle) : Prop where
  numbered : b.Numbered
  nodup : (handles.map (·.mark)).Nodup
  below : ∀ h ∈ handles, h.mark.value < b.nextMark
  marks : ∀ h ∈ handles, ∀ m ∈ b.marks, m.id = h.mark →
    m.info.cls = .passageLink ∧ m.info.passage = h.passage ∧ ∃ cs, b.Covers m.range cs ∧ Closed cs

namespace Marked

variable {b : Buffer} {handles : List Handle}

/-- An edit takes marks away or puts text inside them, and so they stay closed. -/
theorem edit (h : Marked b handles) (e : Buffer.Edit) : Marked (b.edit e) handles := by
  rcases b.edit_cases e with ⟨-, hsame⟩ | ⟨change, before, old, cs, after, -, hsplices, hmarks, hnext⟩
  · rw [hsame]
    exact h
  · refine ⟨h.numbered.edit e, h.nodup, fun g hg => hnext ▸ h.below g hg, ?_⟩
    intro g hg m hm hid
    rw [hmarks] at hm
    obtain ⟨n, hn, hmn⟩ := List.mem_filterMap.1 hm
    obtain ⟨hundamaged, rfl⟩ := Change.mark?_eq_some hmn
    obtain ⟨hcls, hpassage, piece, hcovers, hclosed⟩ := h.marks g hg n hn hid
    refine ⟨hcls, hpassage, ?_⟩
    rcases hsplices.covers_moved hcovers hclosed.ne_nil hundamaged with
      ⟨-, hmoved⟩ | ⟨-, x, y, rfl, -, hy, hmoved⟩
    · exact ⟨piece, hmoved, hclosed⟩
    · exact ⟨x ++ cs ++ y, hmoved, hclosed.insert hy cs⟩

/-- A pass over marks of another kind leaves them alone. -/
private theorem later {c c' : Canvas} (h : Marked c.buffer handles) (hlater : Later c c') :
    Marked c'.buffer handles := by
  refine ⟨hlater.numbered h.numbered, h.nodup, ?_, ?_⟩
  · intro g hg
    exact Nat.lt_of_lt_of_le (h.below g hg) hlater.nextMark
  · intro g hg m hm hid
    have hbelow := h.below g hg
    rcases hlater.marks m hm with hm | hfresh
    · obtain ⟨hcls, hpassage, cs, hcovers, hclosed⟩ := h.marks g hg m hm hid
      exact ⟨hcls, hpassage, cs, hlater.covers hcovers, hclosed⟩
    · rw [hid] at hfresh
      omega

end Marked

namespace Reconciler

/-! ### Taking old links over -/

/-- The old handles that are done, under the keys for where their marks stand. -/
structure Rekeyed.Sound (done : List Handle) (s : Rekeyed) : Prop where
  keyed : Keyed s.links
  done : ∀ p ∈ s.links, p.2 ∈ done
  single : ∀ p ∈ s.links, ∀ q ∈ s.links, p.2.mark = q.2.mark → p = q
  marks : ∀ p ∈ s.links, ∃ m ∈ s.canvas.buffer.marks, m.id = p.2.mark ∧ p.2.passage = some p.1.passage ∧
    m.range.start = p.1.start

private theorem sound_rekey {done : List Handle} {s : Rekeyed} (hs : s.Sound done) {h : Handle}
    (hnew : h.mark ∉ done.map (·.mark)) : (rekey s h).Sound (done ++ [h]) := by
  have hother : ∀ p ∈ s.links, p.2.mark ≠ h.mark := by
    intro p hp heq
    exact hnew (heq ▸ List.mem_map_of_mem (hs.done p hp))
  unfold rekey
  split
  · rename_i m passage hm hpassage
    obtain ⟨hm, hid⟩ := Buffer.mem_of_findMark? hm
    -- the links when the handle has been put under its key
    have hkeyed : Keyed (insertLink ⟨passage, m.range.start⟩ h s.links).2 := keyed_insertLink hs.keyed
    have hsingle : ∀ p ∈ (insertLink ⟨passage, m.range.start⟩ h s.links).2,
        ∀ q ∈ (insertLink ⟨passage, m.range.start⟩ h s.links).2, p.2.mark = q.2.mark → p = q :=
      single_insertLink hs.keyed hs.single hother
    have hmem : ∀ p ∈ (insertLink ⟨passage, m.range.start⟩ h s.links).2,
        p = (⟨passage, m.range.start⟩, h) ∨ p ∈ s.links ∧ p.1 ≠ ⟨passage, m.range.start⟩ :=
      fun p hp => (mem_insertLink hs.keyed).1 hp
    have hback : ∀ g, (insertLink ⟨passage, m.range.start⟩ h s.links).1 = some g →
        ((⟨passage, m.range.start⟩ : LinkKey), g) ∈ s.links := fun g hg => mem_of_insertLink_eq_some hg
    generalize insertLink ⟨passage, m.range.start⟩ h s.links = inserted at hkeyed hsingle hmem hback
    obtain ⟨back, links⟩ := inserted
    have hdone : ∀ p ∈ links, p.2 ∈ done ++ [h] := by
      intro p hp
      rcases hmem p hp with rfl | ⟨hp, -⟩
      · simp
      · exact List.mem_append_left _ (hs.done p hp)
    cases back with
    | none =>
      refine ⟨hkeyed, hdone, hsingle, ?_⟩
      intro p hp
      rcases hmem p hp with rfl | ⟨hp, -⟩
      · exact ⟨m, hm, hid, hpassage, rfl⟩
      · exact hs.marks p hp
    | some g =>
      -- the mark of the handle that comes back goes; it is the mark of no other
      have hg := hback g rfl
      refine ⟨hkeyed, hdone, hsingle, ?_⟩
      intro p hp
      rcases hmem p hp with rfl | ⟨hp, hne⟩
      · refine ⟨m, List.mem_filter.2 ⟨hm, ?_⟩, hid, hpassage, rfl⟩
        simpa [hid] using (hother _ hg).symm
      · obtain ⟨n, hn, hnid, hrest⟩ := hs.marks p hp
        refine ⟨n, List.mem_filter.2 ⟨hn, ?_⟩, hnid, hrest⟩
        have hmark : p.2.mark ≠ g.mark := fun heq => hne (by rw [hs.single p hp _ hg heq])
        simpa [hnid] using hmark
  · exact ⟨hs.keyed, fun p hp => List.mem_append_left _ (hs.done p hp), hs.single, hs.marks⟩

private theorem sound_foldl_rekey {todo done : List Handle} {s : Rekeyed} (hs : s.Sound done)
    (hnodup : ((done ++ todo).map (·.mark)).Nodup) : (todo.foldl rekey s).Sound (done ++ todo) := by
  induction todo generalizing done s with
  | nil => simpa using hs
  | cons h todo ih =>
    have hnew : h.mark ∉ done.map (·.mark) := by
      intro hmem
      rw [List.map_append, List.map_cons] at hnodup
      exact (List.nodup_append.1 hnodup).2.2 _ hmem _ List.mem_cons_self rfl
    rw [List.append_cons] at hnodup ⊢
    exact ih (sound_rekey hs hnew) hnodup

/-! ### Drawing what is missing -/

/-- A live mark for a link with this key. -/
structure Fits (b : Buffer) (key : LinkKey) (h : Handle) (m : Mark) : Prop where
  mem : m ∈ b.marks
  id : m.id = h.mark
  cls : m.info.cls = .passageLink
  handle : h.passage = some key.passage
  passage : m.info.passage = some key.passage
  start : m.range.start = key.start
  closed : ∃ cs, b.Covers m.range cs ∧ Closed cs

/-- Every link has a mark of its own, which fits its key. -/
structure Fitted (b : Buffer) (links : List (LinkKey × Handle)) : Prop where
  numbered : b.Numbered
  keyed : Keyed links
  single : ∀ p ∈ links, ∀ q ∈ links, p.2.mark = q.2.mark → p = q
  fits : ∀ p ∈ links, ∃ m, Fits b p.1 p.2 m

/-- Of the old links that were taken over those that are wanted stay, with marks that fit. -/
private theorem fitted_wanted {c : Canvas} {old : List Handle} {s : Rekeyed}
    (hmarked : Marked c.buffer old) (hs : s.Sound old) (wanted : LinkKey × Handle → Bool)
    (hlater : Later c (Handle.clearAll ((s.links.filter fun p => !wanted p).map (·.2)) s.canvas)) :
    Fitted (Handle.clearAll ((s.links.filter fun p => !wanted p).map (·.2)) s.canvas).buffer
      (s.links.filter wanted) := by
  refine ⟨hlater.numbered hmarked.numbered, hs.keyed.filter _, ?_, ?_⟩
  · intro p hp q hq heq
    exact hs.single p (List.mem_filter.1 hp).1 q (List.mem_filter.1 hq).1 heq
  · intro p hp
    obtain ⟨hp, hwanted⟩ := List.mem_filter.1 hp
    obtain ⟨m, hm, hid, hhandle, hstart⟩ := hs.marks p hp
    have hkept :
        m ∈ (Handle.clearAll ((s.links.filter fun p => !wanted p).map (·.2)) s.canvas).buffer.marks := by
      refine mem_marks_clearAll.2 ⟨hm, ?_⟩
      intro g hg heq
      obtain ⟨q, hq, rfl⟩ := List.mem_map.1 hg
      obtain ⟨hq, hunwanted⟩ := List.mem_filter.1 hq
      obtain rfl := hs.single p hp q hq (hid.symm.trans heq)
      simp [hwanted] at hunwanted
    -- moves do not reuse numbers, so this is the mark from before
    have hmem : p.2 ∈ old := hs.done p hp
    have hbefore : m ∈ c.buffer.marks := by
      refine (hlater.marks m hkept).resolve_right ?_
      rw [hid]
      exact Nat.not_le.2 (hmarked.below p.2 hmem)
    obtain ⟨hcls, hpassage, cs, hcovers, hclosed⟩ := hmarked.marks p.2 hmem m hbefore hid
    exact ⟨m, hkept, hid, hcls, hhandle, hpassage.trans hhandle, hstart, cs,
      hlater.covers hcovers, hclosed⟩

/-- Drawing a link that has no mark. -/
private theorem fitted_drawLink {c : Canvas} {links : List (LinkKey × Handle)} (h : Fitted c.buffer links)
    {story : Story} {link : Link} (hlink : link ∈ scanLinks c.buffer.lines story)
    (designated : Modifier) :
    Fitted (drawLink c designated link).2.buffer
      (insertLink link.key (drawLink c designated link).1 links).2 := by
  have hlater := Later.of_move (move_drawLink [] c designated link)
  have hmark : (drawLink c designated link).1.mark = ⟨c.buffer.nextMark⟩ := rfl
  have hfresh : ∀ p ∈ links, p.2.mark ≠ (drawLink c designated link).1.mark := by
    intro p hp heq
    obtain ⟨m, hm⟩ := h.fits p hp
    have hbelow := h.numbered.below m hm.mem
    rw [hm.id, heq, hmark] at hbelow
    exact Nat.lt_irrefl _ hbelow
  refine ⟨hlater.numbered h.numbered, keyed_insertLink h.keyed,
    single_insertLink h.keyed h.single hfresh, ?_⟩
  · intro p hp
    rcases (mem_insertLink h.keyed).1 hp with rfl | ⟨hp, -⟩
    · obtain ⟨content, -, hcovers⟩ := covers_of_mem_scanLinks hlink
      refine ⟨_, List.mem_append_right _ List.mem_cons_self, rfl, rfl, rfl, rfl,
        range_of_mem_scanLinks hlink, _,
        hlater.covers hcovers, closed_brackets content⟩
    · obtain ⟨m, hm⟩ := h.fits p hp
      obtain ⟨cs, hcovers, hclosed⟩ := hm.closed
      exact ⟨m, List.mem_append_left _ hm.mem, hm.id, hm.cls, hm.handle, hm.passage, hm.start, cs,
        hlater.covers hcovers, hclosed⟩

/-- When all that is missing has been drawn, the keys are those from before and those of the links. -/
private theorem fitted_drawMissing {c : Canvas} {links : List (LinkKey × Handle)}
    (h : Fitted c.buffer links) {story : Story} {wanted : List Link}
    (hwanted : ∀ link ∈ wanted, link ∈ scanLinks c.buffer.lines story) (designated : Modifier) :
    let out := drawMissing designated wanted links c
    Fitted out.2.2.buffer out.2.1 ∧
      ∀ key, key ∈ out.2.1.map (·.1) ↔ key ∈ links.map (·.1) ∨ key ∈ wanted.map (·.key) := by
  induction wanted generalizing links c with
  | nil => exact ⟨h, by simp [drawMissing]⟩
  | cons link rest ih =>
    have hrest : ∀ l ∈ rest, l ∈ scanLinks c.buffer.lines story :=
      fun l hl => hwanted l (List.mem_cons_of_mem _ hl)
    unfold drawMissing
    split
    · rename_i hthere
      obtain ⟨hfitted, hkeys⟩ := ih h hrest
      refine ⟨hfitted, ?_⟩
      intro key
      have hkey : link.key ∈ links.map (·.1) := by
        obtain ⟨p, hp, heq⟩ := List.any_eq_true.1 hthere
        exact List.mem_map.2 ⟨p, hp, by simpa using heq⟩
      rw [hkeys, List.map_cons, List.mem_cons]
      constructor
      · rintro (hk | hk)
        · exact .inl hk
        · exact .inr (.inr hk)
      · rintro (hk | rfl | hk)
        · exact .inl hk
        · exact .inl hkey
        · exact .inr hk
    · have hdrawn := fitted_drawLink h (hwanted link List.mem_cons_self) designated
      obtain ⟨hfitted, hkeys⟩ := ih hdrawn hrest
      refine ⟨hfitted, ?_⟩
      intro key
      show key ∈ (drawMissing designated rest (insertLink link.key (drawLink c designated link).1 links).2
        (drawLink c designated link).2).2.1.map (·.1) ↔ _
      rw [hkeys, mem_keys_insertLink h.keyed, List.map_cons, List.mem_cons]
      tauto

/-! ### A whole pass -/

/-- After a pass every link of the text has its mark, and there is no other. -/
theorem fitted_renderLinks {r : Reconciler} {c : Canvas} (h : Marked c.buffer (r.links.map (·.2)))
    (story : Story) :
    let out := (r.renderLinks c story).2
    Fitted out.2.buffer out.1.links ∧
      ∀ key, key ∈ out.1.links.map (·.1) ↔ key ∈ (scanLinks c.buffer.lines story).map (·.key) := by
  have hstart : (⟨[], 0, c⟩ : Rekeyed).Sound [] := ⟨List.Pairwise.nil, by simp, by simp, by simp⟩
  have hsound : ((r.links.map (·.2)).foldl rekey ⟨[], 0, c⟩).Sound ([] ++ r.links.map (·.2)) :=
    sound_foldl_rekey hstart h.nodup
  rw [List.nil_append] at hsound
  have htaken := taken_links r c
  unfold renderLinks
  dsimp only
  generalize (r.links.map (·.2)).foldl rekey ⟨[], 0, c⟩ = moved at hsound htaken
  have hlater :=
    Later.of_moves (htaken.moves_clear fun p => !(scanLinks c.buffer.lines story).any (·.key = p.1))
  have hfitted :=
    fitted_wanted h hsound (fun p => (scanLinks c.buffer.lines story).any (·.key = p.1)) hlater
  generalize Handle.clearAll _ moved.canvas = cleared at hfitted hlater ⊢
  have hwanted : ∀ link ∈ scanLinks c.buffer.lines story,
      link ∈ scanLinks cleared.buffer.lines story := by
    intro link hlink
    rw [hlater.lines]
    exact hlink
  obtain ⟨hdrawn, hkeys⟩ := fitted_drawMissing hfitted hwanted r.designated
  refine ⟨hdrawn, ?_⟩
  intro key
  refine (hkeys key).trans ⟨?_, .inr⟩
  rintro (hkept | hscanned)
  · obtain ⟨p, hp, rfl⟩ := List.mem_map.1 hkept
    obtain ⟨link, hlink, heq⟩ := List.any_eq_true.1 (List.mem_filter.1 hp).2
    exact List.mem_map.2 ⟨link, hlink, by simpa using heq⟩
  · exact hscanned

/-- Marks that fit are marked for what comes next. -/
private theorem Fitted.marked {b : Buffer} {links : List (LinkKey × Handle)} (h : Fitted b links) :
    Marked b (links.map (·.2)) := by
  have hnodup : links.Nodup := h.keyed.nodup_keys.of_map _
  refine ⟨h.numbered, ?_, ?_, ?_⟩
  · rw [List.map_map]
    exact hnodup.map_on fun p hp q hq heq => h.single p hp q hq heq
  · intro g hg
    obtain ⟨p, hp, rfl⟩ := List.mem_map.1 hg
    obtain ⟨m, hm⟩ := h.fits p hp
    rw [← hm.id]
    exact h.numbered.below m hm.mem
  · intro g hg m hmem hid
    obtain ⟨p, hp, rfl⟩ := List.mem_map.1 hg
    obtain ⟨n, hn⟩ := h.fits p hp
    obtain rfl := h.numbered.eq_of_id_eq hmem hn.mem (hid.trans hn.id.symm)
    exact ⟨hn.cls, hn.passage.trans hn.handle.symm, hn.closed⟩

end Reconciler

/-! ### A whole run -/

namespace Scene

open Reconciler

theorem marked_step {s : Scene} (h : Marked s.canvas.buffer (s.marks.links.map (·.2))) (t : Step) :
    Marked (s.step t).canvas.buffer ((s.step t).marks.links.map (·.2)) := by
  cases t with
  | edit e => exact h.edit e
  | placeholders force =>
    show Marked (s.marks.renderPlaceholders s.canvas force).2.2.buffer
      ((s.marks.renderPlaceholders s.canvas force).2.1.links.map (·.2))
    rw [links_renderPlaceholders]
    exact h.later (Later.of_moves (moves_renderPlaceholders s.marks s.canvas force))
  | links story => exact (fitted_renderLinks h story).1.marked

theorem marked_run (designated : Modifier) (text : String) (steps : List Step) :
    let s := steps.foldl step (start designated text)
    Marked s.canvas.buffer (s.marks.links.map (·.2)) := by
  induction steps using List.reverseRecOn with
  | nil =>
    exact ⟨Buffer.numbered_ofText text, List.nodup_nil, by simp [start, empty], by simp [start, empty]⟩
  | append_singleton steps t ih =>
    rw [List.foldl_append]
    exact marked_step ih t

/-- The marks of the links that the reconciler holds. -/
def linkMarks (s : Scene) : List Mark :=
  s.marks.links.filterMap fun p => s.canvas.buffer.findMark? p.2.mark

/-- The link and its mark: they start together, the mark does not end before the link, and they are one
range where the mark covers no more than two closing brackets. -/
private theorem range_of_fits {b : Buffer} {story : Story} {link : Link}
    (hlink : link ∈ scanLinks b.lines story) {h : Handle} {m : Mark} (hm : Fits b link.key h m) :
    link.range.stop ≤ m.range.stop ∧
      ∃ cs, b.Covers m.range cs ∧ (m.range = link.range ↔ cs.count ']' = 2) := by
  obtain ⟨content, hu, before, after, hchars, hstart, hstop⟩ := covers_of_mem_scanLinks hlink
  obtain ⟨cs, ⟨before', after', hchars', hstart', hstop'⟩, hclosed⟩ := hm.closed
  have hsame : m.range.start = link.range.start := hm.start.trans (range_of_mem_scanLinks hlink).symm
  have hclosedEnd : before' ++ cs <+: b.chars := ⟨after', (List.append_assoc _ _ _).trans hchars'.symm⟩
  have hlinkEnd : before ++ '[' :: '[' :: (content ++ [']', ']']) <+: b.chars :=
    ⟨after, (List.append_assoc _ _ _).trans hchars.symm⟩
  obtain rfl : before' = before :=
    Position.eq_of_after_eq ((List.prefix_append _ _).trans hclosedEnd)
      ((List.prefix_append _ _).trans hlinkEnd)
      (hstart'.symm.trans (hsame.trans hstart))
  have heq : cs ++ after' = '[' :: '[' :: (content ++ [']', ']']) ++ after :=
    List.append_cancel_left (hchars'.symm.trans hchars)
  obtain ⟨hfront, hcount⟩ := hclosed.brackets_first hu heq
  refine ⟨?_, cs, ⟨before', after', hchars', hstart', hstop'⟩, ?_⟩
  · obtain ⟨z, hz⟩ := hfront
    rw [hstop, hstop', ← hz, ← List.append_assoc, Position.after_append origin (before' ++ _) z]
    exact Position.le_after _ z
  · rw [← hcount]
    constructor
    · intro hrange
      have hends : before' ++ cs = before' ++ '[' :: '[' :: (content ++ [']', ']']) :=
        Position.eq_of_after_eq hclosedEnd hlinkEnd
          (hstop'.symm.trans ((congrArg Range.stop hrange).trans hstop))
      exact List.append_cancel_left hends
    · intro hcs
      have hends : m.range.stop = link.range.stop := by rw [hstop, hstop', hcs]
      exact congrArg₂ Range.mk hsame hends

/-- Link by link the mark has the target and the start of the key. -/
private theorem map_linkMarks {s : Scene} (h : Fitted s.canvas.buffer s.marks.links) :
    (s.linkMarks.map fun m => (m.info.passage, m.range.start)) =
      s.marks.links.map fun p => (some p.1.passage, p.1.start) := by
  unfold linkMarks
  rw [List.map_filterMap, ← List.filterMap_eq_map]
  refine List.filterMap_congr ?_
  intro p hp
  obtain ⟨m, hm⟩ := h.fits p hp
  rw [h.numbered.findMark?_eq_some_iff.2 ⟨hm.mem, hm.id⟩]
  simp [hm.passage, hm.start]

private theorem exists_fits_of_mem_linkMarks {s : Scene} (h : Fitted s.canvas.buffer s.marks.links)
    {m : Mark} (hm : m ∈ s.linkMarks) : ∃ p ∈ s.marks.links, Fits s.canvas.buffer p.1 p.2 m := by
  obtain ⟨p, hp, hfound⟩ := List.mem_filterMap.1 hm
  obtain ⟨n, hn⟩ := h.fits p hp
  obtain rfl : n = m :=
    Option.some.inj ((h.numbered.findMark?_eq_some_iff.2 ⟨hn.mem, hn.id⟩).symm.trans hfound)
  exact ⟨p, hp, hn⟩

/-- After any edits and passes: right after a pass over the links every handle of a link has a live mark,
the marks are in one-to-one correspondence with the links of the text by target and start, and no mark
ends before its link.  A mark has the full range of its link just where it covers no closing bracket but
the two of the link, that is, unless another was typed inside it. -/
theorem links_fit_of_run (designated : Modifier) (text : String) (steps : List Step) (story : Story) :
    let s := (steps.foldl step (start designated text)).step (.links story)
    let links := scanLinks s.canvas.buffer.lines story
    s.linkMarks.length = s.marks.links.length ∧
      (s.linkMarks.map fun m => (m.info.passage, m.range.start)).Perm
        (links.map fun link => (some link.key.passage, link.key.start)) ∧
      (links.map (·.key.start)).Nodup ∧
      ∀ m ∈ s.linkMarks, ∀ link ∈ links, m.range.start = link.key.start →
        link.range.stop ≤ m.range.stop ∧
          ∃ cs, s.canvas.buffer.Covers m.range cs ∧ (m.range = link.range ↔ cs.count ']' = 2) := by
  have hmarked := marked_run designated text steps
  generalize steps.foldl step (start designated text) = before at hmarked
  obtain ⟨hfitted, hkeys⟩ := fitted_renderLinks hmarked story
  have hlines : (before.step (.links story)).canvas.buffer.lines = before.canvas.buffer.lines :=
    lines_renderLinks before.marks before.canvas story
  rw [← hlines] at hkeys
  change Fitted (before.step (.links story)).canvas.buffer
    (before.step (.links story)).marks.links at hfitted
  change ∀ key, key ∈ (before.step (.links story)).marks.links.map (·.1) ↔ _ at hkeys
  generalize before.step (.links story) = s at hfitted hkeys
  have hmap := map_linkMarks hfitted
  have hstarts := nodup_starts_scanLinks s.canvas.buffer.lines story
  refine ⟨?_, ?_, hstarts, ?_⟩
  · have hlength := congrArg List.length hmap
    rwa [List.length_map, List.length_map] at hlength
  · have hnodup : ((scanLinks s.canvas.buffer.lines story).map (·.key)).Nodup := by
      refine List.Nodup.of_map LinkKey.start ?_
      rwa [List.map_map]
    have hkeyed : (s.marks.links.map (·.1)).Perm ((scanLinks s.canvas.buffer.lines story).map (·.key)) :=
      (List.perm_ext_iff_of_nodup hfitted.keyed.nodup_keys hnodup).2 hkeys
    have hpairs := hkeyed.map fun key : LinkKey => (some key.passage, key.start)
    rw [List.map_map, List.map_map] at hpairs
    rw [hmap]
    exact hpairs
  · intro m hm link hlink hstart
    obtain ⟨p, hp, hfits⟩ := exists_fits_of_mem_linkMarks hfitted hm
    -- the link of this key starts where the mark does, so it is this link
    obtain ⟨other, hother, hkey⟩ := List.mem_map.1 ((hkeys p.1).1 (List.mem_map_of_mem hp))
    have hsame : other.key.start = link.key.start := by rw [hkey, ← hfits.start, hstart]
    obtain rfl := List.inj_on_of_nodup_map hstarts hother hlink hsame
    rw [← hkey] at hfits
    exact range_of_fits hlink hfits

/-! ### A mark that is longer than its link -/

/-- A story with one passage, "A". -/
def soleStory : Story := ⟨⟨1⟩, "Story", ⟨"Harlowe", "3.3.8"⟩, [⟨0, .fresh ⟨1⟩ "A" "" []⟩]⟩

/-- A link is drawn, and then text with a closing bracket is typed between its two closing brackets. -/
def bracketTyped : List Step := [.links soleStory, .edit (.replace "]x" ⟨0, 4⟩ ⟨0, 4⟩)]

/-- The link ends at the bracket that was typed, and its mark goes on to the old one. -/
theorem mark_outgrows_link :
    let s := (bracketTyped.foldl step (start .ctrl "[[A]]")).step (.links soleStory)
    s.canvas.buffer.text = "[[A]]x]" ∧
      (s.linkMarks.map fun m => (m.info.passage, m.range)) = [(some ⟨1⟩, ⟨⟨0, 0⟩, ⟨0, 7⟩⟩)] ∧
      ((scanLinks s.canvas.buffer.lines soleStory).map fun link => (some link.key.passage, link.range)) =
        [(some ⟨1⟩, ⟨⟨0, 0⟩, ⟨0, 5⟩⟩)] ∧
      ¬ (s.linkMarks.map fun m => (m.info.passage, m.range)).Perm
        ((scanLinks s.canvas.buffer.lines soleStory).map fun link =>
          (some link.key.passage, link.range)) := by
  decide +kernel

/-- The two start together, and the mark does not end first. -/
theorem links_fit_of_run_bracket_typed :
    let s := (bracketTyped.foldl step (start .ctrl "[[A]]")).step (.links soleStory)
    ∃ m ∈ s.linkMarks, ∃ link ∈ scanLinks s.canvas.buffer.lines soleStory,
      m.range.start = link.key.start ∧
      link.range.stop ≤ m.range.stop ∧
        ∃ cs, s.canvas.buffer.Covers m.range cs ∧ (m.range = link.range ↔ cs.count ']' = 2) := by
  intro s
  obtain ⟨-, -, -, hends⟩ := links_fit_of_run .ctrl "[[A]]" bracketTyped soleStory
  have hmarks : s.linkMarks = [⟨⟨0⟩, ⟨.passageLink, some ⟨1⟩, some ⟨0⟩⟩, ⟨⟨0, 0⟩, ⟨0, 7⟩⟩⟩] := by
    decide +kernel
  have hlinks : scanLinks s.canvas.buffer.lines soleStory = [⟨⟨⟨1⟩, ⟨0, 0⟩⟩, ⟨⟨0, 0⟩, ⟨0, 5⟩⟩⟩] := by
    decide +kernel
  have hm : ⟨⟨0⟩, ⟨.passageLink, some ⟨1⟩, some ⟨0⟩⟩, ⟨⟨0, 0⟩, ⟨0, 7⟩⟩⟩ ∈ s.linkMarks := by
    rw [hmarks]
    exact List.mem_cons_self
  have hlink : ⟨⟨⟨1⟩, ⟨0, 0⟩⟩, ⟨⟨0, 0⟩, ⟨0, 5⟩⟩⟩ ∈ scanLinks s.canvas.buffer.lines soleStory := by
    rw [hlinks]
    exact List.mem_cons_self
  exact ⟨_, hm, _, hlink, rfl, hends _ hm _ hlink rfl⟩

end Scene

end PassageEditor.Markup
