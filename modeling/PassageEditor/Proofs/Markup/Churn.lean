import PassageEditor.Proofs.Markup.Links
import PassageEditor.Proofs.Markup.Ownership

/-!
# Link marks that stay

A pass over the links keeps every handle that it can: one whose mark is there and starts where the text
has a link to the same passage (`Handle.Wanted`).  No two marks of links start together, since scanned
links do not and an edit keeps starts apart (`Spaced`); so no two old handles ask for the same key.  All
other handles go, and each link that is left without one gets a new one (`minimalChurn_of_run`).
-/

namespace PassageEditor.Markup

/-! ### Where handles stand -/

/-- The key of the link that a handle stands for: its target, and where its mark starts as long as that is
there. -/
def Handle.key? (b : Buffer) (h : Handle) : Option LinkKey :=
  (b.findMark? h.mark).bind fun m => h.passage.map fun passage => ⟨passage, m.range.start⟩

private theorem Handle.key?_eq_some_iff {b : Buffer} {h : Handle} {key : LinkKey} :
    h.key? b = some key ↔
      ∃ m, b.findMark? h.mark = some m ∧ h.passage = some key.passage ∧ m.range.start = key.start := by
  unfold key?
  simp only [Option.bind_eq_some_iff, Option.map_eq_some_iff]
  constructor
  · rintro ⟨m, hm, passage, hpassage, rfl⟩
    exact ⟨m, hm, hpassage, rfl⟩
  · rintro ⟨m, hm, hpassage, hstart⟩
    exact ⟨m, hm, _, hpassage, by rw [hstart]⟩

/-- The text has a link that the handle stands for. -/
def Handle.Wanted (b : Buffer) (story : Story) (h : Handle) : Prop :=
  ∃ link ∈ scanLinks b.lines story, h.key? b = some link.key

/-- No two marks of the handles start together. -/
def Spaced (b : Buffer) (handles : List Handle) : Prop :=
  ∀ g ∈ handles, ∀ h ∈ handles, ∀ m ∈ b.marks, ∀ n ∈ b.marks, m.id = g.mark → n.id = h.mark →
    m.range.start = n.range.start → m = n

namespace Spaced

variable {handles : List Handle}

private theorem edit {b : Buffer} (h : Spaced b handles) (hmarked : Marked b handles) (e : Buffer.Edit) :
    Spaced (b.edit e) handles := by
  rcases b.edit_cases e with ⟨-, hsame⟩ | ⟨change, before, old, cs, after, -, hsplices, hmarks, -⟩
  · rw [hsame]
    exact h
  · have hwide : ∀ g ∈ handles, ∀ m ∈ b.marks, m.id = g.mark → m.range.start < m.range.stop := by
      intro g hg m hm hid
      obtain ⟨-, -, cs, hcovers, hclosed⟩ := hmarked.marks g hg m hm hid
      exact hcovers.start_lt_stop hclosed.ne_nil
    intro g hg g' hg' m hm n hn hid hid' hstart
    rw [hmarks] at hm hn
    obtain ⟨m₀, hm₀, hmoved⟩ := List.mem_filterMap.1 hm
    obtain ⟨n₀, hn₀, hmoved'⟩ := List.mem_filterMap.1 hn
    obtain ⟨hund, rfl⟩ := Change.mark?_eq_some hmoved
    obtain ⟨hund', rfl⟩ := Change.mark?_eq_some hmoved'
    have hbefore := Change.moved_start_injective hsplices.start_le_newStop (hwide g hg m₀ hm₀ hid)
      (hwide g' hg' n₀ hn₀ hid') hund hund' hstart
    rw [h g hg g' hg' m₀ hm₀ n₀ hn₀ hid hid' hbefore]

private theorem later {c c' : Canvas} (h : Spaced c.buffer handles)
    (hbelow : ∀ g ∈ handles, g.mark.value < c.buffer.nextMark) (hlater : Later c c') :
    Spaced c'.buffer handles := by
  have hold : ∀ g ∈ handles, ∀ m ∈ c'.buffer.marks, m.id = g.mark → m ∈ c.buffer.marks := by
    intro g hg m hm hid
    refine (hlater.marks m hm).resolve_right ?_
    rw [hid]
    exact Nat.not_le.2 (hbelow g hg)
  intro g hg g' hg' m hm n hn hid hid'
  exact h g hg g' hg' m (hold g hg m hm hid) n (hold g' hg' n hn hid') hid hid'

/-- After a pass the marks start where the links do. -/
private theorem of_fitted {b : Buffer} {links : List (LinkKey × Handle)} (h : Reconciler.Fitted b links)
    {story : Story} (hkeys : ∀ key ∈ links.map (·.1), key ∈ (scanLinks b.lines story).map (·.key)) :
    Spaced b (links.map (·.2)) := by
  have hfits : ∀ g ∈ links.map (·.2), ∀ m ∈ b.marks, m.id = g.mark →
      ∃ p ∈ links, p.2 = g ∧ Reconciler.Fits b p.1 p.2 m := by
    intro g hg m hm hid
    obtain ⟨p, hp, rfl⟩ := List.mem_map.1 hg
    obtain ⟨n, hn⟩ := h.fits p hp
    obtain rfl := h.numbered.eq_of_id_eq hm hn.mem (hid.trans hn.id.symm)
    exact ⟨p, hp, rfl, hn⟩
  intro g hg g' hg' m hm n hn hid hid' hstart
  obtain ⟨p, hp, rfl, hfit⟩ := hfits g hg m hm hid
  obtain ⟨q, hq, rfl, hfit'⟩ := hfits g' hg' n hn hid'
  obtain ⟨link, hlink, hkey⟩ := List.mem_map.1 (hkeys p.1 (List.mem_map_of_mem hp))
  obtain ⟨link', hlink', hkey'⟩ := List.mem_map.1 (hkeys q.1 (List.mem_map_of_mem hq))
  have hsame : link.key.start = link'.key.start := by rw [hkey, hkey', ← hfit.start, hstart, hfit'.start]
  obtain rfl := List.inj_on_of_nodup_map (nodup_starts_scanLinks b.lines story) hlink hlink' hsame
  obtain rfl : p = q := List.inj_on_of_nodup_map h.keyed.nodup_keys hp hq (hkey.symm.trans hkey')
  exact h.numbered.eq_of_id_eq hm hn (hid.trans hid'.symm)

end Spaced

namespace Scene

open Reconciler

/-! ### Runs -/

/-- The marks and the listeners are accounted for, and the marks of links are closed and apart. -/
structure Settled (s : Scene) : Prop where
  tends : s.marks.Tends s.canvas []
  marked : Marked s.canvas.buffer (s.marks.links.map (·.2))
  spaced : Spaced s.canvas.buffer (s.marks.links.map (·.2))

private theorem settled_step {s : Scene} (h : s.Settled) (t : Step) : (s.step t).Settled := by
  refine ⟨?_, marked_step h.marked t, ?_⟩
  · cases t with
    | edit e => exact ⟨⟨h.tends.tended.wired, h.tends.tended.owned.edit e⟩, h.tends.classed⟩
    | placeholders force => exact tends_renderPlaceholders h.tends force
    | links story => exact tends_renderLinks h.tends story
  · cases t with
    | edit e => exact h.spaced.edit h.marked e
    | placeholders force =>
      show Spaced (s.marks.renderPlaceholders s.canvas force).2.2.buffer
        ((s.marks.renderPlaceholders s.canvas force).2.1.links.map (·.2))
      rw [links_renderPlaceholders]
      exact h.spaced.later h.marked.below
        (Later.of_moves (moves_renderPlaceholders s.marks s.canvas force))
    | links story =>
      obtain ⟨hfitted, hkeys⟩ := fitted_renderLinks h.marked story
      have hlines : (s.step (.links story)).canvas.buffer.lines = s.canvas.buffer.lines :=
        lines_renderLinks s.marks s.canvas story
      have hscanned : ∀ key ∈ (s.step (.links story)).marks.links.map (·.1),
          key ∈ (scanLinks (s.step (.links story)).canvas.buffer.lines story).map (·.key) :=
        fun key hkey => by
        rw [hlines]
        exact (hkeys key).1 hkey
      exact Spaced.of_fitted hfitted hscanned

private theorem settled_run (designated : Modifier) (text : String) (steps : List Step) :
    (steps.foldl step (start designated text)).Settled := by
  induction steps using List.reverseRecOn with
  | nil =>
    exact ⟨tends_empty designated (Buffer.numbered_ofText text), marked_run designated text [],
      by simp [Spaced, start, Reconciler.empty]⟩
  | append_singleton steps t ih =>
    rw [List.foldl_append]
    exact settled_step ih t

end Scene

namespace Reconciler

/-! ### Taking old links over -/

/-- The old handles that are done and whose marks are there stand under their keys, and no mark has been
touched. -/
structure Rekeyed.Live (b : Buffer) (done : List Handle) (s : Rekeyed) : Prop where
  buffer : s.canvas.buffer = b
  keyed : Keyed s.links
  links : ∀ p, p ∈ s.links ↔ p.2 ∈ done ∧ p.2.key? b = some p.1

private theorem live_rekey {b : Buffer} {done : List Handle} {s : Rekeyed} (hs : s.Live b done)
    {h : Handle} (hapart : ∀ g ∈ done, ∀ key, g.key? b = some key → h.key? b ≠ some key) :
    (rekey s h).Live b (done ++ [h]) := by
  obtain ⟨links, cleared, canvas⟩ := s
  obtain ⟨rfl, hkeyed, hlinks⟩ := hs
  dsimp only at hkeyed hlinks hapart
  have hdead : h.key? canvas.buffer = none → ∀ p : LinkKey × Handle, p ∈ links ↔
      p.2 ∈ done ++ [h] ∧ p.2.key? canvas.buffer = some p.1 := by
    intro hnone p
    rw [hlinks, List.mem_append, List.mem_singleton]
    refine and_congr_left fun hkey => ⟨.inl, ?_⟩
    rintro (hdone | rfl)
    · exact hdone
    · simp [hnone] at hkey
  cases hm : canvas.buffer.findMark? h.mark with
  | none =>
    simp only [rekey, hm]
    exact ⟨rfl, hkeyed, hdead (by simp [Handle.key?, hm])⟩
  | some m =>
    cases hp : h.passage with
    | none =>
      simp only [rekey, hm, hp]
      exact ⟨rfl, hkeyed, hdead (by simp [Handle.key?, hp])⟩
    | some passage =>
      have hkey : h.key? canvas.buffer = some ⟨passage, m.range.start⟩ :=
        Handle.key?_eq_some_iff.2 ⟨m, hm, hp, rfl⟩
      have hnew : links.any (·.1 = (⟨passage, m.range.start⟩ : LinkKey)) = false := by
        rw [List.any_eq_false]
        rintro p hmem heq
        obtain ⟨hdone, hkey'⟩ := (hlinks p).1 hmem
        exact hapart p.2 hdone _ hkey' (hkey.trans (congrArg some (of_decide_eq_true heq).symm))
      have hinsert : insertLink ⟨passage, m.range.start⟩ h links =
          (none, (insertLink ⟨passage, m.range.start⟩ h links).2) :=
        Prod.ext (insertLink_fst_of_new hnew) rfl
      have hmem : ∀ p, p ∈ (insertLink ⟨passage, m.range.start⟩ h links).2 ↔
          p = (⟨passage, m.range.start⟩, h) ∨ p ∈ links ∧ p.1 ≠ ⟨passage, m.range.start⟩ :=
        fun p => mem_insertLink hkeyed
      have hkeyed' : Keyed (insertLink ⟨passage, m.range.start⟩ h links).2 := keyed_insertLink hkeyed
      generalize (insertLink ⟨passage, m.range.start⟩ h links).2 = links' at hinsert hmem hkeyed'
      simp only [rekey, hm, hp, hinsert]
      refine ⟨rfl, hkeyed', fun p => ?_⟩
      rw [hmem, hlinks, List.mem_append, List.mem_singleton]
      constructor
      · rintro (rfl | ⟨⟨hdone, hkey'⟩, -⟩)
        · exact ⟨.inr rfl, hkey⟩
        · exact ⟨.inl hdone, hkey'⟩
      · rintro ⟨hdone | rfl, hkey'⟩
        · refine .inr ⟨⟨hdone, hkey'⟩, ?_⟩
          intro heq
          exact hapart p.2 hdone _ hkey' (heq ▸ hkey)
        · exact .inl (Prod.ext (Option.some.inj (hkey'.symm.trans hkey)) rfl)

private theorem live_foldl_rekey {b : Buffer} {todo done : List Handle} {s : Rekeyed} (hs : s.Live b done)
    (hapart : (done ++ todo).Pairwise fun g h => ∀ key, g.key? b = some key → h.key? b ≠ some key) :
    (todo.foldl rekey s).Live b (done ++ todo) := by
  induction todo generalizing done s with
  | nil => simpa using hs
  | cons h todo ih =>
    have hfirst : ∀ g ∈ done, ∀ key, g.key? b = some key → h.key? b ≠ some key := fun g hg =>
      (List.pairwise_append.1 hapart).2.2 g hg h List.mem_cons_self
    rw [List.append_cons] at hapart ⊢
    exact ih (live_rekey hs hfirst) hapart

end Reconciler

namespace Scene.Settled

open Reconciler

variable {s : Scene}

/-- No two old handles stand for the same link. -/
private theorem pairwise_key (h : s.Settled) :
    (s.marks.links.map (·.2)).Pairwise fun g k => ∀ key, g.key? s.canvas.buffer = some key →
      k.key? s.canvas.buffer ≠ some key := by
  have hmarks := h.marked.nodup
  rw [List.Nodup, List.pairwise_map] at hmarks
  refine (List.Pairwise.and_mem.1 hmarks).imp ?_
  rintro g k ⟨hg, hk, hne⟩ key hkey hkey'
  obtain ⟨m, hm, -, hstart⟩ := Handle.key?_eq_some_iff.1 hkey
  obtain ⟨n, hn, -, hstart'⟩ := Handle.key?_eq_some_iff.1 hkey'
  obtain ⟨hm, hid⟩ := Buffer.mem_of_findMark? hm
  obtain ⟨hn, hid'⟩ := Buffer.mem_of_findMark? hn
  have hsame := h.spaced g hg k hk m hm n hn hid hid' (hstart.trans hstart'.symm)
  exact hne (by rw [← hid, ← hid', hsame])

/-- The handles that stay are those that the text has a link for, under the key of that link. -/
private theorem mem_keptLinks (h : s.Settled) (story : Story) (p : LinkKey × Handle) :
    p ∈ s.marks.keptLinks s.canvas story ↔
      p.2 ∈ s.marks.links.map (·.2) ∧ p.2.key? s.canvas.buffer = some p.1 ∧
        p.1 ∈ (scanLinks s.canvas.buffer.lines story).map (·.key) := by
  have hstart : (⟨[], 0, s.canvas⟩ : Rekeyed).Live s.canvas.buffer [] := ⟨rfl, List.Pairwise.nil, by simp⟩
  have hlive : (s.marks.takenOver s.canvas).Live s.canvas.buffer ([] ++ s.marks.links.map (·.2)) :=
    live_foldl_rekey hstart h.pairwise_key
  unfold keptLinks
  rw [List.mem_filter, hlive.links, List.nil_append, and_assoc]
  refine and_congr_right fun _ => and_congr_right fun _ => ?_
  simp [List.any_eq_true, List.mem_map]

/-! ### Which handles stay -/

section Pass

variable {story : Story} {gone drawn : List Handle}

private theorem nodup_old (h : s.Settled) : (s.marks.links.map (·.2)).Nodup := h.marked.nodup.of_map _

private theorem mem_kept_iff (h : s.Settled) {g : Handle} (hold : g ∈ s.marks.links.map (·.2)) :
    g ∈ (s.marks.keptLinks s.canvas story).map (·.2) ↔ g.Wanted s.canvas.buffer story := by
  constructor
  · intro hg
    obtain ⟨p, hp, rfl⟩ := List.mem_map.1 hg
    obtain ⟨-, hkey, hwanted⟩ := (h.mem_keptLinks story p).1 hp
    obtain ⟨link, hlink, heq⟩ := List.mem_map.1 hwanted
    exact ⟨link, hlink, by rw [hkey, heq]⟩
  · rintro ⟨link, hlink, hkey⟩
    exact List.mem_map.2
      ⟨(link.key, g), (h.mem_keptLinks story _).2 ⟨hold, hkey, List.mem_map_of_mem hlink⟩, rfl⟩

/-- An old handle is cleared unless the text has a link for it. -/
private theorem mem_gone_iff (h : s.Settled) (hswept : Swept s.marks s.canvas story gone drawn)
    {g : Handle} (hold : g ∈ s.marks.links.map (·.2)) : g ∈ gone ↔ ¬ g.Wanted s.canvas.buffer story := by
  have hdisjoint := (List.nodup_append.1 (hswept.old.nodup_iff.2 h.nodup_old)).2.2
  rw [← h.mem_kept_iff hold]
  constructor
  · exact fun hgone hkept => hdisjoint g hkept g hgone rfl
  · exact (List.mem_append.1 (hswept.old.mem_iff.2 hold)).resolve_left

private theorem mem_old_of_gone (hswept : Swept s.marks s.canvas story gone drawn) {g : Handle}
    (hg : g ∈ gone) :
    g ∈ s.marks.links.map (·.2) := hswept.old.mem_iff.1 (List.mem_append_right _ hg)

/-- A handle that the text has a link for stays under the key of that link, with its mark and its
listeners. -/
theorem stays (h : s.Settled) (hswept : Swept s.marks s.canvas story gone drawn) {g : Handle}
    (hold : g ∈ s.marks.links.map (·.2)) {link : Link}
    (hlink : link ∈ scanLinks s.canvas.buffer.lines story)
    (hkey : g.key? s.canvas.buffer = some link.key) :
    let out := (s.marks.renderLinks s.canvas story).2
    (link.key, g) ∈ out.1.links ∧ out.2.buffer.findMark? g.mark = s.canvas.buffer.findMark? g.mark ∧
      ∀ l : Listener, l.id ∈ g.listeners → (l ∈ out.2.hub.listeners ↔ l ∈ s.canvas.hub.listeners) := by
  intro out
  have hgrows : Grows (Handle.clearAll gone s.canvas) out.2 := hswept.grows
  have hcounters := Handle.clearAll_counters gone s.canvas
  have hkept : g ∉ gone := fun hg => (h.mem_gone_iff hswept hold).1 hg ⟨link, hlink, hkey⟩
  obtain ⟨m, hm, -, -⟩ := Handle.key?_eq_some_iff.1 hkey
  obtain ⟨hmem, hid⟩ := Buffer.mem_of_findMark? hm
  refine ⟨?_, ?_, ?_⟩
  · show (link.key, g) ∈ (s.marks.renderLinks s.canvas story).2.1.links
    rw [hswept.pass]
    refine mem_drawMissing ?_ _ _ _
    exact (h.mem_keptLinks story _).2 ⟨hold, hkey, List.mem_map_of_mem hlink⟩
  · -- its mark is not that of a handle that goes
    have hleft : m ∈ (Handle.clearAll gone s.canvas).buffer.marks := by
      refine mem_marks_clearAll.2 ⟨hmem, ?_⟩
      intro k hk heq
      have hsame : g = k :=
        List.inj_on_of_nodup_map h.marked.nodup hold (mem_old_of_gone hswept hk) (hid.symm.trans heq)
      exact hkept (hsame ▸ hk)
    have hnumbered : out.2.buffer.Numbered := (fitted_renderLinks h.marked story).1.numbered
    rw [hm]
    exact hnumbered.findMark?_eq_some_iff.2 ⟨hgrows.marks m hleft, hid⟩
  · intro l hl
    have hhandle : g ∈ s.marks.handles := List.mem_append_right _ hold
    have hapart : ∀ k ∈ gone, l.id ∉ k.listeners := by
      intro k hk hl'
      have hne : g ≠ k := fun heq => hkept (heq ▸ hk)
      have hboth : k ∈ s.marks.handles := List.mem_append_right _ (mem_old_of_gone hswept hk)
      exact h.tends.tended.wired.apart hhandle hboth hne hl hl'
    constructor
    · intro hafter
      rcases hgrows.added l hafter with hleft | hle
      · exact (Handle.mem_listeners_clearAll.1 hleft).1
      · have hlt := h.tends.tended.wired.below hhandle hl
        rw [hcounters.2.1] at hle
        omega
    · intro hbefore
      exact hgrows.listeners l (Handle.mem_listeners_clearAll.2 ⟨hbefore, hapart⟩)

/-- Any other old handle goes, with its mark and its listeners. -/
private theorem goes (h : s.Settled) (hswept : Swept s.marks s.canvas story gone drawn) {g : Handle}
    (hold : g ∈ s.marks.links.map (·.2)) (hun : ¬ g.Wanted s.canvas.buffer story) :
    let out := (s.marks.renderLinks s.canvas story).2
    g ∉ out.1.links.map (·.2) ∧ out.2.buffer.findMark? g.mark = none ∧
      ∀ l ∈ out.2.hub.listeners, l.id ∉ g.listeners := by
  intro out
  have hgrows : Grows (Handle.clearAll gone s.canvas) out.2 := hswept.grows
  have hcounters := Handle.clearAll_counters gone s.canvas
  have hgone : g ∈ gone := (h.mem_gone_iff hswept hold).2 hun
  refine ⟨?_, ?_, ?_⟩
  · intro hnew
    rcases List.mem_append.1 (hswept.new.mem_iff.1 hnew) with hkept | hdrawn
    · exact hun ((h.mem_kept_iff hold).1 hkept)
    · have hge := (hswept.fresh g hdrawn).mark
      have hlt := h.marked.below g hold
      omega
  · refine List.find?_eq_none.2 fun m hm => ?_
    simp only [decide_eq_true_eq]
    intro hid
    rcases hgrows.later.marks m hm with hleft | hle
    · exact (mem_marks_clearAll.1 hleft).2 g hgone hid
    · have hlt := h.marked.below g hold
      rw [hcounters.1, hid] at hle
      omega
  · intro l hl hmem
    rcases hgrows.added l hl with hleft | hle
    · exact (Handle.mem_listeners_clearAll.1 hleft).2 g hgone hmem
    · have hlt := h.tends.tended.wired.below (List.mem_append_right _ hold) hmem
      rw [hcounters.2.1] at hle
      omega

private theorem length_filter_not_mem {α : Type} [DecidableEq α] {xs ys zs ws : List α}
    (hperm : xs.Perm (ys ++ zs)) (hys : ∀ y ∈ ys, y ∈ ws) (hzs : ∀ z ∈ zs, z ∉ ws) :
    (xs.filter (· ∉ ws)).length = zs.length := by
  have hnone : ys.filter (· ∉ ws) = [] := by
    rw [List.filter_eq_nil_iff]
    intro y hy
    simpa using hys y hy
  have hall : zs.filter (· ∉ ws) = zs := by
    rw [List.filter_eq_self]
    intro z hz
    simpa using hzs z hz
  rw [(hperm.filter _).length_eq, List.filter_append, hnone, hall, List.nil_append]

/-- The report counts the new handles and the old ones that went. -/
private theorem report_eq (h : s.Settled) (hswept : Swept s.marks s.canvas story gone drawn) :
    let out := s.marks.renderLinks s.canvas story
    let old := s.marks.links.map (·.2)
    let new := out.2.1.links.map (·.2)
    out.1 = ⟨(new.filter (· ∉ old)).length, (old.filter (· ∉ new)).length⟩ := by
  intro out old new
  have hkept : ∀ g ∈ (s.marks.keptLinks s.canvas story).map (·.2), g ∈ old := fun g hg =>
    hswept.old.mem_iff.1 (List.mem_append_left _ hg)
  have hcreated : (new.filter (· ∉ old)).length = drawn.length := by
    refine length_filter_not_mem hswept.new hkept fun g hg hold => ?_
    have hge := (hswept.fresh g hg).mark
    have hlt := h.marked.below g hold
    omega
  have hcleared : (old.filter (· ∉ new)).length = gone.length := by
    refine length_filter_not_mem hswept.old.symm ?_ ?_
    · exact fun g hg => hswept.new.mem_iff.2 (List.mem_append_left _ hg)
    · intro g hg
      have hold := mem_old_of_gone hswept hg
      exact (h.goes hswept hold ((h.mem_gone_iff hswept hold).1 hg)).1
  rw [hcreated, hcleared, ← hswept.created, ← hswept.cleared]

end Pass

end Scene.Settled

namespace Reconciler

/-! ### A pass that has nothing to do -/

/-- A handle under a key behind all others. -/
private theorem insertLink_of_last {key : LinkKey} {h : Handle} {links : List (LinkKey × Handle)}
    (hlast : ∀ p ∈ links, ¬ key.le p.1 = true) :
    insertLink key h links = (none, links ++ [(key, h)]) := by
  induction links with
  | nil => rfl
  | cons p rest ih =>
    obtain ⟨k, g⟩ := p
    have hbefore : ¬ key.le k = true := hlast _ List.mem_cons_self
    have hne : k ≠ key := by
      rintro rfl
      exact hbefore (LinkKey.le_refl k)
    unfold insertLink
    rw [if_neg hne, if_neg hbefore, ih fun p hp => hlast p (List.mem_cons_of_mem _ hp)]
    rfl

/-- Handles that stand under the keys of their marks are taken over as they are. -/
private theorem foldl_rekey_of_live {c : Canvas} {done links : List (LinkKey × Handle)}
    (hkeyed : Keyed (done ++ links)) (hlive : ∀ p ∈ links, p.2.key? c.buffer = some p.1) (cleared : Nat) :
    (links.map (·.2)).foldl rekey ⟨done, cleared, c⟩ = ⟨done ++ links, cleared, c⟩ := by
  induction links generalizing done with
  | nil => simp
  | cons p links ih =>
    obtain ⟨key, h⟩ := p
    have hlast : ∀ q ∈ done, ¬ key.le q.1 = true := fun q hq =>
      (List.pairwise_append.1 hkeyed).2.2 q hq _ List.mem_cons_self
    obtain ⟨m, hm, hpassage, hstart⟩ := Handle.key?_eq_some_iff.1 (hlive _ List.mem_cons_self)
    dsimp only at hm hpassage hstart
    have hrekey : rekey ⟨done, cleared, c⟩ h = ⟨done ++ [(key, h)], cleared, c⟩ := by
      have hkey : (⟨key.passage, m.range.start⟩ : LinkKey) = key := by rw [hstart]
      simp only [rekey, hm, hpassage, hkey, insertLink_of_last hlast]
    rw [List.map_cons, List.foldl_cons, hrekey]
    rw [List.append_cons done (key, h) links] at hkeyed ⊢
    exact ih hkeyed fun q hq => hlive q (List.mem_cons_of_mem _ hq)

private theorem drawMissing_of_there {designated : Modifier} {wanted : List Link}
    {links : List (LinkKey × Handle)} (h : ∀ link ∈ wanted, link.key ∈ links.map (·.1)) (c : Canvas) :
    drawMissing designated wanted links c = (0, links, c) := by
  induction wanted with
  | nil => rfl
  | cons link rest ih =>
    have hthere : links.any (·.1 = link.key) = true := by
      obtain ⟨p, hp, heq⟩ := List.mem_map.1 (h link List.mem_cons_self)
      exact List.any_eq_true.2 ⟨p, hp, by simpa using heq⟩
    unfold drawMissing
    rw [if_pos hthere]
    exact ih fun l hl => h l (List.mem_cons_of_mem _ hl)

/-- Where every link of the text has its mark, and there is no other, a pass does nothing. -/
private theorem renderLinks_of_fitted {r : Reconciler} {c : Canvas} {story : Story}
    (h : Fitted c.buffer r.links)
    (hkeys : ∀ key, key ∈ r.links.map (·.1) ↔ key ∈ (scanLinks c.buffer.lines story).map (·.key)) :
    r.renderLinks c story = (.none, r, c) := by
  have hlive : ∀ p ∈ r.links, p.2.key? c.buffer = some p.1 := by
    intro p hp
    obtain ⟨m, hm⟩ := h.fits p hp
    exact Handle.key?_eq_some_iff.2
      ⟨m, h.numbered.findMark?_eq_some_iff.2 ⟨hm.mem, hm.id⟩, hm.handle, hm.start⟩
  have htaken : (r.links.map (·.2)).foldl rekey ⟨[], 0, c⟩ = ⟨r.links, 0, c⟩ := by
    have hkeyed : Keyed ([] ++ r.links) := h.keyed
    exact foldl_rekey_of_live hkeyed hlive 0
  have hwanted : ∀ p ∈ r.links, (scanLinks c.buffer.lines story).any (·.key = p.1) = true := by
    intro p hp
    obtain ⟨link, hlink, heq⟩ := List.mem_map.1 ((hkeys p.1).1 (List.mem_map_of_mem hp))
    exact List.any_eq_true.2 ⟨link, hlink, by simpa using heq⟩
  have hall : (r.links.filter fun p => (scanLinks c.buffer.lines story).any (·.key = p.1)) = r.links :=
    List.filter_eq_self.2 hwanted
  have hnone : (r.links.filter fun p => !(scanLinks c.buffer.lines story).any (·.key = p.1)) = [] := by
    rw [List.filter_eq_nil_iff]
    intro p hp
    simp [hwanted p hp]
  unfold renderLinks
  rw [htaken]
  dsimp only
  rw [hall, hnone]
  have hdraw : drawMissing r.designated (scanLinks c.buffer.lines story) r.links c = (0, r.links, c) :=
    drawMissing_of_there (fun link hlink => (hkeys link.key).2 (List.mem_map_of_mem hlink)) c
  rw [List.map_nil, show Handle.clearAll [] c = c from rfl, hdraw]
  rfl

private theorem source_renderPlaceholders (r : Reconciler) (c : Canvas) (force : Bool) :
    (r.renderPlaceholders c force).2.1.source = some c.buffer.text := by
  unfold renderPlaceholders
  dsimp only
  split
  · rename_i hsame
    simp only [Bool.and_eq_true, decide_eq_true_eq] at hsame
    exact hsame.2
  · rfl

private theorem renderPlaceholders_of_source {r : Reconciler} {c : Canvas}
    (h : r.source = some c.buffer.text) :
    r.renderPlaceholders c false = (.none, r, c) := by
  simp [renderPlaceholders, h]

end Reconciler

namespace Scene

open Reconciler

/-! ### Reconciling twice -/

/-- Right after a reconciliation every link has its mark, and the placeholders are those of the text. -/
private theorem reconcile_fitted {s : Scene} (h : s.Settled) (story : Story) (force : Bool) :
    let first := s.reconcile story force
    Fitted first.canvas.buffer first.marks.links ∧
      (∀ key, key ∈ first.marks.links.map (·.1) ↔
        key ∈ (scanLinks first.canvas.buffer.lines story).map (·.key)) ∧
      first.marks.source = some first.canvas.buffer.text := by
  intro first
  have hsettled : (s.step (.placeholders force)).Settled := settled_step h (.placeholders force)
  obtain ⟨hfitted, hkeys⟩ := fitted_renderLinks hsettled.marked story
  have hlines : first.canvas.buffer.lines = (s.step (.placeholders force)).canvas.buffer.lines :=
    lines_renderLinks (s.step (.placeholders force)).marks _ story
  refine ⟨hfitted, fun key => by rw [hlines]; exact hkeys key, ?_⟩
  have htext : first.canvas.buffer.text = s.canvas.buffer.text := by
    unfold Buffer.text Buffer.chars
    rw [show first.canvas.buffer.lines = s.canvas.buffer.lines from
      lines_reconcile s.marks s.canvas story force]
  rw [htext]
  exact source_renderPlaceholders s.marks s.canvas force

/-- The marks of placeholders are of their class. -/
private theorem Settled.holdAll {s : Scene} (h : s.Settled) :
    Handle.HoldAll .placeholder s.marks.placeholders s.canvas.buffer := by
  intro g hg m hm hid
  rcases h.tends.tended.owned.marks m hm with hforeign | ⟨k, hk, hid', hcls⟩
  · simp at hforeign
  · have hhandle : g ∈ s.marks.handles := List.mem_append_left _ hg
    obtain rfl := List.inj_on_of_nodup_map h.tends.tended.owned.single hhandle hk (hid.symm.trans hid')
    rw [hcls, h.tends.classed.placeholders g hg]

/-- Drawing placeholders leaves links that fit. -/
private theorem Settled.fitted_placeholders {s : Scene} (h : s.Settled)
    (hfitted : Fitted s.canvas.buffer s.marks.links) (force : Bool) :
    Fitted (s.step (.placeholders force)).canvas.buffer s.marks.links := by
  have hmoves := moves_renderPlaceholders s.marks s.canvas force
  have hlater := Later.of_moves hmoves
  have hsame : marksOf .passageLink (s.marks.renderPlaceholders s.canvas force).2.2.buffer =
      marksOf .passageLink s.canvas.buffer := (marksOf_moves (by decide) hmoves h.holdAll).1
  refine ⟨hlater.numbered hfitted.numbered, hfitted.keyed, hfitted.single, fun p hp => ?_⟩
  obtain ⟨m, hm⟩ := hfitted.fits p hp
  obtain ⟨cs, hcovers, hclosed⟩ := hm.closed
  have hmem : m ∈ marksOf .passageLink (s.marks.renderPlaceholders s.canvas force).2.2.buffer := by
    rw [hsame]
    exact mem_marksOf.2 ⟨hm.mem, hm.cls⟩
  exact ⟨m, (mem_marksOf.1 hmem).1, hm.id, hm.cls, hm.handle, hm.passage, hm.start, cs,
    hlater.covers hcovers, hclosed⟩

/-- A second reconciliation leaves the links as they are. -/
private theorem links_reconcile_again {s : Scene} (h : s.Settled) (story : Story) (force again : Bool) :
    let first := s.reconcile story force
    let placed := first.marks.renderPlaceholders first.canvas again
    first.marks.reconcile first.canvas story again = (placed.1.add .none, placed.2.1, placed.2.2) := by
  intro first placed
  obtain ⟨hfitted, hkeys, -⟩ := reconcile_fitted h story force
  have hsettled : first.Settled := settled_step (settled_step h (.placeholders force)) (.links story)
  have hagain : placed.2.1.renderLinks placed.2.2 story = (.none, placed.2.1, placed.2.2) := by
    have hlinks : placed.2.1.links = first.marks.links := links_renderPlaceholders _ _ _
    have hlines : placed.2.2.buffer.lines = first.canvas.buffer.lines := lines_renderPlaceholders _ _ _
    refine renderLinks_of_fitted ?_ fun key => ?_
    · rw [hlinks]
      exact hsettled.fitted_placeholders hfitted again
    · rw [hlinks, hlines]
      exact hkeys key
  unfold Reconciler.reconcile
  show (placed.1.add (placed.2.1.renderLinks placed.2.2 story).1,
    (placed.2.1.renderLinks placed.2.2 story).2.1,
    (placed.2.1.renderLinks placed.2.2 story).2.2) = _
  rw [hagain]

/-! ### A pass after any run -/

/-- What a pass over the links of a scene does. -/
structure MinimalChurn (s : Scene) (story : Story) : Prop where
  /-- The keys afterwards are those of the links of the text, each once. -/
  keys : ∀ key, key ∈ (s.marks.renderLinks s.canvas story).2.1.links.map (·.1) ↔
    key ∈ (scanLinks s.canvas.buffer.lines story).map (·.key)
  nodup : ((s.marks.renderLinks s.canvas story).2.1.links.map (·.1)).Nodup
  lines : (s.marks.renderLinks s.canvas story).2.2.buffer.lines = s.canvas.buffer.lines
  /-- The handle under a key has a live mark, and no other mark of a link has its target and its start. -/
  owns : let out := (s.marks.renderLinks s.canvas story).2
    ∀ p ∈ out.1.links, ∃ m, out.2.buffer.findMark? p.2.mark = some m ∧ m.info.passage = some p.1.passage ∧
      m.range.start = p.1.start ∧ ∀ n ∈ marksOf .passageLink out.2.buffer,
        n.info.passage = some p.1.passage → n.range.start = p.1.start → n = m
  /-- An old handle that the text has a link for stays, with its mark and its listeners. -/
  stays : let out := (s.marks.renderLinks s.canvas story).2
    ∀ h ∈ s.marks.links.map (·.2), ∀ link ∈ scanLinks s.canvas.buffer.lines story,
      h.key? s.canvas.buffer = some link.key →
        (link.key, h) ∈ out.1.links ∧ out.2.buffer.findMark? h.mark = s.canvas.buffer.findMark? h.mark ∧
          ∀ l : Listener, l.id ∈ h.listeners → (l ∈ out.2.hub.listeners ↔ l ∈ s.canvas.hub.listeners)
  /-- Widgets stay as they are. -/
  widgets : s.canvas.hub.widgets <+: (s.marks.renderLinks s.canvas story).2.2.hub.widgets
  /-- Any other old handle goes, with its mark and its listeners. -/
  goes : let out := (s.marks.renderLinks s.canvas story).2
    ∀ h ∈ s.marks.links.map (·.2), ¬ h.Wanted s.canvas.buffer story →
      h ∉ out.1.links.map (·.2) ∧ out.2.buffer.findMark? h.mark = none ∧
      ∀ l ∈ out.2.hub.listeners, l.id ∉ h.listeners
  /-- The report counts the handles that are new and the old ones that are gone. -/
  report : let out := s.marks.renderLinks s.canvas story
    let old := s.marks.links.map (·.2)
    let new := out.2.1.links.map (·.2)
    out.1 = ⟨(new.filter (· ∉ old)).length, (old.filter (· ∉ new)).length⟩
  /-- A second reconciliation does nothing, unless it is forced: then it draws the placeholders anew. -/
  again : ∀ force, let first := s.reconcile story force
    first.marks.reconcile first.canvas story false = (.none, first.marks, first.canvas)
  forced : ∀ force, let first := s.reconcile story force
    let placed := first.marks.renderPlaceholders first.canvas true
    first.marks.reconcile first.canvas story true = (placed.1.add .none, placed.2.1, placed.2.2)

/-- The mark of a link is the only one of its target and its start. -/
private theorem Settled.owns {s : Scene} (h : s.Settled) (hfitted : Fitted s.canvas.buffer s.marks.links)
    {p : LinkKey × Handle} (hp : p ∈ s.marks.links) :
    ∃ m, s.canvas.buffer.findMark? p.2.mark = some m ∧ m.info.passage = some p.1.passage ∧
      m.range.start = p.1.start ∧
      ∀ n ∈ marksOf .passageLink s.canvas.buffer,
        n.info.passage = some p.1.passage → n.range.start = p.1.start → n = m := by
  obtain ⟨m, hm⟩ := hfitted.fits p hp
  refine ⟨m, hfitted.numbered.findMark?_eq_some_iff.2 ⟨hm.mem, hm.id⟩, hm.passage, hm.start, ?_⟩
  intro n hn hpassage hstart
  obtain ⟨hn, hcls⟩ := mem_marksOf.1 hn
  -- a mark of a link is that of one of the handles of links
  rcases h.tends.tended.owned.marks n hn with hforeign | ⟨k, hk, hid, hcls'⟩
  · simp at hforeign
  rcases List.mem_append.1 hk with hk | hk
  · rw [h.tends.classed.placeholders k hk, hcls] at hcls'
    simp at hcls'
  · obtain ⟨q, hq, rfl⟩ := List.mem_map.1 hk
    obtain ⟨m', hm'⟩ := hfitted.fits q hq
    obtain rfl := hfitted.numbered.eq_of_id_eq hn hm'.mem (hid.trans hm'.id.symm)
    have hkey : q.1 = p.1 := by
      have hpassage' : q.1.passage = p.1.passage := Option.some.inj (hm'.passage.symm.trans hpassage)
      have hstart' : q.1.start = p.1.start := hm'.start.symm.trans hstart
      calc q.1 = ⟨q.1.passage, q.1.start⟩ := rfl
        _ = p.1 := by rw [hpassage', hstart']
    obtain rfl := List.inj_on_of_nodup_map hfitted.keyed.nodup_keys hq hp hkey
    exact hfitted.numbered.eq_of_id_eq hn hm.mem (hm'.id.trans hm.id.symm)

/-- After any edits and passes, a pass over the links changes no more than it has to. -/
theorem minimalChurn_of_run (designated : Modifier) (text : String) (steps : List Step) (story : Story) :
    MinimalChurn (steps.foldl step (start designated text)) story := by
  have h := settled_run designated text steps
  generalize steps.foldl step (start designated text) = s at h
  have hafter : (s.step (.links story)).Settled := settled_step h (.links story)
  obtain ⟨hfitted, hkeys⟩ := fitted_renderLinks h.marked story
  have hpassage : ∀ p ∈ s.marks.links, p.2.passage.isSome := fun p hp => by
    simp [(h.tends.classed.links p hp).2]
  obtain ⟨gone, drawn, hswept⟩ := exists_swept hpassage s.canvas story
  exact
    { keys := hkeys
      nodup := hfitted.keyed.nodup_keys
      lines := lines_renderLinks s.marks s.canvas story
      owns := fun p hp => hafter.owns hfitted hp
      stays := fun g hold link hlink hkey => h.stays hswept hold hlink hkey
      widgets := (Handle.clearAll_counters gone s.canvas).2.2 ▸ hswept.grows.widgets
      goes := fun g hold hun => h.goes hswept hold hun
      report := h.report_eq hswept
      again := fun force => by
        intro first
        have hsource : first.marks.source = some first.canvas.buffer.text :=
          (reconcile_fitted h story force).2.2
        refine (links_reconcile_again h story force false).trans ?_
        rw [renderPlaceholders_of_source hsource]
        rfl
      forced := fun force => links_reconcile_again h story force true }

/-- A forced reconciliation draws a placeholder anew although nothing has changed. -/
theorem forced_reconcile_draws_again :
    let first := (start .ctrl "$\x7b1:a\x7d").reconcile soleStory false
    (first.marks.reconcile first.canvas soleStory true).1 = ⟨1, 1⟩ ∧
      (first.marks.reconcile first.canvas soleStory true).1.isNoop = false := by
  decide +kernel

end Scene

end PassageEditor.Markup
