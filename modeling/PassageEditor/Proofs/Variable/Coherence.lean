import Mathlib.Data.List.Perm.Basic
import PassageEditor.Proofs.Variable.Parses

/-!
# A tracker and what its parser said

A tracker keeps for each passage the revision that it scanned last, and in its index what the parser said
of it.  A sync parses the revisions that are not those, forgets the passages that are gone, and so keeps
the two in step (`exact_of_syncs`), whatever the parser says from call to call and also where it fails.
-/

namespace PassageEditor

open VariableIndex

/-! ### What an index holds of a passage -/

/-- What an index holds of a passage are these definitions: over all variables each as often as it is
there, and with each variable of the passage those of its name in their order. -/
structure VariableIndex.Holds (ix : VariableIndex) (p : PassageId) (ds : List Definition) : Prop where
  all : ((ix.objects.flatMap (·.definitions)).filter (·.passage = p)).Perm ds
  each : ∀ i, (ix.definitionsOf i).filter (·.passage = p) =
    if i ∈ ix.own p then ds.filter (·.name = ix.nameOf i) else []
  names : ((ix.own p).map ix.nameOf).Nodup

private theorem VariableIndex.Sound.holds {ix : VariableIndex}
    {latest : PassageId → Option (List Definition)} (h : Sound ix latest) (p : PassageId) :
    ix.Holds p ((latest p).getD []) where
  all := h.definitions_perm p
  each := h.definitions p
  names := h.names p

/-- Where nothing is held of a passage, no definition is of it. -/
theorem VariableIndex.Holds.absent {ix : VariableIndex} {p : PassageId} (h : ix.Holds p []) :
    ∀ d ∈ ix.objects.flatMap (·.definitions), d.passage ≠ p := by
  intro d hd hp
  have hmem : d ∈ (ix.objects.flatMap (·.definitions)).filter (·.passage = p) :=
    List.mem_filter.2 ⟨hd, by simpa using hp⟩
  simpa using h.all.subset hmem

/-- The last parse of a passage. -/
def lastParse? (parses : List Parse) (p : PassageId) : Option Parse :=
  parses.reverse.find? (·.revision.passage.id = p)

private theorem lastParse?_append (parses new : List Parse) (p : PassageId) :
    lastParse? (parses ++ new) p = (lastParse? new p).or (lastParse? parses p) := by
  simp [lastParse?]

private theorem lastParse?_cons (x : Parse) (new : List Parse) (p : PassageId) :
    lastParse? (x :: new) p =
      (lastParse? new p).or (if p = x.revision.passage.id then some x else none) := by
  rw [← List.singleton_append, lastParse?_append]
  by_cases hp : p = x.revision.passage.id
  · subst hp
    simp [lastParse?]
  · simp [lastParse?, hp, Ne.symm hp]

private theorem lastParse?_eq_none {parses : List Parse} {p : PassageId} :
    lastParse? parses p = none ↔ ∀ x ∈ parses, x.revision.passage.id ≠ p := by
  simp [lastParse?]

/-- Where no passage is parsed twice, its parse is the last one. -/
private theorem lastParse?_of_mem {parses : List Parse}
    (hids : (parses.map (·.revision.passage.id)).Nodup) {x : Parse} (hx : x ∈ parses) :
    lastParse? parses x.revision.passage.id = some x := by
  cases hlast : lastParse? parses x.revision.passage.id with
  | none => exact absurd rfl (lastParse?_eq_none.1 hlast x hx)
  | some y =>
    have hid : y.revision.passage.id = x.revision.passage.id := by simpa using List.find?_some hlast
    have hy : y ∈ parses := List.mem_reverse.1 (List.mem_of_find?_eq_some hlast)
    rw [List.inj_on_of_nodup_map hids hy hx hid]

namespace Tracker

/-! ### Taking parses in and forgetting passages -/

/-- A tracker knows the last parse of each passage: it keeps the revision, and its index has the
definitions. -/
structure Coherent (t : Tracker) (known : PassageId → Option Parse) : Prop where
  scanned : ∀ p, t.scanned.lookup p = (known p).map (·.revision)
  keyed : ∀ e ∈ t.scanned, e.1 = e.2.passage.id
  nodup : (t.scanned.map (·.1)).Nodup
  sound : Sound t.index fun p => (known p).map (·.definitions)

namespace Coherent

variable {t : Tracker} {known : PassageId → Option Parse}

private theorem empty (hooks : VariableHooks) (format : FormatRef) :
    Coherent (.empty hooks format) fun _ => none where
  scanned := by simp [Tracker.empty]
  keyed := by simp [Tracker.empty]
  nodup := by simp [Tracker.empty]
  sound := Sound.empty

private theorem definitions_update (known : PassageId → Option Parse) (p : PassageId) (x : Option Parse) :
    (fun q => (Function.update known p x q).map (·.definitions)) =
      Function.update (fun q => (known q).map (·.definitions)) p (x.map (·.definitions)) :=
  Function.comp_update (Option.map Parse.definitions) known p x

private theorem take (h : Coherent t known) (x : Parse) :
    Coherent (t.take x) (Function.update known x.revision.passage.id (some x)) where
  scanned p := by
    unfold Tracker.take
    rw [lookup_put, h.scanned, Function.update_apply]
    split <;> rfl
  keyed e he := by
    rcases List.mem_cons.1 he with rfl | he
    · rfl
    · exact h.keyed e (List.mem_of_mem_filter he)
  nodup := by
    unfold Tracker.take
    rw [List.map_cons, List.nodup_cons]
    refine ⟨fun hm => ?_, nodup_keys_filter h.nodup _⟩
    obtain ⟨e, he, hid⟩ := List.mem_map.1 hm
    simpa [hid] using List.of_mem_filter he
  sound := by
    rw [definitions_update]
    exact h.sound.reset _ _ _

private theorem forget (h : Coherent t known) (r : Revision) :
    Coherent (t.forget r) (Function.update known r.passage.id none) where
  scanned p := by
    unfold Tracker.forget
    rw [lookup_filter_ne, h.scanned, Function.update_apply]
    split <;> rfl
  keyed e he := h.keyed e (List.mem_of_mem_filter he)
  nodup := nodup_keys_filter h.nodup _
  sound := by
    rw [definitions_update]
    exact h.sound.remove _ _

private theorem congr (h : Coherent t known) {known' : PassageId → Option Parse}
    (hk : ∀ p, known p = known' p) :
    Coherent t known' := by
  obtain rfl : known = known' := funext hk
  exact h

private theorem takes (h : Coherent t known) (new : List Parse) :
    Coherent (new.foldl Tracker.take t) fun p => (lastParse? new p).or (known p) := by
  induction new generalizing t known with
  | nil => exact h
  | cons x new ih =>
    refine (ih (h.take x)).congr fun p => ?_
    rw [lastParse?_cons, Option.or_assoc, Function.update_apply]
    split <;> rfl

private theorem forgets (h : Coherent t known) (gone : List Revision) :
    Coherent (gone.foldl Tracker.forget t) fun p =>
      if p ∈ gone.map (·.passage.id) then none else known p := by
  induction gone generalizing t known with
  | nil => exact h.congr fun p => by simp
  | cons r gone ih =>
    refine (ih (h.forget r)).congr fun p => ?_
    by_cases hp : p = r.passage.id <;> simp [hp]

end Coherent

/-! ### In step with a story -/

/-- After the sync with the story that has the revisions `held`: the last parse of each of its passages is
of that revision, and of the others the tracker knows nothing. -/
structure InStep (t : Tracker) (held : List Revision) (parses : List Parse) : Prop where
  last : ∀ r ∈ held, (lastParse? parses r.passage.id).map (·.revision) = some r
  coherent : Coherent t fun p => if p ∈ held.map (·.passage.id) then lastParse? parses p else none

namespace InStep

variable {t : Tracker} {held : List Revision} {parses : List Parse}

private theorem empty (hooks : VariableHooks) (format : FormatRef) :
    InStep (.empty hooks format) [] [] where
  last := by simp
  coherent := (Coherent.empty hooks format).congr fun p => by simp

/-- The revision of a passage that was scanned last is the one that the story had. -/
private theorem lookup_scanned (h : InStep t held parses) {p : PassageId} {q : Revision} :
    t.scanned.lookup p = some q ↔ q ∈ held ∧ q.passage.id = p := by
  rw [h.coherent.scanned]
  constructor
  · intro hq
    by_cases hp : p ∈ held.map (·.passage.id)
    · obtain ⟨r, hr, rfl⟩ := List.mem_map.1 hp
      rw [if_pos hp, h.last r hr] at hq
      obtain rfl := Option.some.inj hq
      exact ⟨hr, rfl⟩
    · rw [if_neg hp] at hq
      simp at hq
  · rintro ⟨hq, rfl⟩
    rw [if_pos (List.mem_map.2 ⟨q, hq, rfl⟩), h.last q hq]

private theorem hasSeen_iff (h : InStep t held parses) (r : Revision) :
    t.hasSeen r ↔ ∃ q ∈ held, q.passage.id = r.passage.id ∧ q.stamp = r.stamp := by
  unfold hasSeen
  constructor
  · intro hseen
    cases hl : t.scanned.lookup r.passage.id with
    | none => simp [hl] at hseen
    | some q =>
      obtain ⟨hq, hid⟩ := h.lookup_scanned.1 hl
      exact ⟨q, hq, hid, by simpa [hl] using hseen⟩
  · rintro ⟨q, hq, hid, hs⟩
    rw [h.lookup_scanned.2 ⟨hq, hid⟩]
    simpa using hs

private theorem mem_departed (h : InStep t held parses) {s : Story} {q : Revision} :
    q ∈ t.departed s ↔ q ∈ held ∧ ∀ r ∈ s.passages, r.passage.id ≠ q.passage.id := by
  unfold departed
  simp only [List.mem_map, List.mem_filter, Bool.not_eq_true', List.any_eq_false, decide_eq_true_eq]
  constructor
  · rintro ⟨e, ⟨he, hgone⟩, rfl⟩
    have hkey := h.coherent.keyed e he
    have hl : t.scanned.lookup e.1 = some e.2 := (lookup_eq_some_iff_mem h.coherent.nodup).2 he
    exact ⟨(h.lookup_scanned.1 hl).1, fun r hr hid => hgone r hr (hid.trans hkey.symm)⟩
  · rintro ⟨hq, hgone⟩
    have hl := h.lookup_scanned.2 ⟨hq, rfl⟩
    exact ⟨(q.passage.id, q), ⟨mem_of_lookup hl, hgone⟩, rfl⟩

/-- The passages that the story had and that are gone depart, each once. -/
private theorem length_departed (h : InStep t held parses) (hheld : (held.map (·.passage.id)).Nodup)
    (s : Story) :
    (t.departed s).length = (held.filter fun q =>
      !s.passages.any (·.passage.id = q.passage.id)).length := by
  have hgone : (t.departed s).Nodup := by
    refine List.Nodup.of_map (·.passage.id) ?_
    have hkeys : (t.departed s).map (·.passage.id) =
        (t.scanned.filter fun e => !s.passages.any (·.passage.id = e.1)).map (·.1) := by
      rw [departed, List.map_map]
      exact List.map_congr_left fun e he => (h.coherent.keyed e (List.mem_of_mem_filter he)).symm
    rw [hkeys]
    exact nodup_keys_filter h.coherent.nodup _
  refine List.Perm.length_eq ((List.perm_ext_iff_of_nodup hgone (hheld.of_map.filter _)).2 fun q => ?_)
  rw [h.mem_departed]
  simp

end InStep

private theorem departed_take {t : Tracker} {x : Parse} {s : Story}
    (hx : ∃ r ∈ s.passages, r.passage.id = x.revision.passage.id) :
    (t.take x).departed s = t.departed s := by
  have hpresent : (!s.passages.any (·.passage.id = x.revision.passage.id)) = false := by
    simpa using hx
  unfold departed take
  rw [List.filter_cons_of_neg (by simp [hpresent]), List.filter_filter]
  congr 1
  apply List.filter_congr
  intro e he
  by_cases hid : e.1 = x.revision.passage.id
  · rw [hid, hpresent, Bool.false_and]
  · simp [hid]

private theorem departed_takes {t : Tracker} {s : Story} {new : List Parse}
    (hnew : ∀ x ∈ new, ∃ r ∈ s.passages, r.passage.id = x.revision.passage.id) :
    (new.foldl take t).departed s = t.departed s := by
  induction new generalizing t with
  | nil => rfl
  | cons x new ih =>
    rw [List.foldl_cons, ih fun y hy => hnew y (List.mem_cons_of_mem _ hy),
      departed_take (hnew x List.mem_cons_self)]

/-! ### A sync -/

section Sync

variable {parser : Parser} {t : Tracker} {held : List Revision} {parses new : List Parse} {s : Story}

/-- The last of the new parses of a passage is of its revision, where that was not seen; else there is
none. -/
private theorem lastParse?_new (hs : (s.passages.map (·.passage.id)).Nodup)
    (hnew : new.map (·.revision) = s.passages.filter fun r => !t.hasSeen r) {r : Revision}
    (hr : r ∈ s.passages) :
    (lastParse? new r.passage.id).map (·.revision) = if t.hasSeen r then none else some r := by
  have hmem : ∀ q, (∃ x ∈ new, x.revision = q) ↔ q ∈ s.passages ∧ ¬ t.hasSeen q := by
    intro q
    rw [← List.mem_map, hnew, List.mem_filter, Bool.not_eq_true', Bool.not_eq_true]
  by_cases hseen : t.hasSeen r
  · have hnone : lastParse? new r.passage.id = none := by
      refine lastParse?_eq_none.2 fun x hx hid => ?_
      obtain ⟨hq, hunseen⟩ := (hmem x.revision).1 ⟨x, hx, rfl⟩
      rw [List.inj_on_of_nodup_map hs hq hr hid] at hunseen
      exact hunseen hseen
    rw [hnone, if_pos hseen]
    rfl
  · obtain ⟨x, hx, rfl⟩ := (hmem r).2 ⟨hr, hseen⟩
    have hids : (new.map (·.revision.passage.id)).Nodup := by
      have hsub : (new.map (·.revision)).Sublist s.passages := hnew ▸ List.filter_sublist
      have := hs.sublist (hsub.map (·.passage.id))
      rwa [List.map_map] at this
    rw [lastParse?_of_mem hids hx, if_neg hseen]
    rfl

/-- A sync parses what was not seen, and leaves the tracker in step with the story. -/
private theorem InStep.run_sync (h : InStep t held parses) (hs : (s.passages.map (·.passage.id)).Nodup)
    (hstamp : ∀ q ∈ held, ∀ r ∈ s.passages, q.stamp = r.stamp → q = r)
    (hparses : Answered parser parses) :
    ∃ new u, (Parsing.sync parser t s).run parses =
          ((⟨new.length, (t.departed s).length, new.countP (·.failed)⟩, u), parses ++ new) ∧
        new.map (·.revision) = s.passages.filter (fun r => !t.hasSeen r) ∧
        Answered parser (parses ++ new) ∧
        InStep u s.passages (parses ++ new) := by
  obtain ⟨new, hrun, hnew, hanswered⟩ := Parsing.run_scans hs t ⟨0, 0, 0⟩ hparses
  have hlast := fun {r} (hr : r ∈ s.passages) => lastParse?_new hs hnew hr
  have hpresent : ∀ x ∈ new, ∃ r ∈ s.passages, r.passage.id = x.revision.passage.id := by
    intro x hx
    have hmem : x.revision ∈ s.passages.filter fun r => !t.hasSeen r := hnew ▸ List.mem_map_of_mem hx
    exact ⟨x.revision, List.mem_of_mem_filter hmem, rfl⟩
  refine ⟨new, (t.departed s).foldl forget (new.foldl take t), ?_, hnew, hanswered, fun r hr => ?_,
    ((h.coherent.takes new).forgets (t.departed s)).congr fun p => ?_⟩
  · rw [Parsing.run_sync, hrun, SyncReport.foldl_count]
    dsimp only
    rw [departed_takes hpresent, Nat.zero_add, Nat.zero_add]
  · rw [lastParse?_append, Option.map_or, hlast hr]
    split
    · -- the revision that was seen is this one, and its parse is an earlier one
      obtain ⟨q, hq, hid, hsame⟩ := (h.hasSeen_iff r).1 ‹_›
      obtain rfl := hstamp q hq r hr hsame
      exact h.last q hq
    · rfl
  · rw [lastParse?_append]
    by_cases hp : p ∈ s.passages.map (·.passage.id)
    · obtain ⟨r, hr, rfl⟩ := List.mem_map.1 hp
      have hstays : r.passage.id ∉ (t.departed s).map (·.passage.id) := by
        intro hm
        obtain ⟨q, hq, hid⟩ := List.mem_map.1 hm
        exact (h.mem_departed.1 hq).2 r hr hid.symm
      rw [if_neg hstays, if_pos hp]
      have hr' := hlast hr
      split at hr'
      · obtain ⟨q, hq, hid, -⟩ := (h.hasSeen_iff r).1 ‹_›
        rw [if_pos (List.mem_map.2 ⟨q, hq, hid⟩)]
      · obtain ⟨x, hx, -⟩ := Option.map_eq_some_iff.1 hr'
        rw [hx, Option.some_or, Option.some_or]
    · have hnone : lastParse? new p = none := by
        refine lastParse?_eq_none.2 fun x hx hid => ?_
        obtain ⟨r, hr, hr'⟩ := hpresent x hx
        exact hp (List.mem_map.2 ⟨r, hr, hr'.trans hid⟩)
      rw [if_neg hp, hnone, Option.none_or]
      by_cases hheld : p ∈ held.map (·.passage.id)
      · obtain ⟨q, hq, rfl⟩ := List.mem_map.1 hheld
        have hgone : q ∈ t.departed s :=
          h.mem_departed.2 ⟨hq, fun r hr hid => hp (List.mem_map.2 ⟨r, hr, hid⟩)⟩
        rw [if_pos (List.mem_map.2 ⟨q, hgone, rfl⟩)]
      · rw [if_neg hheld, ite_self]

/-- A second sync with the same story parses nothing, reports nothing and changes nothing. -/
private theorem InStep.run_sync_again (h : InStep t s.passages parses)
    (hs : (s.passages.map (·.passage.id)).Nodup) (hparses : Answered parser parses) :
    (Parsing.sync parser t s).run parses = ((⟨0, 0, 0⟩, t), parses) := by
  obtain ⟨new, hrun, hnew, -⟩ := Parsing.run_scans hs t ⟨0, 0, 0⟩ hparses
  have hseen : s.passages.filter (fun r => !t.hasSeen r) = [] := by
    rw [List.filter_eq_nil_iff]
    intro r hr
    simpa using (h.hasSeen_iff r).2 ⟨r, hr, rfl, rfl⟩
  obtain rfl : new = [] := List.map_eq_nil_iff.1 (hnew.trans hseen)
  have hgone : t.departed s = [] := by
    rw [List.eq_nil_iff_forall_not_mem]
    intro q hq
    obtain ⟨hq, habsent⟩ := h.mem_departed.1 hq
    exact habsent q hq rfl
  rw [Parsing.run_sync, hrun]
  simp [hgone]

/-- The index of a tracker in step has scanned the passages of the story, and holds what was said of their
last revision. -/
theorem InStep.index (h : InStep t s.passages parses) :
    (∀ p, t.index.isScanned p ↔ ∃ r ∈ s.passages, r.passage.id = p) ∧
      (∀ r ∈ s.passages, ∃ x, lastParse? parses r.passage.id = some x ∧ x.revision = r ∧
        t.index.Holds r.passage.id x.definitions) ∧
      ∀ d ∈ t.index.objects.flatMap (·.definitions), ∃ r ∈ s.passages, r.passage.id = d.passage := by
  have hparse : ∀ r ∈ s.passages, ∃ x, lastParse? parses r.passage.id = some x ∧ x.revision = r := by
    intro r hr
    exact Option.map_eq_some_iff.1 (h.last r hr)
  refine ⟨fun p => ?_, fun r hr => ?_, fun d hd => ?_⟩
  · rw [isScanned, h.coherent.sound.scanned p, Option.isSome_map]
    by_cases hp : p ∈ s.passages.map (·.passage.id)
    · obtain ⟨r, hr, rfl⟩ := List.mem_map.1 hp
      obtain ⟨x, hx, -⟩ := hparse r hr
      rw [if_pos hp, hx]
      exact ⟨fun _ => ⟨r, hr, rfl⟩, fun _ => rfl⟩
    · rw [if_neg hp]
      simpa using hp
  · obtain ⟨x, hx, hrevision⟩ := hparse r hr
    have hholds := h.coherent.sound.holds r.passage.id
    rw [if_pos (List.mem_map_of_mem hr), hx] at hholds
    exact ⟨x, hx, hrevision, hholds⟩
  · by_contra habsent
    have hp : d.passage ∉ s.passages.map (·.passage.id) := by
      intro hm
      obtain ⟨r, hr, hid⟩ := List.mem_map.1 hm
      exact habsent ⟨r, hr, hid⟩
    have hholds := h.coherent.sound.holds d.passage
    rw [if_neg hp, Option.map_none, Option.getD_none] at hholds
    exact hholds.absent d hd rfl

end Sync

/-! ### A run of syncs -/

/-- The revisions of the last story of a history. -/
def heldAfter (history : List Story) : List Revision := (history.getLast?.map (·.passages)).getD []

private theorem heldAfter_concat (history : List Story) (s : Story) :
    heldAfter (history ++ [s]) = s.passages := by
  simp [heldAfter]

private theorem mem_heldAfter {history : List Story} {q : Revision} (hq : q ∈ heldAfter history) :
    q ∈ history.flatMap (·.passages) := by
  cases history using List.reverseRecOn with
  | nil => simp [heldAfter] at hq
  | append_singleton history s =>
    rw [heldAfter_concat] at hq
    exact List.mem_flatMap.2 ⟨s, by simp, hq⟩

/-- The stories have no passage twice, and a stamp stands for one revision in all of them. -/
structure Proper (history : List Story) : Prop where
  ids : ∀ s ∈ history, (s.passages.map (·.passage.id)).Nodup
  stamps : Stamped (history.flatMap (·.passages))

private theorem Proper.of_append {history more : List Story} (h : Proper (history ++ more)) :
    Proper history where
  ids s hs := h.ids s (List.mem_append_left _ hs)
  stamps q hq r hr := by
    have hmem : ∀ q ∈ history.flatMap (·.passages), q ∈ (history ++ more).flatMap (·.passages) := by
      intro q hq
      rw [List.flatMap_append]
      exact List.mem_append_left _ hq
    exact h.stamps q (hmem q hq) r (hmem r hr)

private theorem Proper.ids_heldAfter {history : List Story} (h : Proper history) :
    ((heldAfter history).map (·.passage.id)).Nodup := by
  cases history using List.reverseRecOn with
  | nil => simp [heldAfter]
  | append_singleton history s =>
    rw [heldAfter_concat]
    exact h.ids s (by simp)

private theorem Proper.same {history : List Story} {s : Story} (h : Proper (history ++ [s])) :
    ∀ q ∈ heldAfter history, ∀ r ∈ s.passages, q.stamp = r.stamp → q = r := by
  intro q hq r hr
  refine h.stamps q ?_ r ?_
  · rw [List.flatMap_append]
    exact List.mem_append_left _ (mem_heldAfter hq)
  · rw [List.flatMap_append]
    exact List.mem_append_right _ (by simpa using hr)

private theorem inStep_syncs (parser : Parser) (hooks : VariableHooks) (format : FormatRef)
    {history : List Story} (h : Proper history) :
    let old := (Parsing.syncs parser (.empty hooks format) history).run []
    InStep old.1 (heldAfter history) old.2 ∧ Answered parser old.2 := by
  induction history using List.reverseRecOn with
  | nil => exact ⟨InStep.empty hooks format, Answered.nil parser⟩
  | append_singleton history s ih =>
    obtain ⟨hold, hanswered⟩ := ih h.of_append
    obtain ⟨new, u, hrun, -, hnew, hu⟩ := hold.run_sync (h.ids s (by simp)) h.same hanswered
    dsimp only
    rw [Parsing.run_syncs_concat, heldAfter_concat]
    dsimp only
    rw [hrun]
    exact ⟨hu, hnew⟩

/-- What a sync with a story does that comes after one with the revisions `held`, when the calls of the
parser were `parses`: the new calls, the report, and the tracker that it leaves. -/
structure Exact (held : List Revision) (parses : List Parse) (s : Story)
    (new : List Parse) (report : SyncReport)
    (t : Tracker) : Prop where
  /-- What was parsed last of a passage is the revision that the story before had. -/
  last : ∀ q ∈ held, (lastParse? parses q.passage.id).map (·.revision) = some q
  /-- The passages that are parsed are those of which the story before did not have this revision. -/
  parsed : new.map (·.revision) =
    s.passages.filter fun r => !held.any fun q => q.passage.id = r.passage.id && q.stamp = r.stamp
  rescanned : report.rescanned = new.length
  removed : report.removed = (held.filter fun q => !s.passages.any (·.passage.id = q.passage.id)).length
  faults : report.faults = new.countP (·.failed)
  scanned : ∀ p, t.index.isScanned p ↔ ∃ r ∈ s.passages, r.passage.id = p
  /-- Each passage has what the parser said of its revision. -/
  current : ∀ r ∈ s.passages, ∃ x, lastParse? (parses ++ new) r.passage.id = some x ∧ x.revision = r ∧
    t.index.Holds r.passage.id x.definitions
  /-- A passage that could not be parsed has no definitions, whatever it had before. -/
  failed : ∀ r ∈ s.passages, ∀ x, lastParse? (parses ++ new) r.passage.id = some x → x.failed →
    ∀ d ∈ t.index.objects.flatMap (·.definitions), d.passage ≠ r.passage.id
  /-- No definition is left of a passage that the story does not have. -/
  present : ∀ d ∈ t.index.objects.flatMap (·.definitions), ∃ r ∈ s.passages, r.passage.id = d.passage

/-- However the syncs before went, and whatever the parser says from call to call, a sync with a story is
exact.  A second one with the same story calls nothing and changes nothing.  With a parser that says the
same of a text each time these are the syncs of the tracker. -/
theorem exact_of_syncs (parser : Parser) (hooks : VariableHooks) (format : FormatRef)
    {history : List Story} {s : Story}
    (hids : ∀ s' ∈ history ++ [s], (s'.passages.map (·.passage.id)).Nodup)
    (hstamps : Stamped ((history ++ [s]).flatMap (·.passages))) :
    let old := (Parsing.syncs parser (.empty hooks format) history).run []
    let now := (Parsing.sync parser old.1 s).run old.2
    (∃ new, now.2 = old.2 ++ new ∧ Exact (heldAfter history) old.2 s new now.1.1 now.1.2) ∧
      Answered parser now.2 ∧
      (∀ p, old.1.scanned.lookup p = (heldAfter history).find? (·.passage.id = p)) ∧
      (Parsing.sync parser now.1.2 s).run now.2 = ((⟨0, 0, 0⟩, now.1.2), now.2) ∧
      ((parser = fun _ => hooks.parse) → old.1 = after hooks format history ∧ now.1 = old.1.sync s) := by
  intro old now
  have hproper : Proper (history ++ [s]) := ⟨hids, hstamps⟩
  obtain ⟨hold, hanswered⟩ := inStep_syncs parser hooks format hproper.of_append
  obtain ⟨new, u, hrun, hnew, hanswered', hu⟩ := hold.run_sync (hids s (by simp)) hproper.same hanswered
  have hnow : now = ((⟨new.length, (old.1.departed s).length, new.countP (·.failed)⟩, u), old.2 ++ new) :=
    hrun
  have hheld := hproper.of_append.ids_heldAfter
  have hparsed : new.map (·.revision) = s.passages.filter fun r =>
      !(heldAfter history).any fun q => q.passage.id = r.passage.id && q.stamp = r.stamp := by
    rw [hnew]
    apply List.filter_congr
    intro r _
    have hseen : old.1.hasSeen r ↔ _ := hold.hasSeen_iff r
    rw [Bool.eq_iff_iff, Bool.not_eq_true', Bool.not_eq_true', ← Bool.not_eq_true, hseen]
    simp
  have hlookup : ∀ p, old.1.scanned.lookup p = (heldAfter history).find? (·.passage.id = p) := by
    intro p
    ext q
    rw [hold.lookup_scanned]
    constructor
    · rintro ⟨hq, rfl⟩
      exact find?_of_mem hheld hq
    · intro hq
      exact ⟨List.mem_of_find?_eq_some hq, by simpa using List.find?_some hq⟩
  have hfixed : (parser = fun _ => hooks.parse) →
      old.1 = after hooks format history ∧ now.1 = old.1.sync s := by
    rintro rfl
    have hold : old.1 = after hooks format history := Parsing.fst_run_syncs hooks format history []
    have hhooks : old.1.hooks.parse = hooks.parse := by
      rw [hold]
      exact congrArg (·.1.parse) (code_after hooks format history)
    exact ⟨hold, Parsing.fst_run_sync hhooks s old.2⟩
  obtain ⟨hscanned, hcurrent, hpresent⟩ := hu.index
  have hfailed : ∀ r ∈ s.passages, ∀ x, lastParse? (old.2 ++ new) r.passage.id = some x → x.failed →
      ∀ d ∈ u.index.objects.flatMap (·.definitions), d.passage ≠ r.passage.id := by
    intro r hr x hx hbad
    obtain ⟨y, hy, -, hholds⟩ := hcurrent r hr
    obtain rfl : x = y := Option.some.inj (hx.symm.trans hy)
    rw [Parse.definitions_of_failed hbad] at hholds
    exact hholds.absent
  refine ⟨⟨new, ?_, ?_⟩, ?_, hlookup, ?_, hfixed⟩
  · rw [hnow]
  · rw [hnow]
    exact ⟨hold.last, hparsed, rfl, hold.length_departed hheld s, rfl, hscanned,
      hcurrent, hfailed, hpresent⟩
  · rw [hnow]
    exact hanswered'
  · rw [hnow]
    exact hu.run_sync_again (hids s (by simp)) hanswered'

/-! ### An edited story -/

/-- A parser that says another thing at its first call, and panics where the text is empty. -/
def moody : Parser := fun parses text =>
  if text = "" then .panicked .other
  else .ok [.mention ⟨text, .origin, some (if parses.isEmpty then "first" else "later"), false⟩]

/-- A story of some passages, given by stamp, identifier and text. -/
def edition (passages : List (Nat × Nat × String)) : Story :=
  ⟨⟨1⟩, "Story", default, passages.map fun (stamp, id, text) => ⟨stamp, .fresh ⟨id⟩ "P" text []⟩⟩

/-- Of three passages the first is edited, the second is moved and the third is gone, and a new one cannot
be parsed. -/
def editions : Story × Story :=
  (edition [(1, 1, "x"), (2, 2, "y"), (3, 3, "z")], edition [(2, 2, "y"), (4, 1, "x"), (5, 4, "")])

/-- The edited passage and the new one are parsed, one passage is forgotten, and one parse fails. -/
theorem exact_of_syncs_edited :
    (∀ s' ∈ [editions.1] ++ [editions.2], (s'.passages.map (·.passage.id)).Nodup) ∧
      Stamped (([editions.1] ++ [editions.2]).flatMap (·.passages)) ∧
      let old :=
        (Parsing.syncs moody (.empty ⟨[], none, none, fun _ => .ok []⟩ default) [editions.1]).run []
      let now := (Parsing.sync moody old.1 editions.2).run old.2
      now.1.1 = ⟨2, 1, 1⟩ ∧ now.2.map (·.revision.stamp) = [1, 2, 3, 4, 5] ∧
        (∀ p, now.1.2.index.isScanned p ↔ ∃ r ∈ editions.2.passages, r.passage.id = p) ∧
        (Parsing.sync moody now.1.2 editions.2).run now.2 = ((⟨0, 0, 0⟩, now.1.2), now.2) := by
  have hids : ∀ s' ∈ [editions.1] ++ [editions.2], (s'.passages.map (·.passage.id)).Nodup := by
    simp [editions, edition, Passage.fresh]
  have hstamps : Stamped (([editions.1] ++ [editions.2]).flatMap (·.passages)) := by
    simp [Stamped, editions, edition]
  refine ⟨hids, hstamps, ?_⟩
  obtain ⟨⟨new, -, hexact⟩, -, -, hagain, -⟩ :=
    exact_of_syncs moody ⟨[], none, none, fun _ => .ok []⟩ default hids hstamps
  exact ⟨by decide +kernel, by decide +kernel, hexact.scanned, hagain⟩

end Tracker

end PassageEditor
