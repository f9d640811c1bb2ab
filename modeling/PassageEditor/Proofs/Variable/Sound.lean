import Mathlib.Logic.Function.Basic
import PassageEditor.Proofs.Variable.Rescan

/-!
# The index through all scans

Passages are scanned and forgotten in any order, and variables are shared between them.  At every moment
the definitions that come from a passage are those of its latest scan, held by the variables that the
index lists for it (`Sound`).  A scan and a removal keep this (`Sound.reset`, `Sound.remove`).  What a
passage holds of the global variables changes with its own scans alone (`Sound.shares_self`,
`Sound.shares_ne`).
-/

namespace PassageEditor.VariableIndex

/-- What the index knows of each passage is what its latest scan found; `latest` gives that, and nothing
for a passage that is not scanned. -/
structure Sound (ix : VariableIndex) (latest : PassageId → Option (List Definition)) : Prop where
  keyed : ix.Keyed
  scanned : ∀ p, (ix.locals? p).isSome = (latest p).isSome
  tagged : ∀ p, ∀ d ∈ (latest p).getD [], d.passage = p
  made : ∀ p, ∀ i ∈ ix.own p, ix.Made i
  names : ∀ p, ((ix.own p).map ix.nameOf).Nodup
  found : ∀ p x, (∃ i ∈ ix.own p, ix.nameOf i = x) ↔ ∃ d ∈ (latest p).getD [], d.name = x
  /-- Over all objects, the definitions of a passage are with the variables listed for it. -/
  definitions : ∀ p i, (ix.definitionsOf i).filter (·.passage = p) =
    if i ∈ ix.own p then ((latest p).getD []).filter (·.name = ix.nameOf i) else []
  defined : ∀ x i, ix.global? x = some i → ix.definitionsOf i ≠ []
  shared : ∀ p, ∀ d ∈ (latest p).getD [], d.isLocal = false →
    ∃ i ∈ ix.own p, ix.nameOf i = d.name ∧ ix.global? d.name = some i
  /-- A variable that is not the global one of its name belongs to one passage alone. -/
  apart : ∀ p, ∀ i ∈ ix.own p,
    ix.global? (ix.nameOf i) = some i ∨ ∀ d ∈ ix.definitionsOf i, d.passage = p ∧ d.isLocal = true

/-- Whether a passage holds the global variable of a name. -/
def Shares (ix : VariableIndex) (passage : PassageId) (name : String) : Prop :=
  ∃ i ∈ ix.own passage, ix.global? name = some i

namespace Sound

variable {ix new : VariableIndex} {latest : PassageId → Option (List Definition)} {passage : PassageId}
  {ds : List Definition}

theorem empty : Sound .empty fun _ => none where
  keyed := ⟨by simp [VariableIndex.empty], by simp [VariableIndex.empty], by simp [VariableIndex.empty]⟩
  scanned := by simp [VariableIndex.empty, locals?]
  tagged := by simp
  made := by simp [VariableIndex.empty, locals?, own]
  names := by simp [VariableIndex.empty, locals?, own]
  found := by simp [VariableIndex.empty, locals?, own]
  definitions := by simp [VariableIndex.empty, locals?, own, definitionsOf, object?]
  defined := by simp [VariableIndex.empty, global?]
  shared := by simp
  apart := by simp [VariableIndex.empty, locals?, own]

theorem mem_own_iff (h : Sound ix latest) {p : PassageId} {i : VariableId} :
    i ∈ ix.own p ↔ ∃ d ∈ ix.definitionsOf i, d.passage = p := by
  have hd := h.definitions p i
  constructor
  · intro hi
    obtain ⟨d, hm, hn⟩ := (h.found p _).1 ⟨i, hi, rfl⟩
    have : d ∈ (ix.definitionsOf i).filter (·.passage = p) := by
      rw [hd, if_pos hi]
      simp [hm, hn]
    exact ⟨d, List.mem_of_mem_filter this, by simpa using List.of_mem_filter this⟩
  · rintro ⟨d, hm, hp⟩
    by_contra hi
    rw [if_neg hi, List.filter_eq_nil_iff] at hd
    exact hd d hm (by simp [hp])

private theorem made_of_definition (h : Sound ix latest) {i : VariableId} {d : Definition}
    (hd : d ∈ ix.definitionsOf i) :
    ix.Made i :=
  h.made d.passage i (h.mem_own_iff.2 ⟨d, hd, rfl⟩)

/-! A scan of `passage` that finds `ds`: what becomes of the definitions of this and of the other
passages. -/

theorem definitions_eq (h : Sound ix latest) (hr : Rescanned ix passage ds new) (i : VariableId) :
    new.definitionsOf i = (ix.definitionsOf i).filter (·.passage ≠ passage) ++
      if i ∈ new.own passage then ds.filter (·.name = new.nameOf i) else [] := by
  rw [hr.definitions]
  split
  · rfl
  · rename_i hi
    congr 1
    symm
    rw [List.filter_eq_self]
    intro d hd
    have : d.passage ≠ passage := fun hp => hi (h.mem_own_iff.2 ⟨d, hd, hp⟩)
    simp [this]

private theorem own_of_ne (hr : Rescanned ix passage ds new) {q : PassageId} (hq : q ≠ passage) :
    new.own q = ix.own q := by
  unfold own
  rw [hr.locals, if_neg hq]

private theorem definitions_of_self (h : Sound ix latest) (hr : Rescanned ix passage ds new)
    (ht : ∀ d ∈ ds, d.passage = passage) (i : VariableId) :
    (new.definitionsOf i).filter (·.passage = passage) =
      if i ∈ new.own passage then ds.filter (·.name = new.nameOf i) else [] := by
  have h1 : ((ix.definitionsOf i).filter (·.passage ≠ passage)).filter (·.passage = passage) = [] := by
    simp [List.filter_filter]
  rw [h.definitions_eq hr, List.filter_append, h1, List.nil_append]
  split
  · rw [List.filter_eq_self]
    intro d hd
    simp [ht d (List.mem_of_mem_filter hd)]
  · rfl

private theorem definitions_of_ne (h : Sound ix latest) (hr : Rescanned ix passage ds new)
    (ht : ∀ d ∈ ds, d.passage = passage) {q : PassageId} (hq : q ≠ passage) (i : VariableId) :
    (new.definitionsOf i).filter (·.passage = q) = (ix.definitionsOf i).filter (·.passage = q) := by
  have h2 : (if i ∈ new.own passage then ds.filter (·.name = new.nameOf i)
    else []).filter (·.passage = q) = [] := by
    rw [List.filter_eq_nil_iff]
    intro d hd hdq
    split at hd
    · have := ht d (List.mem_of_mem_filter hd)
      simp only [decide_eq_true_eq] at hdq
      exact hq (hdq.symm.trans this)
    · simp at hd
  rw [h.definitions_eq hr, List.filter_append, h2, List.append_nil, List.filter_filter]
  apply List.filter_congr
  intro d _
  by_cases hd : d.passage = q
  · simp [hd, hq]
  · simp [hd]

private theorem defined_of_found (h : Sound ix latest) (hr : Rescanned ix passage ds new) {i : VariableId}
    (hi : i ∈ new.own passage) : new.definitionsOf i ≠ [] := by
  obtain ⟨d, hd, hn⟩ := (hr.found _).1 ⟨i, hi, rfl⟩
  have : d ∈ ds.filter (·.name = new.nameOf i) := by simp [hd, hn]
  rw [h.definitions_eq hr, if_pos hi]
  exact List.append_ne_nil_of_right_ne_nil _ (List.ne_nil_of_mem this)

private theorem defined_of_ne (h : Sound ix latest) (hr : Rescanned ix passage ds new)
    (ht : ∀ d ∈ ds, d.passage = passage) {q : PassageId} (hq : q ≠ passage) {i : VariableId}
    (hi : i ∈ ix.own q) :
    new.definitionsOf i ≠ [] := by
  obtain ⟨d, hd, hp⟩ := h.mem_own_iff.1 hi
  have : d ∈ (new.definitionsOf i).filter (·.passage = q) := by
    rw [h.definitions_of_ne hr ht hq]
    simp [hd, hp]
  exact List.ne_nil_of_mem (List.mem_of_mem_filter this)

/-- A global variable with a definition in another passage, or one that the scan found, stays global. -/
private theorem global_of_defined (hr : Rescanned ix passage ds new) {x : String} {i : VariableId}
    (hg : ix.global? x = some i) (hd : new.definitionsOf i ≠ []) : new.global? x = some i :=
  (hr.globals x i).2 (.inl ⟨hg, fun _ => hd⟩)

private theorem defined_reset (h : Sound ix latest) (hr : Rescanned ix passage ds new) (x : String)
    (i : VariableId) (hg : new.global? x = some i) : new.definitionsOf i ≠ [] := by
  rcases (hr.globals x i).1 hg with ⟨hx, ho⟩ | ⟨hi, -⟩
  · by_cases hi : i ∈ ix.own passage
    · exact ho hi
    · rw [hr.definitions, if_neg hi]
      exact List.append_ne_nil_of_left_ne_nil (h.defined x i hx) _
  · exact h.defined_of_found hr hi

private theorem shared_self (hr : Rescanned ix passage ds new) {d : Definition} (hd : d ∈ ds)
    (hl : d.isLocal = false) :
    ∃ i ∈ new.own passage, new.nameOf i = d.name ∧ new.global? d.name = some i := by
  obtain ⟨i, hi, hn⟩ := (hr.found _).2 ⟨d, hd, rfl⟩
  exact ⟨i, hi, hn, (hr.globals _ i).2 (.inr ⟨hi, hn, d, hd, rfl, hl⟩)⟩

private theorem shared_ne (h : Sound ix latest) (hr : Rescanned ix passage ds new)
    (ht : ∀ d ∈ ds, d.passage = passage) {q : PassageId} (hq : q ≠ passage) {d : Definition}
    (hd : d ∈ (latest q).getD []) (hl : d.isLocal = false) :
    ∃ i ∈ new.own q, new.nameOf i = d.name ∧ new.global? d.name = some i := by
  obtain ⟨i, hi, hn, hg⟩ := h.shared q d hd hl
  rw [own_of_ne hr hq, ← hn]
  exact ⟨i, hi, hr.nameOf i (h.made q i hi), global_of_defined hr (hn ▸ hg) (h.defined_of_ne hr ht hq hi)⟩

private theorem apart_self (h : Sound ix latest) (hr : Rescanned ix passage ds new)
    (ht : ∀ d ∈ ds, d.passage = passage) {i : VariableId} (hi : i ∈ new.own passage) :
    new.global? (new.nameOf i) = some i ∨
      ∀ d ∈ new.definitionsOf i, d.passage = passage ∧ d.isLocal = true := by
  by_cases hshare : ∃ d ∈ ds, d.name = new.nameOf i ∧ d.isLocal = false
  · exact .inl ((hr.globals _ i).2 (.inr ⟨hi, rfl, hshare⟩))
  rcases hr.source i hi with hg | hold
  · exact .inl (global_of_defined hr hg (h.defined_of_found hr hi))
  by_cases hg : ix.global? (new.nameOf i) = some i
  · exact .inl (global_of_defined hr hg (h.defined_of_found hr hi))
  right
  -- nothing of another passage is left with a variable that was never global
  have hnil : (ix.definitionsOf i).filter (·.passage ≠ passage) = [] := by
    rw [List.filter_eq_nil_iff]
    intro d hd
    rcases hold with ho | hm
    · have hname := hr.nameOf i (h.made passage i ho)
      rcases h.apart passage i ho with hg' | hall
      · exact absurd (hname ▸ hg') hg
      · simp [(hall d hd).1]
    · exact absurd (h.made_of_definition hd) hm.1
  intro d hd
  rw [h.definitions_eq hr, hnil, List.nil_append, if_pos hi] at hd
  have hm := List.mem_of_mem_filter hd
  refine ⟨ht d hm, ?_⟩
  by_contra hl
  exact hshare ⟨d, hm, by simpa using List.of_mem_filter hd, by simpa using hl⟩

private theorem apart_ne (h : Sound ix latest) (hr : Rescanned ix passage ds new)
    (ht : ∀ d ∈ ds, d.passage = passage) {q : PassageId} (hq : q ≠ passage) {i : VariableId}
    (hi : i ∈ ix.own q) :
    new.global? (new.nameOf i) = some i ∨
      ∀ d ∈ new.definitionsOf i, d.passage = q ∧ d.isLocal = true := by
  have hmade := h.made q i hi
  have hname := hr.nameOf i hmade
  have hdef := h.defined_of_ne hr ht hq hi
  rcases h.apart q i hi with hg | hall
  · exact .inl (global_of_defined hr (hname ▸ hg) hdef)
  -- the scan could only have found a variable of `q` alone if that were its own or a new one
  by_cases hn : i ∈ new.own passage
  · rcases hr.source i hn with hg | ho | hm
    · exact .inl (global_of_defined hr hg hdef)
    · obtain ⟨d, hd, hp⟩ := h.mem_own_iff.1 ho
      exact absurd ((hall d hd).1.symm.trans hp) hq
    · exact absurd hmade hm.1
  · right
    intro d hd
    rw [h.definitions_eq hr, if_neg hn, List.append_nil] at hd
    exact hall d (List.mem_of_mem_filter hd)

/-! ### Global names -/

theorem global_iff_shares (h : Sound ix latest) {x : String} :
    (ix.global? x).isSome ↔ ∃ p, ix.Shares p x := by
  constructor
  · intro hg
    obtain ⟨i, hi⟩ := Option.isSome_iff_exists.1 hg
    obtain ⟨d, hd⟩ := List.exists_mem_of_ne_nil _ (h.defined x i hi)
    exact ⟨d.passage, i, h.mem_own_iff.2 ⟨d, hd, rfl⟩, hi⟩
  · rintro ⟨p, i, -, hi⟩
    simp [hi]

/-- After a scan the passage shares what it defines for all, and what it defines at all if the name was
global. -/
theorem shares_self (h : Sound ix latest) (hr : Rescanned ix passage ds new) (x : String) :
    new.Shares passage x ↔
      ∃ d ∈ ds, d.name = x ∧ ((∃ e ∈ ds, e.name = x ∧ e.isLocal = false) ∨ (ix.global? x).isSome) := by
  constructor
  · rintro ⟨i, hi, hg⟩
    obtain ⟨d, hd, hn⟩ := (hr.found x).1 ⟨i, hi, hr.keyed.nameOf_global hg⟩
    refine ⟨d, hd, hn, ?_⟩
    rcases (hr.globals x i).1 hg with ⟨hx, -⟩ | ⟨-, -, he⟩
    · exact .inr (by simp [hx])
    · exact .inl he
  · rintro ⟨d, hd, rfl, hshare⟩
    obtain ⟨i, hi, hn⟩ := (hr.found d.name).2 ⟨d, hd, rfl⟩
    refine ⟨i, hi, ?_⟩
    rcases hshare with he | hg
    · exact (hr.globals _ i).2 (.inr ⟨hi, hn, he⟩)
    · obtain ⟨g, hg⟩ := Option.isSome_iff_exists.1 hg
      obtain rfl := hr.agree i hi g (hn ▸ hg)
      exact global_of_defined hr hg (h.defined_of_found hr hi)

theorem shares_ne (h : Sound ix latest) (hr : Rescanned ix passage ds new)
    (ht : ∀ d ∈ ds, d.passage = passage) {q : PassageId} (hq : q ≠ passage) (x : String) :
    new.Shares q x ↔ ix.Shares q x := by
  unfold Shares
  rw [own_of_ne hr hq]
  refine exists_congr fun i => and_congr_right fun hi => ⟨fun hg => ?_, fun hg => ?_⟩
  · have hx : ix.nameOf i = x := (hr.nameOf i (h.made q i hi)).symm.trans (hr.keyed.nameOf_global hg)
    rcases (hr.globals x i).1 hg with ⟨hx, -⟩ | ⟨hn, -, -⟩
    · exact hx
    · rcases hr.source i hn with hs | ho | hm
      · rwa [hr.keyed.nameOf_global hg] at hs
      · -- a variable of two passages is a global one
        obtain ⟨d, hd, hp⟩ := h.mem_own_iff.1 ho
        rcases h.apart q i hi with hg' | hall
        · exact hx ▸ hg'
        · exact absurd ((hall d hd).1.symm.trans hp) hq
      · exact absurd (h.made q i hi) hm.1
  · exact global_of_defined hr hg (h.defined_of_ne hr ht hq hi)

/-! ### Keeping it -/

/-- Of a passage that was not scanned, all stays as it was; the one that was has what the scan found. -/
theorem rescanned (h : Sound ix latest) (hr : Rescanned ix passage ds new)
    (ht : ∀ d ∈ ds, d.passage = passage) :
    Sound new (Function.update latest passage (some ds)) where
  keyed := hr.keyed
  scanned q := by
    by_cases hq : q = passage
    · subst hq
      simp [hr.locals]
    · rw [hr.locals, if_neg hq, Function.update_of_ne hq, h.scanned]
  tagged q := by
    by_cases hq : q = passage
    · subst hq
      simpa using ht
    · rw [Function.update_of_ne hq]
      exact h.tagged q
  made q i hi := by
    by_cases hq : q = passage
    · subst hq
      exact hr.made i hi
    · rw [own_of_ne hr hq] at hi
      exact hr.made_of i (h.made q i hi)
  names q := by
    by_cases hq : q = passage
    · subst hq
      exact hr.names
    · rw [own_of_ne hr hq, List.map_congr_left fun i hi => hr.nameOf i (h.made q i hi)]
      exact h.names q
  found q x := by
    by_cases hq : q = passage
    · subst hq
      simpa using hr.found x
    · rw [own_of_ne hr hq, Function.update_of_ne hq, ← h.found q x]
      exact exists_congr fun i => and_congr_right fun hi => by rw [hr.nameOf i (h.made q i hi)]
  definitions q i := by
    by_cases hq : q = passage
    · subst hq
      simpa using h.definitions_of_self hr ht i
    · rw [h.definitions_of_ne hr ht hq, own_of_ne hr hq, Function.update_of_ne hq, h.definitions]
      split
      · rw [hr.nameOf i (h.made q i ‹_›)]
      · rfl
  defined := h.defined_reset hr
  shared q d hd hl := by
    by_cases hq : q = passage
    · subst hq
      rw [Function.update_self] at hd
      exact shared_self hr hd hl
    · rw [Function.update_of_ne hq] at hd
      exact h.shared_ne hr ht hq hd hl
  apart q i hi := by
    by_cases hq : q = passage
    · subst hq
      exact h.apart_self hr ht hi
    · rw [own_of_ne hr hq] at hi
      exact h.apart_ne hr ht hq hi

theorem reset (h : Sound ix latest) (passage : PassageId) (passageName : String) (tokens : List Token) :
    Sound (ix.resetPassage passage passageName tokens)
      (Function.update latest passage (some (definitionsIn passage passageName tokens))) :=
  h.rescanned (rescanned_resetPassage h.keyed (h.made passage) passageName tokens)
    fun _ hd => passage_of_mem_definitionsIn hd

private theorem locals?_forget (ix : VariableIndex) (passage q : PassageId) :
    ({ ix with locals := ix.locals.filter (·.1 ≠ passage) } : VariableIndex).locals? q =
      if q = passage then none else ix.locals? q :=
  lookup_filter_ne ix.locals passage q

private theorem own_forget (h : Sound ix latest) (hn : (latest passage).getD [] = []) (q : PassageId) :
    ({ ix with locals := ix.locals.filter (·.1 ≠ passage) } : VariableIndex).own q = ix.own q := by
  rw [own, locals?_forget]
  split
  · subst q
    symm
    rw [Option.getD_none, List.eq_nil_iff_forall_not_mem]
    intro i hi
    have := (h.found passage _).1 ⟨i, hi, rfl⟩
    simp [hn] at this
  · rfl

/-- Only the definitions that are listed count, so a passage that has none may be taken off the list. -/
private theorem forget (h : Sound ix latest) (hn : (latest passage).getD [] = []) :
    Sound { ix with locals := ix.locals.filter (·.1 ≠ passage) }
    (Function.update latest passage none) := by
  have hown := h.own_forget hn
  have hlatest : ∀ q, (Function.update latest passage none q).getD [] = (latest q).getD [] := by
    intro q
    by_cases hq : q = passage
    · subst hq
      simp [hn]
    · rw [Function.update_of_ne hq]
  exact
    { keyed := ⟨h.keyed.nodup, h.keyed.made, h.keyed.name⟩
      scanned := fun q => by
        rw [locals?_forget]
        by_cases hq : q = passage
        · subst hq
          simp
        · rw [if_neg hq, Function.update_of_ne hq, h.scanned]
      tagged := fun q d hd => h.tagged q d (hlatest q ▸ hd)
      made := fun q i hi => h.made q i (hown q ▸ hi)
      names := fun q => (hown q).symm ▸ h.names q
      found := fun q x => by
        rw [hown, hlatest]
        exact h.found q x
      definitions := fun q i => by
        rw [hown, hlatest]
        exact h.definitions q i
      defined := h.defined
      shared := fun q d hd hl => by
        rw [hown]
        exact h.shared q d (hlatest q ▸ hd) hl
      apart := fun q i hi => h.apart q i (hown q ▸ hi) }

/-- A scan without tokens finds nothing. -/
private theorem latest_reset_nil (latest : PassageId → Option (List Definition)) (passage : PassageId)
    (passageName : String) :
    (Function.update latest passage (some (definitionsIn passage passageName [])) passage).getD [] =
      [] := by
  simp [definitionsIn]

theorem remove (h : Sound ix latest) (passage : PassageId) (passageName : String) :
    Sound (ix.removePassage passage passageName) (Function.update latest passage none) := by
  have := (h.reset passage passageName []).forget (latest_reset_nil latest passage passageName)
  rwa [Function.update_idem] at this

theorem shares_reset (h : Sound ix latest) (passage : PassageId) (passageName : String)
    (tokens : List Token) (q : PassageId) (x : String) :
    (ix.resetPassage passage passageName tokens).Shares q x ↔
      if q = passage then
        ∃ d ∈ definitionsIn passage passageName tokens, d.name = x ∧
          ((∃ e ∈ definitionsIn passage passageName tokens, e.name = x ∧ e.isLocal = false) ∨
            ∃ r, ix.Shares r x)
      else ix.Shares q x := by
  have hr := rescanned_resetPassage h.keyed (h.made passage) passageName tokens
  split
  · subst q
    rw [h.shares_self hr, h.global_iff_shares]
  · exact h.shares_ne hr (fun _ hd => passage_of_mem_definitionsIn hd) ‹_› x

theorem shares_remove (h : Sound ix latest) (passage : PassageId) (passageName : String) (q : PassageId)
    (x : String) : (ix.removePassage passage passageName).Shares q x ↔ q ≠ passage ∧ ix.Shares q x := by
  have hown := (h.reset passage passageName []).own_forget (latest_reset_nil latest passage passageName) q
  have hremove : (ix.removePassage passage passageName).Shares q x ↔
      (ix.resetPassage passage passageName []).Shares q x := by
    unfold removePassage Shares
    rw [hown]
    rfl
  rw [hremove, h.shares_reset]
  split <;> simp_all [definitionsIn]

end Sound

end PassageEditor.VariableIndex
