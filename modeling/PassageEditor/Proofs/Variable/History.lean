import Mathlib.Algebra.BigOperators.Group.List.Basic
import Mathlib.Data.List.Induction
import PassageEditor.Proofs.Variable.Sound

/-!
# The index after every history

A history is any sequence of scans and removals, for any passages in any order.  Two things are told of
the index it leaves.  The definitions of a passage, over all objects ever made, are those of its latest
scan (`definitions_of_latest_scan`).  A name is global where a passage shares it (`global_iff_shared`),
and a passage shares what it defines for all, as well as what it defined for itself when the name was
global.
-/

namespace PassageEditor.VariableIndex

inductive Op
  | reset (passage : PassageId) (passageName : String) (tokens : List Token)
  | remove (passage : PassageId) (passageName : String)

namespace Op

def passage : Op → PassageId
  | reset passage _ _ => passage
  | remove passage _ => passage

/-- What a scan finds; nothing is found where a passage is removed. -/
def found? : Op → Option (List Definition)
  | reset passage passageName tokens => some (definitionsIn passage passageName tokens)
  | remove _ _ => none

def apply (ix : VariableIndex) : Op → VariableIndex
  | reset passage passageName tokens => ix.resetPassage passage passageName tokens
  | remove passage passageName => ix.removePassage passage passageName

/-- What each passage shares after a scan or a removal, by what was shared before. -/
def share (shared : PassageId → String → Prop) : Op → PassageId → String → Prop
  | reset passage passageName tokens =>
    let found := definitionsIn passage passageName tokens
    Function.update shared passage fun x =>
      ∃ d ∈ found, d.name = x ∧ ((∃ e ∈ found, e.name = x ∧ e.isLocal = false) ∨ ∃ q, shared q x)
  | remove passage _ => Function.update shared passage fun _ => False

end Op

/-- The index after some scans and removals. -/
def run (ops : List Op) : VariableIndex := ops.foldl Op.apply .empty

theorem run_append (ops : List Op) (op : Op) : run (ops ++ [op]) = op.apply (run ops) := by
  simp [run]

/-- The definitions of the latest scan of a passage, if it was not removed since. -/
def latest (ops : List Op) (passage : PassageId) : Option (List Definition) :=
  (ops.reverse.find? (·.passage = passage)).bind Op.found?

private theorem latest_append (ops : List Op) (op : Op) :
    latest (ops ++ [op]) = Function.update (latest ops) op.passage op.found? := by
  funext p
  unfold latest
  rw [List.reverse_append, List.reverse_singleton, List.singleton_append, List.find?_cons]
  by_cases hp : op.passage = p
  · subst hp
    simp
  · rw [Function.update_of_ne (Ne.symm hp)]
    simp [hp]

theorem sound_run (ops : List Op) : Sound (run ops) (latest ops) := by
  induction ops using List.reverseRecOn with
  | nil => exact Sound.empty
  | append_singleton ops op ih =>
    rw [run_append, latest_append]
    cases op with
    | reset passage passageName tokens => exact ih.reset passage passageName tokens
    | remove passage passageName => exact ih.remove passage passageName

/-! ### Global names -/

/-- Whether a passage shares a name after some scans and removals: it defines it for all, or it defines it
for itself and some passage shared it when this one was scanned. -/
def Shared (ops : List Op) : PassageId → String → Prop := ops.foldl Op.share fun _ _ => False

private theorem shares_run (ops : List Op) (p : PassageId) (x : String) :
    (run ops).Shares p x ↔ Shared ops p x := by
  induction ops using List.reverseRecOn generalizing p x with
  | nil => simp [run, Shared, Shares, VariableIndex.empty, own, locals?]
  | append_singleton ops op ih =>
    have hstep : Shared (ops ++ [op]) = op.share (Shared ops) := by simp [Shared]
    rw [run_append, hstep]
    cases op with
    | reset passage passageName tokens =>
      simp only [Op.apply, Op.share, (sound_run ops).shares_reset, Function.update_apply, ih]
      split <;> rfl
    | remove passage passageName =>
      simp only [Op.apply, Op.share, (sound_run ops).shares_remove, Function.update_apply, ih]
      split <;> simp_all

theorem global_iff_shared (ops : List Op) (x : String) :
    ((run ops).global? x).isSome ↔ ∃ p, Shared ops p x := by
  rw [(sound_run ops).global_iff_shares]
  exact exists_congr fun p => shares_run ops p x

/-! ### The definitions of a passage -/

section Definitions

variable {ix : VariableIndex} {latest : PassageId → Option (List Definition)}

private theorem Sound.name_of_definition (h : Sound ix latest) {i : VariableId} {d : Definition}
    (hd : d ∈ ix.definitionsOf i) : d.name = ix.nameOf i := by
  have hm : d ∈ (ix.definitionsOf i).filter (·.passage = d.passage) := by simp [hd]
  rw [h.definitions] at hm
  split at hm
  · simpa using List.of_mem_filter hm
  · simp at hm

private theorem flatMap_objects (ix : VariableIndex) :
    ix.objects.flatMap (·.definitions) = (List.range ix.objects.length).flatMap fun k =>
      ix.definitionsOf ⟨k⟩ := by
  have hget : ix.objects = (List.range ix.objects.length).map fun k =>
      (ix.objects[k]?).getD ⟨"", []⟩ := by
    apply List.ext_getElem (by simp)
    intro k hk _
    simp [List.getElem?_eq_getElem hk]
  conv_lhs => rw [hget, List.flatMap_map]
  apply List.flatMap_congr
  intro k hk
  rw [List.mem_range] at hk
  simp [definitionsOf, object?, List.getElem?_eq_getElem hk]

/-- Over all objects, a definition of a passage is there as often as its latest scan has it. -/
theorem Sound.definitions_perm (h : Sound ix latest) (p : PassageId) :
    ((ix.objects.flatMap (·.definitions)).filter (·.passage = p)).Perm ((latest p).getD []) := by
  rw [List.perm_iff_count]
  intro d
  rw [flatMap_objects, List.filter_flatMap, List.count_flatMap]
  -- the one variable of its name that `p` lists has all of them
  have hcount : ∀ k, List.count d ((ix.definitionsOf ⟨k⟩).filter (·.passage = p)) =
      if ⟨k⟩ ∈ ix.own p ∧ ix.nameOf ⟨k⟩ = d.name then List.count d ((latest p).getD []) else 0 := by
    intro k
    rw [h.definitions]
    by_cases hk : ⟨k⟩ ∈ ix.own p
    · by_cases hn : ix.nameOf ⟨k⟩ = d.name
      · rw [if_pos hk, if_pos ⟨hk, hn⟩, List.count_filter (by simp [hn])]
      · rw [if_pos hk, if_neg (fun hc => hn hc.2), List.count_eq_zero]
        intro hm
        exact hn (by simpa [eq_comm] using List.of_mem_filter hm)
    · rw [if_neg hk, if_neg (fun hc => hk hc.1), List.count_nil]
  by_cases hd : d ∈ (latest p).getD []
  · obtain ⟨i, hi, hn⟩ := (h.found p d.name).2 ⟨d, hd, rfl⟩
    have hlt : i.value ∈ List.range ix.objects.length := List.mem_range.2 (h.made p i hi)
    rw [List.sum_map_eq_nsmul_single i.value, List.count_eq_one_of_mem List.nodup_range hlt, one_nsmul,
      Function.comp_apply, hcount, if_pos ⟨hi, hn⟩]
    intro k hk _
    rw [Function.comp_apply, hcount, if_neg]
    rintro ⟨hm, hkn⟩
    have : (⟨k⟩ : VariableId) = i := List.inj_on_of_nodup_map (h.names p) hm hi (hkn.trans hn.symm)
    exact hk (this ▸ rfl)
  · have hzero : List.count d ((latest p).getD []) = 0 := List.count_eq_zero.2 hd
    rw [hzero, List.sum_eq_zero]
    intro n hn
    obtain ⟨k, -, rfl⟩ := List.mem_map.1 hn
    simp [hcount, hzero]

end Definitions

/-- The definitions of a passage, over all objects, are those of its latest scan, each once and with the
variable of its name, in the order of the tokens; and the passage lists just the variables that have some
of them. -/
theorem definitions_of_latest_scan (ops : List Op) (p : PassageId) :
    let ix := run ops
    let found := (latest ops p).getD []
    ((ix.objects.flatMap (·.definitions)).filter (·.passage = p)).Perm found ∧
      (∀ i, ∀ d ∈ ix.definitionsOf i, d.name = ix.nameOf i) ∧
      (∀ i, ((ix.definitionsOf i).filter (·.passage = p)).Sublist found) ∧
      (∀ i, i ∈ ix.own p ↔ ∃ d ∈ ix.definitionsOf i, d.passage = p) ∧
      (∀ i ∈ ix.own p, (ix.definitionsOf i).filter (·.passage = p) =
        found.filter (·.name = ix.nameOf i)) ∧
      (ix.own p).Nodup ∧ ((ix.own p).map ix.nameOf).Nodup ∧ (ix.isScanned p = (latest ops p).isSome) := by
  have h := sound_run ops
  refine ⟨h.definitions_perm p, fun i d hd => h.name_of_definition hd, fun i => ?_,
    fun i => h.mem_own_iff,
    fun i hi => ?_, (h.names p).of_map, h.names p, h.scanned p⟩
  · rw [h.definitions p i]
    split
    · exact List.filter_sublist
    · exact List.nil_sublist _
  · rw [h.definitions p i, if_pos hi]

end PassageEditor.VariableIndex
