import Mathlib.Data.List.Dedup
import Mathlib.Data.String.Basic
import PassageEditor.Proofs.Variable.Natives

/-!
# The names that a passage sees

Names are in a total order, so what a passage sees depends on sets of names alone: which names the passage
defines, and which ones are global (`Sound.visibleNames_eq`).  The objects behind the names, and the order
in which they came, leave no trace in it.  After any history it comes in three parts, each of them
strictly sorted: what the latest scan of the passage has found, the global names besides, and the names
built into the format (`visibleNames_of_run`).
-/

namespace PassageEditor.VariableIndex

/-! ### The order of names -/

private theorem nameLe_iff {a b : String} :
    nameLe a b ↔ Text.lower a < Text.lower b ∨ Text.lower a = Text.lower b ∧ a ≤ b := by
  simp [nameLe]

private theorem nameLe_total (a b : String) : nameLe a b || nameLe b a := by
  rw [Bool.or_eq_true, nameLe_iff, nameLe_iff]
  rcases lt_trichotomy (Text.lower a) (Text.lower b) with h | h | h
  · exact .inl (.inl h)
  · exact (le_total a b).imp (fun hab => .inr ⟨h, hab⟩) fun hba => .inr ⟨h.symm, hba⟩
  · exact .inr (.inl h)

private theorem nameLe_trans (a b c : String) (hab : nameLe a b) (hbc : nameLe b c) : nameLe a c := by
  rw [nameLe_iff] at *
  rcases hab with hab | ⟨hab, h1⟩
  · rcases hbc with hbc | ⟨hbc, -⟩
    · exact .inl (hab.trans hbc)
    · exact .inl (hbc ▸ hab)
  · rcases hbc with hbc | ⟨hbc, h2⟩
    · exact .inl (hab ▸ hbc)
    · exact .inr ⟨hab.trans hbc, h1.trans h2⟩

private theorem nameLe_antisymm {a b : String} (hab : nameLe a b) (hba : nameLe b a) : a = b := by
  rw [nameLe_iff] at *
  rcases hab with hab | ⟨hab, h1⟩
  · rcases hba with hba | ⟨hba, -⟩
    · exact absurd (hab.trans hba) (lt_irrefl _)
    · exact absurd hab (by rw [hba]; exact lt_irrefl _)
  · rcases hba with hba | ⟨-, h2⟩
    · exact absurd hba (by rw [hab]; exact lt_irrefl _)
    · exact le_antisymm h1 h2

/-- Some names by lower case first. -/
def sortNames (names : List String) : List String := names.mergeSort nameLe

private theorem mem_sortNames {names : List String} {x : String} : x ∈ sortNames names ↔ x ∈ names := by
  simp [sortNames]

private theorem pairwise_sortNames (names : List String) :
    (sortNames names).Pairwise fun a b => nameLe a b :=
  List.pairwise_mergeSort nameLe_trans nameLe_total names

private theorem sortNames_eq_of_perm {names others : List String} (h : names.Perm others) :
    sortNames names = sortNames others := by
  refine List.Perm.eq_of_pairwise (fun _ _ _ _ => nameLe_antisymm) (pairwise_sortNames names)
    (pairwise_sortNames others) ?_
  exact (List.mergeSort_perm names nameLe).trans (h.trans (List.mergeSort_perm others nameLe).symm)

/-- Names that are there once each are sorted the same if they are the same names. -/
theorem sortNames_eq_of_mem_iff {names others : List String} (h : names.Nodup) (h' : others.Nodup)
    (hmem : ∀ x, x ∈ names ↔ x ∈ others) : sortNames names = sortNames others :=
  sortNames_eq_of_perm ((List.perm_ext_iff_of_nodup h h').2 hmem)

theorem filter_sortNames (p : String → Bool) (names : List String) :
    (sortNames names).filter p = sortNames (names.filter p) := by
  refine List.Perm.eq_of_pairwise (fun _ _ _ _ => nameLe_antisymm) ((pairwise_sortNames names).filter p)
    (pairwise_sortNames (names.filter p)) ?_
  exact ((List.mergeSort_perm names nameLe).filter p).trans
    (List.mergeSort_perm (names.filter p) nameLe).symm

private theorem map_sortByName (ix : VariableIndex) (ids : List VariableId) :
    (ix.sortByName ids).map ix.nameOf = sortNames (ids.map ix.nameOf) :=
  List.map_mergeSort fun _ _ _ _ => rfl

/-! ### What a passage sees -/

section Visible

variable {ix : VariableIndex} {latest : PassageId → Option (List Definition)}
  {p : PassageId} {ds : List Definition}

/-- The names of some definitions, each once, in their order. -/
def namesOf (ds : List Definition) : List String := sortNames (ds.map (·.name)).dedup

private theorem mem_namesOf {ds : List Definition} {x : String} :
    x ∈ namesOf ds ↔ ∃ d ∈ ds, d.name = x := by
  simp [namesOf, mem_sortNames]

/-- The names of the global variables. -/
def globalNames (ix : VariableIndex) : List String := ix.globals.map (·.1)

theorem mem_globalNames {ix : VariableIndex} {x : String} :
    x ∈ ix.globalNames ↔ (ix.global? x).isSome := by
  rw [globalNames, global?, List.lookup_isSome_iff, List.mem_map]
  exact exists_congr fun e => and_congr_right fun _ => by rw [beq_iff_eq, eq_comm]

/-- The names built into the format, in their order. -/
def nativeNames (ix : VariableIndex) : List String := sortNames (ix.natives.map fun e => ix.nameOf e.2)

private theorem names_own (h : Sound ix latest) (hp : latest p = some ds) :
    sortNames ((ix.own p).map ix.nameOf) = namesOf ds := by
  refine sortNames_eq_of_mem_iff (h.names p) (List.nodup_dedup _) fun x => ?_
  have := h.found p x
  rw [hp, Option.getD_some] at this
  simp [this]

private theorem names_others (h : Sound ix latest) (hp : latest p = some ds) :
    sortNames (((ix.globals.map (·.2)).filter fun id =>
      (ix.named? (ix.own p) (ix.nameOf id)).isNone).map ix.nameOf) =
      sortNames (ix.globalNames.filter (· ∉ namesOf ds)) := by
  congr 1
  rw [globalNames, List.filter_map, List.filter_map, List.map_map]
  have hfilter : ix.globals.filter ((fun id => (ix.named? (ix.own p) (ix.nameOf id)).isNone) ∘ (·.2)) =
      ix.globals.filter ((fun x => decide (x ∉ namesOf ds)) ∘ (·.1)) := by
    apply List.filter_congr
    intro e he
    have hfound := h.found p e.1
    rw [hp, Option.getD_some] at hfound
    rw [Function.comp_apply, Function.comp_apply, h.keyed.name e he, Bool.eq_iff_iff,
      Option.isNone_iff_eq_none,
      named?_eq_none, decide_eq_true_eq, mem_namesOf, ← hfound]
    simp
  rw [hfilter]
  exact List.map_congr_left fun e he => h.keyed.name e (List.mem_of_mem_filter he)

/-- A passage sees its own names, then the global ones that it does not define, then the ones built in. -/
theorem Sound.visibleNames_eq (h : Sound ix latest) (hp : latest p = some ds) :
    ix.visibleNames p =
      .ok (namesOf ds ++ sortNames (ix.globalNames.filter (· ∉ namesOf ds)) ++ ix.nativeNames) := by
  have hl : ix.locals? p = some (ix.own p) := by
    have := h.scanned p
    rw [hp, Option.isSome_some] at this
    obtain ⟨ids, hids⟩ := Option.isSome_iff_exists.1 this
    simp [own, hids]
  have hnative : (ix.sortByName (ix.natives.map (·.2))).map ix.nameOf = ix.nativeNames := by
    rw [map_sortByName, List.map_map]
    rfl
  unfold visibleNames visible
  rw [hl]
  simp only [Except.map, List.map_append, hnative, map_sortByName]
  rw [names_own h hp, names_others h hp]

/-- A passage that is not scanned sees nothing. -/
private theorem Sound.visibleNames_of_unscanned (h : Sound ix latest) (hp : latest p = none) :
    ix.visibleNames p = .error (.notScanned p) := by
  have hlocals : ix.locals? p = none := by
    have hscanned := h.scanned p
    rw [hp] at hscanned
    exact Option.not_isSome_iff_eq_none.1 (by simp [hscanned])
  unfold visibleNames visible
  rw [hlocals]
  rfl

private theorem Sound.visibleNames_eq_error_iff (h : Sound ix latest) :
    (∃ e, ix.visibleNames p = .error e) ↔ latest p = none := by
  constructor
  · rintro ⟨e, he⟩
    cases hl : latest p with
    | none => rfl
    | some ds =>
      rw [h.visibleNames_eq hl] at he
      simp at he
  · intro hnone
    exact ⟨_, h.visibleNames_of_unscanned hnone⟩

end Visible

/-! ### After every history -/

/-- By lower case first, and strictly. -/
def NameLt (a b : String) : Prop := Text.lower a < Text.lower b ∨ Text.lower a = Text.lower b ∧ a < b

private theorem nameLt_of_nameLe {a b : String} (hle : nameLe a b) (hne : a ≠ b) : NameLt a b := by
  rcases nameLe_iff.1 hle with hlower | ⟨hlower, hab⟩
  · exact .inl hlower
  · have hlt : a < b := lt_of_le_of_ne hab hne
    exact .inr ⟨hlower, hlt⟩

private theorem nodup_sortNames {names : List String} (h : names.Nodup) : (sortNames names).Nodup :=
  (List.mergeSort_perm names nameLe).nodup_iff.2 h

private theorem strict_sortNames {names : List String} (h : names.Nodup) :
    (sortNames names).Pairwise NameLt := by
  have hboth := (pairwise_sortNames names).and (nodup_sortNames h)
  refine hboth.imp ?_
  rintro a b ⟨hle, hne⟩
  exact nameLt_of_nameLe hle hne

/-- The names built into the format, in their order, each once. -/
private theorem Builtin.nativeNames_eq {ix : VariableIndex} {names : String → Prop}
    (h : Builtin ix names) :
    ix.nativeNames = sortNames (ix.natives.map (·.1)) := by
  unfold nativeNames
  congr 1
  exact List.map_congr_left fun e he => h.name e he

private theorem Builtin.mem_nativeNames {ix : VariableIndex} {names : String → Prop}
    (h : Builtin ix names) {x : String} :
    x ∈ ix.nativeNames ↔ names x := by
  rw [h.nativeNames_eq, mem_sortNames, ← h.registered, List.lookup_isSome_iff, List.mem_map]
  exact exists_congr fun e => and_congr_right fun _ => by rw [beq_iff_eq, eq_comm]

/-- After any scans and removals a passage that is not scanned sees nothing.  A passage that is sees three
lists of names one after the other, each of them strictly sorted: the names that its latest scan has
found, for all passages or for its own; the other global names; and all names built in that any scan has
met.  The first two have no name in common and lack no global name. -/
theorem visibleNames_of_run (ops : List Op) (p : PassageId) :
    let ix := run ops
    ((∃ e, ix.visibleNames p = .error e) ↔ latest ops p = none) ∧
      (latest ops p = none → ix.visibleNames p = .error (.notScanned p)) ∧
      ∀ ds, latest ops p = some ds → ∃ own others natives,
        ix.visibleNames p = .ok (own ++ others ++ natives) ∧
          own.Pairwise NameLt ∧ others.Pairwise NameLt ∧ natives.Pairwise NameLt ∧
          (∀ x, x ∈ own ↔ ∃ d ∈ ds, d.name = x) ∧
          (∀ x, x ∈ others ↔ (ix.global? x).isSome ∧ x ∉ own) ∧
          (∀ x, x ∈ natives ↔ Registered ops x) ∧
          (own ++ others).Nodup ∧ ∀ x, (ix.global? x).isSome → x ∈ own ++ others := by
  intro ix
  have h : Sound ix (latest ops) := sound_run ops
  have hnative : Builtin ix (Registered ops) := builtin_run ops
  refine ⟨h.visibleNames_eq_error_iff, h.visibleNames_of_unscanned, fun ds hds => ?_⟩
  have hglobal : ∀ x, x ∈ ix.globalNames.filter (· ∉ namesOf ds) ↔
      (ix.global? x).isSome ∧ x ∉ namesOf ds := by
    intro x
    rw [List.mem_filter, mem_globalNames, decide_eq_true_eq]
  have hothers : (ix.globalNames.filter (· ∉ namesOf ds)).Nodup := h.keyed.nodup.filter _
  have hapart : (namesOf ds ++ sortNames (ix.globalNames.filter (· ∉ namesOf ds))).Nodup := by
    refine List.nodup_append.2 ⟨nodup_sortNames (List.nodup_dedup _), nodup_sortNames hothers, ?_⟩
    rintro x hx y hy rfl
    exact ((hglobal x).1 (mem_sortNames.1 hy)).2 hx
  refine ⟨namesOf ds, sortNames (ix.globalNames.filter (· ∉ namesOf ds)),
    ix.nativeNames, h.visibleNames_eq hds,
    strict_sortNames (List.nodup_dedup _), strict_sortNames hothers, ?_,
    fun x => mem_namesOf, fun x => ?_,
    fun x => hnative.mem_nativeNames, hapart, fun x hx => ?_⟩
  · rw [hnative.nativeNames_eq]
    exact strict_sortNames hnative.nodup
  · rw [mem_sortNames, hglobal]
  · by_cases hown : x ∈ namesOf ds
    · exact List.mem_append_left _ hown
    · exact List.mem_append_right _ (mem_sortNames.2 ((hglobal x).2 ⟨hx, hown⟩))

end PassageEditor.VariableIndex
