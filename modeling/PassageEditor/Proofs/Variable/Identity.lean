import PassageEditor.Proofs.Variable.History

/-!
# The object behind a name

Passages share variables as objects, so it matters which object a name stands for.  The registry of global
variables maps each name to the one object that holds every definition of the name for all passages
(`registry_of_run`).  A passage that is scanned again finds the object of a name that it had before,
unless the name has become global with another one (`named?_resetPassage_of_run`).
-/

namespace PassageEditor.VariableIndex

/-! ### The registry of global variables -/

section Registry

variable {ix : VariableIndex} {latest : PassageId → Option (List Definition)} {p : PassageId}

/-- The variable that a passage has under a name. -/
theorem Sound.named?_own (h : Sound ix latest) {x : String} {i : VariableId} :
    ix.named? (ix.own p) x = some i ↔ i ∈ ix.own p ∧ ix.nameOf i = x := by
  refine ⟨named?_eq_some, fun ⟨hi, hx⟩ => ?_⟩
  cases hj : ix.named? (ix.own p) x with
  | none => exact absurd hx (named?_eq_none.1 hj i hi)
  | some j =>
    obtain ⟨hm, hn⟩ := named?_eq_some hj
    rw [List.inj_on_of_nodup_map (h.names p) hm hi (hn.trans hx.symm)]

/-- A definition is with the variable that its passage has under its name. -/
private theorem Sound.mem_definitionsOf_iff (h : Sound ix latest) {d : Definition}
    (hd : d ∈ (latest p).getD []) {i : VariableId} :
    d ∈ ix.definitionsOf i ↔ i ∈ ix.own p ∧ ix.nameOf i = d.name := by
  have hpassage : d.passage = p := h.tagged p d hd
  have hheld : d ∈ ix.definitionsOf i ↔ d ∈ (ix.definitionsOf i).filter (·.passage = p) := by
    simp [hpassage]
  rw [hheld, h.definitions]
  constructor
  · intro hm
    split at hm
    · exact ⟨‹_›, by simpa [eq_comm] using List.of_mem_filter hm⟩
    · simp at hm
  · rintro ⟨hi, hx⟩
    rw [if_pos hi]
    exact List.mem_filter.2 ⟨hd, by simp [hx]⟩

end Registry

/-- After any scans and removals each entry of the registry stands under the name of its variable, which
has some definition.  A definition for all passages, from the latest scan of its passage, is held by the
variable that the registry has under its name, and by no other.  A variable that a passage lists is the
one that the registry has, or else all that it holds are definitions of that passage for itself. -/
theorem registry_of_run (ops : List Op) :
    let ix := run ops
    (∀ e ∈ ix.globals, ix.nameOf e.2 = e.1 ∧ ix.definitionsOf e.2 ≠ [] ∧ ix.global? e.1 = some e.2) ∧
      (∀ p ds, latest ops p = some ds → ∀ d ∈ ds, d.isLocal = false →
        ∃ g, ix.global? d.name = some g ∧ ∀ i, d ∈ ix.definitionsOf i ↔ i = g) ∧
      ∀ p ids, ix.locals? p = some ids → ∀ i ∈ ids,
        ix.global? (ix.nameOf i) = some i ∨
          ∀ d ∈ ix.definitionsOf i, d.passage = p ∧ d.isLocal = true := by
  intro ix
  have h : Sound ix (latest ops) := sound_run ops
  refine ⟨fun e he => ?_, fun p ds hds d hd hl => ?_, fun p ids hids i hi => ?_⟩
  · have hg : ix.global? e.1 = some e.2 := h.keyed.global?_eq_some.2 he
    exact ⟨h.keyed.name e he, h.defined e.1 e.2 hg, hg⟩
  · have hmem : d ∈ (latest ops p).getD [] := by simpa [hds] using hd
    obtain ⟨g, hg, hname, hglobal⟩ := h.shared p d hmem hl
    refine ⟨g, hglobal, fun i => ?_⟩
    rw [h.mem_definitionsOf_iff hmem]
    constructor
    · rintro ⟨hi, hx⟩
      exact List.inj_on_of_nodup_map (h.names p) hi hg (hx.trans hname.symm)
    · rintro rfl
      exact ⟨hg, hname⟩
  · have hown : ix.own p = ids := by simp [own, hids]
    exact h.apart p i (hown ▸ hi)

/-! ### Scanning a passage again -/

section Rescan

variable {ix new : VariableIndex} {latest : PassageId → Option (List Definition)} {p : PassageId}
  {ds : List Definition}

/-- A name that the passage had, and that the scan finds, goes to the global object of the name, and to
the one that the passage had where the name is not global. -/
theorem Sound.named?_rescanned (h : Sound ix latest) (hr : Rescanned ix p ds new) {x : String}
    {i : VariableId} (hi : ix.named? (ix.own p) x = some i) (hx : ∃ d ∈ ds, d.name = x) :
    ∃ j ∈ new.own p, new.nameOf j = x ∧ j = (ix.global? x).getD i := by
  obtain ⟨hmem, hname⟩ := h.named?_own.1 hi
  obtain ⟨j, hj, hjx⟩ := (hr.found x).2 hx
  refine ⟨j, hj, hjx, ?_⟩
  cases hg : ix.global? x with
  | some g => exact (hr.agree j hj g (hjx ▸ hg)).symm
  | none =>
    -- the object was neither global nor, as the passage has one of that name, made by the scan
    rcases hr.source j hj with hs | ho | ⟨-, hother⟩
    · rw [hjx, hg] at hs
      simp at hs
    · have hsame : ix.nameOf j = x := (hr.nameOf j (h.made p j ho)).symm.trans hjx
      exact List.inj_on_of_nodup_map (h.names p) ho hmem (hsame.trans hname.symm)
    · exact absurd (hname.trans hjx.symm) (hother i hmem)

/-- Where the global object of a name is not the one that a passage has under it, others define the name
for themselves or for all, and the passage has it for itself alone. -/
private theorem Sound.apart_of_ne_global (h : Sound ix latest) {x : String} {i g : VariableId}
    (hi : ix.named? (ix.own p) x = some i) (hg : ix.global? x = some g) (hne : g ≠ i) :
    (∀ d ∈ ix.definitionsOf i, d.passage = p ∧ d.isLocal = true) ∧ ix.definitionsOf g ≠ [] ∧
      ∀ d ∈ ix.definitionsOf g, d.passage ≠ p := by
  obtain ⟨hmem, hname⟩ := h.named?_own.1 hi
  refine ⟨?_, h.defined x g hg, fun d hd hp => ?_⟩
  · rcases h.apart p i hmem with hglobal | hlocal
    · rw [hname, hg] at hglobal
      exact absurd (Option.some.inj hglobal) hne
    · exact hlocal
  · have hown : g ∈ ix.own p := h.mem_own_iff.2 ⟨d, hd, hp⟩
    have hsame : ix.named? (ix.own p) x = some g := h.named?_own.2 ⟨hown, h.keyed.nameOf_global hg⟩
    exact hne (Option.some.inj (hsame.symm.trans hi))

end Rescan

/-- A passage that is scanned again and defines a name that it had before has it under the global object
of the name, and under the object that it had where the name is not global.  So the object is the one from
before unless the name is global with another; then the passage has defined the name for itself alone, and
the other object holds definitions of other passages alone. -/
theorem named?_resetPassage_of_run (ops : List Op) (p : PassageId) (passageName : String)
    (tokens : List Token) {x : String} {i : VariableId}
    (hi : (run ops).named? ((run ops).own p) x = some i)
    (hx : ∃ d ∈ definitionsIn p passageName tokens, d.name = x) :
    let ix := run ops
    let new := ix.resetPassage p passageName tokens
    new.named? (new.own p) x = some ((ix.global? x).getD i) ∧
      (new.named? (new.own p) x = some i ↔ ∀ g, ix.global? x = some g → g = i) ∧
      ∀ g, ix.global? x = some g → g ≠ i →
        (∀ d ∈ ix.definitionsOf i, d.passage = p ∧ d.isLocal = true) ∧ ix.definitionsOf g ≠ [] ∧
          ∀ d ∈ ix.definitionsOf g, d.passage ≠ p := by
  intro ix new
  have h : Sound ix (latest ops) := sound_run ops
  have hnew : Sound new _ := h.reset p passageName tokens
  obtain ⟨j, hj, hjx, hjg⟩ :=
    h.named?_rescanned (rescanned_resetPassage h.keyed (h.made p) passageName tokens) hi hx
  have hnamed : new.named? (new.own p) x = some ((ix.global? x).getD i) := by
    rw [← hjg]
    exact hnew.named?_own.2 ⟨hj, hjx⟩
  refine ⟨hnamed, ?_, fun g hg hne => h.apart_of_ne_global hi hg hne⟩
  rw [hnamed, Option.some.injEq]
  cases hg : ix.global? x with
  | none => simp
  | some g => simp

/-! ### A name that becomes global elsewhere -/

/-- A definition of a name, for all passages or for its own. -/
def defining (name : String) (isLocal : Bool) : Token := .mention ⟨name, .origin, some "1", isLocal⟩

/-- A first passage has `x` for itself and `y` for all, a second one has `x` for all. -/
def overshadowed : List Op :=
  [.reset ⟨1⟩ "A" [defining "x" true, defining "y" false], .reset ⟨2⟩ "B" [defining "x" false]]

/-- The same tokens again, and yet the first passage has another object under `x`. -/
theorem object_lost_to_global :
    let ix := run overshadowed
    let new := ix.resetPassage ⟨1⟩ "A" [defining "x" true, defining "y" false]
    ix.named? (ix.own ⟨1⟩) "x" = some ⟨0⟩ ∧ new.named? (new.own ⟨1⟩) "x" = some ⟨2⟩ := by
  decide +kernel

/-- In the same scan the object of `y` is kept. -/
theorem named?_resetPassage_of_run_overshadowed :
    let ix := run overshadowed
    let new := ix.resetPassage ⟨1⟩ "A" [defining "x" true, defining "y" false]
    ix.named? (ix.own ⟨1⟩) "x" = some ⟨0⟩ ∧ ix.global? "x" = some ⟨2⟩ ∧
    new.named? (new.own ⟨1⟩) "x" ≠ some ⟨0⟩ ∧
      ix.named? (ix.own ⟨1⟩) "y" = some ⟨1⟩ ∧ new.named? (new.own ⟨1⟩) "y" = some ⟨1⟩ := by
  intro ix new
  have hx : ix.named? (ix.own ⟨1⟩) "x" = some ⟨0⟩ := by decide +kernel
  have hy : ix.named? (ix.own ⟨1⟩) "y" = some ⟨1⟩ := by decide +kernel
  have hgx : ix.global? "x" = some ⟨2⟩ := by decide +kernel
  have hgy : ix.global? "y" = some ⟨1⟩ := by decide +kernel
  have hlost := (named?_resetPassage_of_run overshadowed ⟨1⟩ "A" _ hx
    (⟨_, List.mem_cons_self, rfl⟩ :
      ∃ d ∈ definitionsIn ⟨1⟩ "A" [defining "x" true, defining "y" false], d.name = "x")).1
  have hkept := (named?_resetPassage_of_run overshadowed ⟨1⟩ "A" _ hy
    (⟨_, List.mem_cons_of_mem _ List.mem_cons_self, rfl⟩ :
      ∃ d ∈ definitionsIn ⟨1⟩ "A" [defining "x" true, defining "y" false], d.name = "y")).2.1
  refine ⟨hx, hgx, ?_, hy, hkept.2 fun g hg => ?_⟩
  · rw [hgx, Option.getD_some] at hlost
    rw [hlost]
    decide
  · exact Option.some.inj (hg.symm.trans hgy)

end PassageEditor.VariableIndex
