import PassageEditor.Proofs.Variable.Scan

/-!
# What a scan does to the index

A scan takes the old definitions of its passage away, takes the tokens in, and drops global variables that
are left without definitions.  What the three together do to an index is told by `Rescanned`, and every
scan does it (`rescanned_resetPassage`).
-/

namespace PassageEditor.VariableIndex

/-! ### Collecting -/

private theorem collect_eq {ix : VariableIndex} (hk : ix.Keyed) (id : VariableId) :
    collect ix id =
      { ix with globals := ix.globals.filter fun e => ¬ (e.2 = id ∧ ix.definitionsOf e.2 = []) } := by
  have hmem : ∀ e ∈ ix.globals, e.2 = id → e.1 = ix.nameOf id := by
    rintro e he rfl
    exact (hk.name e he).symm
  unfold collect
  by_cases hc : ix.definitionsOf id = [] ∧ ix.global? (ix.nameOf id) = some id
  · obtain ⟨hd, hg⟩ := hc
    rw [if_pos (by simp [hd, hg])]
    congr 1
    apply List.filter_congr
    intro e he
    -- a variable is global under one name, so its name and the variable itself single out the same entry
    have hiff : e.1 = ix.nameOf id ↔ e.2 = id := by
      refine ⟨fun h1 => ?_, hmem e he⟩
      have := hk.global?_eq_some.2 (show (ix.nameOf id, e.2) ∈ ix.globals from h1 ▸ he)
      exact Option.some.inj (this.symm.trans hg)
    by_cases h2 : e.2 = id
    · simp [hiff.2 h2, h2, hd]
    · simp [mt hiff.1 h2, h2]
  · rw [if_neg (by simpa using hc)]
    have hkept : ix.globals.filter (fun e => ¬ (e.2 = id ∧ ix.definitionsOf e.2 = [])) = ix.globals := by
      rw [List.filter_eq_self]
      intro e he
      rw [decide_eq_true_eq]
      rintro ⟨rfl, hd⟩
      exact hc ⟨hd, hk.global?_eq_some.2 (hmem e he rfl ▸ he)⟩
    rw [hkept]

private theorem keyed_filter {ix : VariableIndex} (hk : ix.Keyed) (p : String × VariableId → Bool) :
    { ix with globals := ix.globals.filter p }.Keyed where
  nodup := nodup_keys_filter hk.nodup p
  made e he := hk.made e (List.mem_of_mem_filter he)
  name e he := hk.name e (List.mem_of_mem_filter he)

private theorem foldl_collect {ix : VariableIndex} (hk : ix.Keyed) (ids : List VariableId) :
    ids.foldl collect ix =
      { ix with globals := ix.globals.filter fun e => ¬ (e.2 ∈ ids ∧ ix.definitionsOf e.2 = []) } := by
  induction ids generalizing ix with
  | nil => simp
  | cons id ids ih =>
    rw [List.foldl_cons, collect_eq hk, ih (keyed_filter hk _)]
    congr 1
    rw [List.filter_filter]
    apply List.filter_congr
    intro e _
    show (decide (¬ (e.2 ∈ ids ∧ ix.definitionsOf e.2 = [])) &&
      decide (¬ (e.2 = id ∧ ix.definitionsOf e.2 = []))) =
      decide (¬ (e.2 ∈ id :: ids ∧ ix.definitionsOf e.2 = []))
    rw [← Bool.decide_and, decide_eq_decide, List.mem_cons]
    tauto

/-! ### The whole of a scan -/

/-- All that a scan of a passage does, `ds` being the definitions it finds. -/
structure Rescanned (ix : VariableIndex) (passage : PassageId) (ds : List Definition)
    (new : VariableIndex) : Prop where
  keyed : new.Keyed
  made_of : ∀ i, ix.Made i → new.Made i
  nameOf : ∀ i, ix.Made i → new.nameOf i = ix.nameOf i
  locals : ∀ q, new.locals? q = if q = passage then some (new.own passage) else ix.locals? q
  made : ∀ i ∈ new.own passage, new.Made i
  names : ((new.own passage).map new.nameOf).Nodup
  /-- The passage has its variables in the order in which their names are first defined. -/
  order : (new.own passage).map new.nameOf = (ds.map (·.name)).eraseDups
  found : ∀ x, (∃ i ∈ new.own passage, new.nameOf i = x) ↔ ∃ d ∈ ds, d.name = x
  definitions : ∀ i, new.definitionsOf i =
    (if i ∈ ix.own passage then (ix.definitionsOf i).filter (·.passage ≠ passage)
      else ix.definitionsOf i) ++
      if i ∈ new.own passage then ds.filter (·.name = new.nameOf i) else []
  /-- A global variable stays unless the passage has given up the last definition of it, and a name
  becomes global by a definition for all passages alone. -/
  globals : ∀ x i, new.global? x = some i ↔
    ix.global? x = some i ∧ (i ∈ ix.own passage → new.definitionsOf i ≠ []) ∨
      i ∈ new.own passage ∧ new.nameOf i = x ∧ ∃ d ∈ ds, d.name = x ∧ d.isLocal = false
  agree : ∀ i ∈ new.own passage, ∀ g, ix.global? (new.nameOf i) = some g → g = i
  source : ∀ i ∈ new.own passage, ix.global? (new.nameOf i) = some i ∨ i ∈ ix.own passage ∨
    ¬ ix.Made i ∧ ∀ j ∈ ix.own passage, ix.nameOf j ≠ new.nameOf i

private theorem definitionsOf_ne_nil_of_found {base : VariableIndex} {previous : List VariableId}
    {ds : List Definition} {s : Scan} (h : Progress base previous ds s) {i : VariableId}
    (hi : i ∈ s.found) :
    s.index.definitionsOf i ≠ [] := by
  obtain ⟨d, hd, hn⟩ := (h.found _).1 ⟨i, hi, rfl⟩
  have : d ∈ ds.filter (·.name = s.index.nameOf i) := by simp [hd, hn]
  rw [h.definitions, if_pos hi]
  exact List.append_ne_nil_of_right_ne_nil _ (List.ne_nil_of_mem this)

/-- The index that a scan leaves, from the state `s` that the scan ends in. -/
private def finished (ix : VariableIndex) (passage : PassageId) (s : Scan) : VariableIndex :=
  { s.index with
    globals := s.index.globals.filter fun e =>
      ¬ ((e.2 ∈ ix.own passage ∧ e.2 ∉ s.found) ∧ s.index.definitionsOf e.2 = [])
    locals := (passage, s.found) :: ix.locals.filter (·.1 ≠ passage) }

private theorem resetPassage_eq_finished {ix : VariableIndex} (hk : ix.Keyed) {passage : PassageId}
    (hm : ∀ i ∈ ix.own passage, ix.Made i) (passageName : String) (tokens : List Token) :
    ∃ s, Progress (ix.stripped passage (ix.own passage)) (ix.own passage)
    (definitionsIn passage passageName tokens) s ∧
      ix.resetPassage passage passageName tokens = ix.finished passage s := by
  have hbase : (ix.stripped passage (ix.own passage)).Keyed := by
    refine ⟨?_, ?_, ?_⟩ <;> simp only [globals_stripped, made_stripped, nameOf_stripped]
    · exact hk.nodup
    · exact hk.made
    · exact hk.name
  have hstart : Progress (ix.stripped passage (ix.own passage)) (ix.own passage) [] ⟨_, []⟩ :=
    Progress.start hbase
  have hp := hstart.tokens (fun i hi => made_stripped.2 (hm i hi)) passage passageName tokens
  rw [List.nil_append] at hp
  generalize hs : tokens.foldl (Scan.token passage passageName (ix.own passage)) _ = s at hp
  refine ⟨s, hp, ?_⟩
  have hreset : ix.resetPassage passage passageName tokens =
      let collected := ((ix.own passage).filter fun id => !s.found.contains id).foldl collect s.index
      { collected with locals := (passage, s.found) :: collected.locals.filter (·.1 ≠ passage) } := by
    rw [← hs]
    rfl
  rw [hreset, foldl_collect hp.keyed]
  unfold finished
  simp only [List.mem_filter, Bool.not_eq_true', List.contains_eq_mem, decide_eq_false_iff_not, hp.locals,
    locals_stripped]

theorem rescanned_resetPassage {ix : VariableIndex} (hk : ix.Keyed) {passage : PassageId}
    (hm : ∀ i ∈ ix.own passage, ix.Made i) (passageName : String) (tokens : List Token) :
    Rescanned ix passage (definitionsIn passage passageName tokens)
      (ix.resetPassage passage passageName tokens) := by
  obtain ⟨s, hp, hnew⟩ := resetPassage_eq_finished hk hm passageName tokens
  rw [hnew]
  have hlocals : ∀ q, (ix.finished passage s).locals? q = if q = passage then some s.found
      else ix.locals? q :=
    fun q => lookup_put ix.locals passage q s.found
  have hown : (ix.finished passage s).own passage = s.found := by simp [own, hlocals]
  have hkeyed : (ix.finished passage s).Keyed :=
    { nodup := nodup_keys_filter hp.keyed.nodup _
      made := fun e he => hp.keyed.made e (List.mem_of_mem_filter he)
      name := fun e he => hp.keyed.name e (List.mem_of_mem_filter he) }
  have hglobal : ∀ x i, (ix.finished passage s).global? x = some i ↔
      s.index.global? x = some i ∧
        ¬ ((i ∈ ix.own passage ∧ i ∉ s.found) ∧ s.index.definitionsOf i = []) := by
    intro x i
    rw [hkeyed.global?_eq_some, hp.keyed.global?_eq_some]
    unfold finished
    rw [List.mem_filter, decide_eq_true_eq]
  have hbase : ∀ x, (ix.stripped passage (ix.own passage)).global? x = ix.global? x :=
    fun x => by simp [global?]
  refine ⟨hkeyed, fun i hi => hp.made_of i (made_stripped.2 hi), fun i hi => ?_, ?_, ?_, ?_,
    ?_, ?_, ?_, ?_, ?_, ?_⟩
  · exact (hp.nameOf i (made_stripped.2 hi)).trans (nameOf_stripped ix passage (ix.own passage) i)
  · rw [hown]
    exact hlocals
  · rw [hown]
    exact hp.made
  · rw [hown]
    exact hp.names
  · rw [hown]
    exact hp.order
  · rw [hown]
    exact hp.found
  · intro i
    rw [hown, ← definitionsOf_stripped]
    exact hp.definitions i
  · intro x i
    rw [hown, hglobal]
    show _ ↔ ix.global? x = some i ∧ (_ → s.index.definitionsOf i ≠ []) ∨ _ ∧ s.index.nameOf i = x ∧ _
    constructor
    · -- what is global in the end was so before, or was made so by the scan
      rintro ⟨hg, hnot⟩
      rcases hp.promoted x i hg with hb | ⟨hi, hd⟩
      · rw [hbase] at hb
        refine .inl ⟨hb, fun ho hd => ?_⟩
        by_cases hi : i ∈ s.found
        · exact definitionsOf_ne_nil_of_found hp hi hd
        · exact hnot ⟨⟨ho, hi⟩, hd⟩
      · exact .inr ⟨hi, hp.keyed.nameOf_global hg, hd⟩
    · rintro (⟨hg, ho⟩ | ⟨hi, rfl, d, hd, hn, hl⟩)
      · exact ⟨hp.kept x i ((hbase x).trans hg), fun h => ho h.1.1 h.2⟩
      · obtain ⟨g, hg⟩ := Option.isSome_iff_exists.1 (hp.shared d hd hl)
        rw [hn] at hg
        obtain rfl := hp.agree i hi g hg
        exact ⟨hg, fun h => h.1.2 hi⟩
  · intro i hi g hg
    rw [hown] at hi
    exact hp.agree i hi g (hp.kept _ g ((hbase _).trans hg))
  · intro i hi
    rw [hown] at hi
    have := hp.source i hi
    simp only [hbase, made_stripped, nameOf_stripped] at this
    exact this

end PassageEditor.VariableIndex
