import PassageEditor.Proofs.Variable.Define

/-!
# One scan of a passage

While the tokens of a passage are taken in, the passage has one variable for each name it has defined so
far, that variable has the definitions of its name in the order of the tokens, and it is the global one
where the name is global (`Progress`).  Each token keeps this, so it holds when the last one is in
(`Progress.tokens`).
-/

namespace PassageEditor.VariableIndex

/-- How far a scan is: `done` are the definitions taken in so far, `base` is the index without the old
ones, and `previous` are the variables that had them. -/
structure Progress (base : VariableIndex) (previous : List VariableId) (done : List Definition)
    (s : Scan) : Prop where
  keyed : s.index.Keyed
  made_of : ∀ i, base.Made i → s.index.Made i
  nameOf : ∀ i, base.Made i → s.index.nameOf i = base.nameOf i
  locals : s.index.locals = base.locals
  made : ∀ i ∈ s.found, s.index.Made i
  names : (s.found.map s.index.nameOf).Nodup
  /-- The variables found stand in the order in which their names have first been defined. -/
  order : s.found.map s.index.nameOf = (done.map (·.name)).eraseDups
  /-- The names found are the names defined. -/
  found : ∀ x, (∃ i ∈ s.found, s.index.nameOf i = x) ↔ ∃ d ∈ done, d.name = x
  definitions : ∀ i, s.index.definitionsOf i =
    base.definitionsOf i ++ if i ∈ s.found then done.filter (·.name = s.index.nameOf i) else []
  kept : ∀ x i, base.global? x = some i → s.index.global? x = some i
  /-- A name becomes global by a definition for all passages alone. -/
  promoted : ∀ x i, s.index.global? x = some i →
    base.global? x = some i ∨ i ∈ s.found ∧ ∃ d ∈ done, d.name = x ∧ d.isLocal = false
  shared : ∀ d ∈ done, d.isLocal = false → (s.index.global? d.name).isSome
  /-- Where a name found is global, the variable found is the global one. -/
  agree : ∀ i ∈ s.found, ∀ g, s.index.global? (s.index.nameOf i) = some g → g = i
  /-- A variable found was the global one of its name, or one of the previous ones, and is a new one where
  neither has the name. -/
  source : ∀ i ∈ s.found, base.global? (s.index.nameOf i) = some i ∨ i ∈ previous ∨
    ¬ base.Made i ∧ ∀ j ∈ previous, base.nameOf j ≠ s.index.nameOf i

/-- What comes again at the end does not count. -/
private theorem eraseDups_concat (names : List String) (x : String) :
    (names ++ [x]).eraseDups = names.eraseDups ++ if x ∈ names then [] else [x] := by
  rw [List.eraseDups_append]
  by_cases hx : x ∈ names
  · simp [List.removeAll, hx]
  · have hnew : [x].removeAll names = [x] := by simp [List.removeAll, hx]
    rw [hnew, if_neg hx, List.eraseDups_cons, List.filter_nil, List.eraseDups_nil]

namespace Progress

variable {base : VariableIndex} {previous : List VariableId} {done : List Definition}
  {s t : Scan} {d : Definition}
  {id : VariableId}

/-- Two variables found under one name are the same. -/
private theorem eq_of_nameOf_eq (h : Progress base previous done s) {i j : VariableId} (hi : i ∈ s.found)
    (hj : j ∈ s.found) (hij : s.index.nameOf i = s.index.nameOf j) : i = j :=
  List.inj_on_of_nodup_map h.names hi hj hij

theorem start (hk : base.Keyed) : Progress base previous [] ⟨base, []⟩ where
  keyed := hk
  made_of _ h := h
  nameOf _ _ := rfl
  locals := rfl
  made := by simp
  names := by simp
  order := rfl
  found := by simp
  definitions := by simp
  kept _ _ h := h
  promoted _ _ h := .inl h
  shared := by simp
  agree := by simp
  source := by simp

/-- The variable of a definition is the one found under its name, if there is one. -/
private theorem eq_of_name (h : Progress base previous done s) (ht : Taken s previous d id t)
    {i : VariableId} (hi : i ∈ s.found) (hn : s.index.nameOf i = d.name) : i = id := by
  rcases ht.source with hg | ⟨-, hm | ⟨hne, -⟩⟩
  · exact (h.agree i hi id (hn ▸ hg)).symm
  · refine h.eq_of_nameOf_eq hi hm ?_
    rw [hn, ← ht.named, ht.nameOf id (h.made id hm)]
  · exact absurd hn (hne i hi)

private theorem names_taken (h : Progress base previous done s) (ht : Taken s previous d id t) :
    (t.found.map t.index.nameOf).Nodup := by
  have hold : s.found.map t.index.nameOf = s.found.map s.index.nameOf :=
    List.map_congr_left fun i hi => ht.nameOf i (h.made i hi)
  rcases ht.found with ⟨-, hf⟩ | ⟨hm, hf⟩
  · rw [hf, hold]
    exact h.names
  · rw [hf, List.map_append, hold, List.nodup_append]
    refine ⟨h.names, by simp, ?_⟩
    intro x hx y hy
    obtain ⟨i, hi, rfl⟩ := List.mem_map.1 hx
    simp only [List.map_cons, List.map_nil, List.mem_singleton] at hy
    rw [hy, ht.named]
    exact fun e => hm (h.eq_of_name ht hi e ▸ hi)

/-- A definition goes to a variable that is found already if its name has been defined. -/
private theorem mem_found_iff (h : Progress base previous done s) (ht : Taken s previous d id t) :
    id ∈ s.found ↔ d.name ∈ done.map (·.name) := by
  rw [List.mem_map, ← h.found d.name]
  constructor
  · intro hid
    have hname : s.index.nameOf id = d.name := by rw [← ht.nameOf id (h.made id hid), ht.named]
    exact ⟨id, hid, hname⟩
  · rintro ⟨i, hi, hname⟩
    exact h.eq_of_name ht hi hname ▸ hi

private theorem order_taken (h : Progress base previous done s) (ht : Taken s previous d id t) :
    t.found.map t.index.nameOf = ((done ++ [d]).map (·.name)).eraseDups := by
  have hold : s.found.map t.index.nameOf = s.found.map s.index.nameOf :=
    List.map_congr_left fun i hi => ht.nameOf i (h.made i hi)
  have hthere := h.mem_found_iff ht
  rw [List.map_append, List.map_singleton, eraseDups_concat, ← h.order]
  rcases ht.found with ⟨hm, hf⟩ | ⟨hm, hf⟩
  · rw [hf, hold, if_pos (hthere.1 hm), List.append_nil]
  · rw [hf, List.map_append, hold, if_neg (mt hthere.2 hm), List.map_singleton, ht.named]

private theorem found_taken (h : Progress base previous done s) (ht : Taken s previous d id t)
    (x : String) : (∃ i ∈ t.found, t.index.nameOf i = x) ↔ ∃ e ∈ done ++ [d], e.name = x := by
  simp only [ht.mem_found, List.mem_append, List.mem_singleton]
  constructor
  · rintro ⟨i, hi | rfl, rfl⟩
    · obtain ⟨e, he, hx⟩ := (h.found _).1 ⟨i, hi, rfl⟩
      exact ⟨e, .inl he, hx.trans (ht.nameOf i (h.made i hi)).symm⟩
    · exact ⟨d, .inr rfl, ht.named.symm⟩
  · rintro ⟨e, he | rfl, rfl⟩
    · obtain ⟨i, hi, hx⟩ := (h.found _).2 ⟨e, he, rfl⟩
      exact ⟨i, .inl hi, (ht.nameOf i (h.made i hi)).trans hx⟩
    · exact ⟨id, .inr rfl, ht.named⟩

private theorem definitions_taken (h : Progress base previous done s) (ht : Taken s previous d id t)
    (i : VariableId) :
    t.index.definitionsOf i =
      base.definitionsOf i ++ if i ∈ t.found then (done ++ [d]).filter (·.name = t.index.nameOf i)
        else [] := by
  rw [ht.definitions, h.definitions, List.append_assoc]
  congr 1
  by_cases hi : i = id
  · subst hi
    by_cases hm : i ∈ s.found
    · have hn : s.index.nameOf i = d.name := by rw [← ht.named, ht.nameOf i (h.made i hm)]
      simp [hm, ht.mem_found, ht.named, hn]
    · have hd : done.filter (·.name = d.name) = [] := by
        rw [List.filter_eq_nil_iff]
        intro e he hx
        obtain ⟨j, hj, hjx⟩ := (h.found d.name).2 ⟨e, he, by simpa using hx⟩
        exact hm (h.eq_of_name ht hj hjx ▸ hj)
      simp [hm, ht.mem_found, ht.named, hd]
  · by_cases hm : i ∈ s.found
    · have hn : t.index.nameOf i = s.index.nameOf i := ht.nameOf i (h.made i hm)
      have hd : ¬ d.name = s.index.nameOf i := fun e => hi (h.eq_of_name ht hm e.symm)
      simp [hm, hi, ht.mem_found, hn, hd]
    · simp [hm, hi, ht.mem_found]

private theorem promoted_taken (h : Progress base previous done s) (ht : Taken s previous d id t)
    (x : String) (i : VariableId) (hx : t.index.global? x = some i) :
    base.global? x = some i ∨ i ∈ t.found ∧ ∃ e ∈ done ++ [d], e.name = x ∧ e.isLocal = false := by
  rcases (ht.globals x i).1 hx with hx | ⟨-, hl, rfl, rfl⟩
  · rcases h.promoted x i hx with hb | ⟨hi, e, he, hex⟩
    · exact .inl hb
    · exact .inr ⟨ht.mem_found.2 (.inl hi), e, by simp [he], hex⟩
  · exact .inr ⟨ht.mem_found.2 (.inr rfl), d, by simp, rfl, hl⟩

private theorem shared_taken (h : Progress base previous done s) (ht : Taken s previous d id t)
    (e : Definition) (he : e ∈ done ++ [d]) (hl : e.isLocal = false) :
    (t.index.global? e.name).isSome := by
  rw [Option.isSome_iff_exists]
  rcases List.mem_append.1 he with he | he
  · obtain ⟨g, hg⟩ := Option.isSome_iff_exists.1 (h.shared e he hl)
    exact ⟨g, (ht.globals _ g).2 (.inl hg)⟩
  · obtain rfl := List.mem_singleton.1 he
    cases hg : s.index.global? e.name with
    | some g => exact ⟨g, (ht.globals _ g).2 (.inl hg)⟩
    | none => exact ⟨id, (ht.globals _ id).2 (.inr ⟨hg, hl, rfl, rfl⟩)⟩

private theorem agree_taken (h : Progress base previous done s) (ht : Taken s previous d id t)
    (i : VariableId) (hi : i ∈ t.found) (g : VariableId)
    (hg : t.index.global? (t.index.nameOf i) = some g) : g = i := by
  rcases ht.mem_found.1 hi with hm | rfl
  · rw [ht.nameOf i (h.made i hm)] at hg
    rcases (ht.globals _ g).1 hg with hg | ⟨-, -, hx, rfl⟩
    · exact h.agree i hm g hg
    · exact (h.eq_of_name ht hm hx).symm
  · rw [ht.named] at hg
    rcases (ht.globals _ g).1 hg with hg | ⟨-, -, -, hx⟩
    · rcases ht.source with hs | ⟨hs, -⟩ <;> simp_all
    · exact hx

private theorem source_taken (h : Progress base previous done s) (hp : ∀ i ∈ previous, base.Made i)
    (ht : Taken s previous d id t) (i : VariableId) (hi : i ∈ t.found) :
    base.global? (t.index.nameOf i) = some i ∨ i ∈ previous ∨
      ¬ base.Made i ∧ ∀ j ∈ previous, base.nameOf j ≠ t.index.nameOf i := by
  by_cases hm : i ∈ s.found
  · rw [ht.nameOf i (h.made i hm)]
    exact h.source i hm
  · obtain rfl := (ht.mem_found.1 hi).resolve_left hm
    rw [ht.named]
    rcases ht.source with hg | ⟨-, hf | ⟨-, ho | ⟨hn, hother⟩⟩⟩
    · exact (h.promoted _ _ hg).imp_right fun hf => absurd hf.1 hm
    · exact absurd hf hm
    · exact .inr (.inl ho)
    · refine .inr (.inr ⟨fun hb => hn (h.made_of i hb), fun j hj => ?_⟩)
      rw [← h.nameOf j (hp j hj)]
      exact hother j hj

theorem taken (h : Progress base previous done s) (hp : ∀ i ∈ previous, base.Made i)
    (ht : Taken s previous d id t) : Progress base previous (done ++ [d]) t where
  keyed := ht.keyed
  made_of i hi := ht.made_of i (h.made_of i hi)
  nameOf i hi := by rw [ht.nameOf i (h.made_of i hi), h.nameOf i hi]
  locals := ht.locals.trans h.locals
  made i hi := by
    rcases ht.mem_found.1 hi with hi | rfl
    · exact ht.made_of i (h.made i hi)
    · exact ht.made
  names := h.names_taken ht
  order := h.order_taken ht
  found := h.found_taken ht
  definitions := h.definitions_taken ht
  kept x i hx := (ht.globals x i).2 (.inl (h.kept x i hx))
  promoted := h.promoted_taken ht
  shared := h.shared_taken ht
  agree := h.agree_taken ht
  source := h.source_taken hp ht

/-- A variable that nothing refers to changes nothing. -/
private theorem fresh (h : Progress base previous done s) (name : String)
    (natives : List (String × VariableId)) :
    Progress base previous done { s with index := { (s.index.fresh name).2 with natives := natives } } := by
  have hmade : ∀ i, s.index.Made i → (s.index.fresh name).2.Made i := fun i hi => made_fresh.2 (.inl hi)
  have hname : ∀ i ∈ s.found, (s.index.fresh name).2.nameOf i = s.index.nameOf i :=
    fun i hi => nameOf_fresh name (h.made i hi)
  have hmap : s.found.map (s.index.fresh name).2.nameOf = s.found.map s.index.nameOf :=
    List.map_congr_left hname
  exact
    { keyed := ⟨h.keyed.nodup, fun e he => hmade _ (h.keyed.made e he), fun e he =>
        (nameOf_fresh name (h.keyed.made e he)).trans (h.keyed.name e he)⟩
      made_of := fun i hi => hmade i (h.made_of i hi)
      nameOf := fun i hi => (nameOf_fresh name (h.made_of i hi)).trans (h.nameOf i hi)
      locals := h.locals
      made := fun i hi => hmade i (h.made i hi)
      names := hmap.symm ▸ h.names
      order := hmap.trans h.order
      found := fun x => by
        rw [← h.found x]
        exact ⟨fun ⟨i, hi, hx⟩ => ⟨i, hi, (hname i hi).symm.trans hx⟩,
          fun ⟨i, hi, hx⟩ => ⟨i, hi, (hname i hi).trans hx⟩⟩
      definitions := fun i => by
        have hd := definitionsOf_fresh s.index name i
        rw [h.definitions] at hd
        by_cases hi : i ∈ s.found
        · rw [if_pos hi, ← hname i hi] at hd
          rw [if_pos hi]
          exact hd
        · rw [if_neg hi] at hd ⊢
          exact hd
      kept := h.kept
      promoted := h.promoted
      shared := h.shared
      agree := fun i hi g hg => h.agree i hi g ((hname i hi) ▸ hg)
      source := fun i hi => (hname i hi).symm ▸ h.source i hi }

/-- A name built into the format is a variable of its own. -/
theorem native (h : Progress base previous done s) (name : String) :
    Progress base previous done { s with index := s.index.addNative name } := by
  unfold addNative
  split
  · exact h
  · exact h.fresh name _

/-- Each token keeps the scan on its way, and a definition among them is taken in. -/
private theorem token (h : Progress base previous done s) (hp : ∀ i ∈ previous, base.Made i)
    (passage : PassageId) (passageName : String) (t : Token) :
    Progress base previous (done ++ (definitionOf? passage passageName t).toList)
      (s.token passage passageName previous t) := by
  cases t with
  | native name =>
    simp only [definitionOf?, Option.toList_none, List.append_nil]
    exact h.native name
  | mention t =>
    simp only [definitionOf?, Scan.token]
    cases t.definition? with
    | none => simpa using h
    | some expression =>
      obtain ⟨id, ht⟩ := taken_define h.keyed h.made (fun i hi => h.made_of i (hp i hi))
        ⟨t.name, t.position, expression, t.isLocal, passage, passageName⟩
      exact h.taken hp ht

theorem tokens (h : Progress base previous done s) (hp : ∀ i ∈ previous, base.Made i)
    (passage : PassageId) (passageName : String) (ts : List Token) :
    Progress base previous (done ++ definitionsIn passage passageName ts)
      (ts.foldl (Scan.token passage passageName previous) s) := by
  induction ts generalizing done s with
  | nil => simpa [definitionsIn] using h
  | cons t ts ih =>
    have := ih (h.token hp passage passageName t)
    have hd : definitionsIn passage passageName (t :: ts) =
        (definitionOf? passage passageName t).toList ++ definitionsIn passage passageName ts := by
      unfold definitionsIn
      cases ht : definitionOf? passage passageName t <;> simp [ht]
    rw [hd, ← List.append_assoc]
    exact this

end Progress

end PassageEditor.VariableIndex
