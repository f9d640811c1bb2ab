import PassageEditor.Proofs.Lookup
import PassageEditor.Proofs.Variable.Objects

/-!
# Taking a definition in

What one definition does to an index, told apart from how a scan goes about it.  It goes to the variable
that its name is resolved to (`Resolved`), and only that one changes; what becomes of the names and the
globals follows (`Taken`).
-/

namespace PassageEditor.VariableIndex

/-- The definition that a token of a passage is, if it is one. -/
def definitionOf? (passage : PassageId) (passageName : String) : Token → Option Definition
  | .native _ => none
  | .mention t =>
    t.definition?.map fun expression => ⟨t.name, t.position, expression, t.isLocal, passage, passageName⟩

/-- The definitions among the tokens of a passage, in their order. -/
def definitionsIn (passage : PassageId) (passageName : String) (tokens : List Token) : List Definition :=
  tokens.filterMap (definitionOf? passage passageName)

theorem passage_of_mem_definitionsIn {passage : PassageId} {passageName : String} {tokens : List Token}
    {d : Definition} (h : d ∈ definitionsIn passage passageName tokens) : d.passage = passage := by
  obtain ⟨t, -, ht⟩ := List.mem_filterMap.1 h
  cases t with
  | native name => simp [definitionOf?] at ht
  | mention t =>
    obtain ⟨e, -, rfl⟩ := Option.map_eq_some_iff.1 ht
    rfl

/-! ### Globals -/

/-- Every global variable is there once, under its own name. -/
structure Keyed (ix : VariableIndex) : Prop where
  nodup : (ix.globals.map (·.1)).Nodup
  made : ∀ e ∈ ix.globals, ix.Made e.2
  name : ∀ e ∈ ix.globals, ix.nameOf e.2 = e.1

theorem Keyed.global?_eq_some {ix : VariableIndex} (h : ix.Keyed) {name : String} {id : VariableId} :
    ix.global? name = some id ↔ (name, id) ∈ ix.globals :=
  lookup_eq_some_iff_mem h.nodup

theorem Keyed.nameOf_global {ix : VariableIndex} (h : ix.Keyed) {name : String} {id : VariableId}
    (hg : ix.global? name = some id) : ix.nameOf id = name :=
  h.name (name, id) (h.global?_eq_some.1 hg)

private theorem Keyed.made_global {ix : VariableIndex} (h : ix.Keyed) {name : String} {id : VariableId}
    (hg : ix.global? name = some id) : ix.Made id :=
  h.made (name, id) (h.global?_eq_some.1 hg)

/-! ### The variable that a definition goes to -/

/-- What is known of the variable that a name is resolved to, and of the index after that. -/
structure Resolved (ix : VariableIndex) (found previous : List VariableId)
    (name : String) (id : VariableId)
    (after : VariableIndex) : Prop where
  named : after.nameOf id = name
  made : after.Made id
  made_of : ∀ i, ix.Made i → after.Made i
  nameOf : ∀ i, ix.Made i → after.nameOf i = ix.nameOf i
  definitions : ∀ i, after.definitionsOf i = ix.definitionsOf i
  globals : after.globals = ix.globals
  locals : after.locals = ix.locals
  source : ix.global? name = some id ∨
    ix.global? name = none ∧ (id ∈ found ∨ (∀ i ∈ found, ix.nameOf i ≠ name) ∧
      (id ∈ previous ∨ ¬ ix.Made id ∧ ∀ i ∈ previous, ix.nameOf i ≠ name))

theorem named?_eq_some {ix : VariableIndex} {ids : List VariableId} {name : String} {id : VariableId}
    (h : ix.named? ids name = some id) : id ∈ ids ∧ ix.nameOf id = name := by
  refine ⟨List.mem_of_find?_eq_some h, ?_⟩
  simpa using List.find?_some h

theorem named?_eq_none {ix : VariableIndex} {ids : List VariableId} {name : String} :
    ix.named? ids name = none ↔ ∀ i ∈ ids, ix.nameOf i ≠ name := by
  simp [named?]

private theorem resolve_resolved {ix : VariableIndex} (hk : ix.Keyed) {found previous : List VariableId}
    (hf : ∀ i ∈ found, ix.Made i) (hp : ∀ i ∈ previous, ix.Made i) (name : String) :
    Resolved ix found previous name (ix.resolve found previous name).1
      (ix.resolve found previous name).2 := by
  unfold resolve
  cases hg : ix.global? name with
  | some g =>
    simp only [Option.some_or]
    exact ⟨hk.nameOf_global hg, hk.made_global hg, fun _ h => h, fun _ _ => rfl,
      fun _ => rfl, rfl, rfl, .inl hg⟩
  | none =>
    cases hn : ix.named? found name with
    | some id =>
      obtain ⟨hm, hname⟩ := named?_eq_some hn
      simp only [Option.none_or, Option.some_or]
      exact ⟨hname, hf id hm, fun _ h => h, fun _ _ => rfl, fun _ => rfl, rfl, rfl, .inr ⟨hg, .inl hm⟩⟩
    | none =>
      have hnew := named?_eq_none.1 hn
      cases ho : ix.named? previous name with
      | some id =>
        obtain ⟨hm, hname⟩ := named?_eq_some ho
        simp only [Option.none_or]
        exact ⟨hname, hp id hm, fun _ h => h, fun _ _ => rfl, fun _ => rfl, rfl, rfl,
          .inr ⟨hg, .inr ⟨hnew, .inl hm⟩⟩⟩
      | none =>
        simp only [Option.none_or]
        exact ⟨nameOf_fresh_self ix name, made_fresh.2 (.inr rfl), fun _ h => made_fresh.2 (.inl h),
          fun _ h => nameOf_fresh name h, fun i => definitionsOf_fresh ix name i, rfl, rfl,
          .inr ⟨hg, .inr ⟨hnew, .inr ⟨not_made_fresh ix name, named?_eq_none.1 ho⟩⟩⟩⟩

/-! ### Taking a definition in -/

/-- All that taking the definition `d` into `s` does: `id` is the variable that it goes to, and `t` is
what becomes of the scan. -/
structure Taken (s : Scan) (previous : List VariableId) (d : Definition) (id : VariableId)
    (t : Scan) : Prop where
  keyed : t.index.Keyed
  named : t.index.nameOf id = d.name
  made : t.index.Made id
  made_of : ∀ i, s.index.Made i → t.index.Made i
  nameOf : ∀ i, s.index.Made i → t.index.nameOf i = s.index.nameOf i
  locals : t.index.locals = s.index.locals
  definitions : ∀ i, t.index.definitionsOf i = s.index.definitionsOf i ++ if i = id then [d] else []
  globals : ∀ x i, t.index.global? x = some i ↔
    s.index.global? x = some i ∨ s.index.global? x = none ∧ d.isLocal = false ∧ x = d.name ∧ i = id
  found : id ∈ s.found ∧ t.found = s.found ∨ id ∉ s.found ∧ t.found = s.found ++ [id]
  source : s.index.global? d.name = some id ∨
    s.index.global? d.name = none ∧
      (id ∈ s.found ∨ (∀ i ∈ s.found, s.index.nameOf i ≠ d.name) ∧
        (id ∈ previous ∨ ¬ s.index.Made id ∧ ∀ i ∈ previous, s.index.nameOf i ≠ d.name))

theorem Taken.mem_found {s t : Scan} {previous : List VariableId} {d : Definition} {id : VariableId}
    (h : Taken s previous d id t) {i : VariableId} : i ∈ t.found ↔ i ∈ s.found ∨ i = id := by
  rcases h.found with ⟨hm, hf⟩ | ⟨-, hf⟩
  · rw [hf]
    exact ⟨.inl, fun h => h.elim (fun h => h) fun e => e ▸ hm⟩
  · simp [hf]

section Define

variable {s : Scan} {previous : List VariableId} {d : Definition} {id : VariableId}
  {after : VariableIndex}

/-- Apart from the globals, a definition changes the index as adding it to its variable does. -/
private theorem index_define (hr : s.index.resolve s.found previous d.name = (id, after)) :
    (s.define previous d).index =
      { after.addDefinition id d with globals := (s.define previous d).index.globals } := by
  simp only [Scan.define, hr]
  split <;> rfl

private theorem found_define (hr : s.index.resolve s.found previous d.name = (id, after)) :
    id ∈ s.found ∧ (s.define previous d).found = s.found ∨
      id ∉ s.found ∧ (s.define previous d).found = s.found ++ [id] := by
  simp only [Scan.define, hr, List.contains_iff_mem]
  by_cases hm : id ∈ s.found <;> simp [hm]

private theorem globals_define (hr : s.index.resolve s.found previous d.name = (id, after))
    (h : Resolved s.index s.found previous d.name id after) :
    (s.define previous d).index.globals = s.index.globals ++
      if d.isLocal = false ∧ s.index.global? d.name = none then [(d.name, id)] else [] := by
  have hg : (after.addDefinition id d).global? d.name = s.index.global? d.name := by
    unfold global?
    rw [← h.globals]
    rfl
  simp only [Scan.define, hr, hg]
  cases d.isLocal <;> cases hn : s.index.global? d.name <;> simp [addDefinition, h.globals]

private theorem global?_define (hr : s.index.resolve s.found previous d.name = (id, after))
    (h : Resolved s.index s.found previous d.name id after) (x : String) (i : VariableId) :
    (s.define previous d).index.global? x = some i ↔
      s.index.global? x = some i ∨
        s.index.global? x = none ∧ d.isLocal = false ∧ x = d.name ∧ i = id := by
  unfold global?
  rw [globals_define hr h, List.lookup_append]
  by_cases hc : d.isLocal = false ∧ s.index.global? d.name = none
  · rw [if_pos hc]
    obtain ⟨hl, hn⟩ := hc
    by_cases hx : x = d.name
    · subst hx
      unfold global? at hn
      simp [hn, hl, eq_comm]
    · rw [lookup_pair, if_neg hx, List.lookup_nil, Option.or_none]
      simp [hx]
  · rw [if_neg hc]
    simp only [List.lookup_nil, Option.or_none]
    constructor
    · exact .inl
    · rintro (hg | ⟨hn, hl, rfl, -⟩)
      · exact hg
      · exact absurd ⟨hl, hn⟩ hc

private theorem nameOf_define (hr : s.index.resolve s.found previous d.name = (id, after))
    (i : VariableId) : (s.define previous d).index.nameOf i = after.nameOf i := by
  rw [index_define hr]
  exact nameOf_addDefinition after id i d

private theorem made_define (hr : s.index.resolve s.found previous d.name = (id, after))
    {i : VariableId} : (s.define previous d).index.Made i ↔ after.Made i := by
  rw [index_define hr]
  exact made_addDefinition

private theorem keyed_define (hk : s.index.Keyed)
    (hr : s.index.resolve s.found previous d.name = (id, after))
    (h : Resolved s.index s.found previous d.name id after) : (s.define previous d).index.Keyed := by
  have hnew : ∀ e, e ∈ (s.define previous d).index.globals →
      e ∈ s.index.globals ∨ e = (d.name, id) := by
    intro e he
    rw [globals_define hr h] at he
    rcases List.mem_append.1 he with he | he
    · exact .inl he
    · split at he
      · exact .inr (List.mem_singleton.1 he)
      · simp at he
  constructor
  · rw [globals_define hr h]
    split
    · exact nodup_keys_append hk.nodup ‹_ ∧ _›.2 id
    · rw [List.append_nil]
      exact hk.nodup
  · intro e he
    rw [made_define hr]
    rcases hnew e he with he | rfl
    · exact h.made_of _ (hk.made e he)
    · exact h.made
  · intro e he
    rw [nameOf_define hr]
    rcases hnew e he with he | rfl
    · rw [h.nameOf _ (hk.made e he), hk.name e he]
    · exact h.named

theorem taken_define (hk : s.index.Keyed) (hf : ∀ i ∈ s.found, s.index.Made i)
    (hp : ∀ i ∈ previous, s.index.Made i) (d : Definition) :
    ∃ id, Taken s previous d id (s.define previous d) := by
  rcases hr : s.index.resolve s.found previous d.name with ⟨id, after⟩
  have h : Resolved s.index s.found previous d.name id after := by
    have := resolve_resolved hk hf hp d.name
    rwa [hr] at this
  have hdefs : ∀ i, (s.define previous d).index.definitionsOf i =
      (after.addDefinition id d).definitionsOf i :=
    fun i => by rw [index_define hr]; rfl
  exact ⟨id,
    { keyed := keyed_define hk hr h
      named := by rw [nameOf_define hr, h.named]
      made := by rw [made_define hr]; exact h.made
      made_of := fun i hi => by rw [made_define hr]; exact h.made_of i hi
      nameOf := fun i hi => by rw [nameOf_define hr, h.nameOf i hi]
      locals := by rw [index_define hr]; exact h.locals
      definitions := fun i => by rw [hdefs, definitionsOf_addDefinition h.made, h.definitions]
      globals := global?_define hr h
      found := found_define hr
      source := h.source }⟩

end Define

end PassageEditor.VariableIndex
