import PassageEditor.Proofs.Variable.History

/-!
# Names built into the format

A scan registers the names built into the format that it meets, each once and with a variable of its own.
Nothing ever takes such a name away, so those that an index has are all that any scan has met
(`builtin_run`).  Objects keep their names and new ones are put behind the old ones, so all of this is
told by the list of the names of the objects.
-/

namespace PassageEditor.VariableIndex

/-! ### The names of the objects -/

/-- The names of all objects, in the order of their making. -/
def objectNames (ix : VariableIndex) : List String := ix.objects.map (·.name)

theorem nameOf_eq (ix : VariableIndex) (i : VariableId) :
    ix.nameOf i = (ix.objectNames[i.value]?).getD "" := by
  simp [nameOf, object?, objectNames]

private theorem made_iff_lt {ix : VariableIndex} {i : VariableId} :
    ix.Made i ↔ i.value < ix.objectNames.length := by
  simp [Made, objectNames]

/-- An object that is there keeps its name when others are put behind it. -/
private theorem nameOf_extends {ix new : VariableIndex} (h : ix.objectNames <+: new.objectNames)
    {i : VariableId} (hi : ix.Made i) : new.nameOf i = ix.nameOf i := by
  obtain ⟨added, hadded⟩ := h
  have hlt : i.value < ix.objectNames.length := made_iff_lt.1 hi
  rw [nameOf_eq, nameOf_eq, ← hadded, List.getElem?_append_left hlt]

private theorem made_of_prefix {ix new : VariableIndex} (h : ix.objectNames <+: new.objectNames)
    {i : VariableId} (hi : ix.Made i) : new.Made i :=
  made_iff_lt.2 (Nat.lt_of_lt_of_le (made_iff_lt.1 hi) h.length_le)

@[simp]
theorem objectNames_fresh (ix : VariableIndex) (name : String) :
    (ix.fresh name).2.objectNames = ix.objectNames ++ [name] := by
  simp [objectNames, fresh]

private theorem map_name_modify (objects : List Variable) (n : Nat) (f : Variable → Variable)
    (hf : ∀ v, (f v).name = v.name) : (objects.modify n f).map (·.name) = objects.map (·.name) := by
  apply List.ext_getElem?
  intro k
  rw [List.getElem?_map, List.getElem?_map, List.getElem?_modify]
  cases objects[k]? with
  | none => rfl
  | some v => by_cases hk : n = k <;> simp [hk, hf]

@[simp]
theorem objectNames_addDefinition (ix : VariableIndex) (id : VariableId) (d : Definition) :
    (ix.addDefinition id d).objectNames = ix.objectNames :=
  map_name_modify ix.objects id.value _ fun _ => rfl

@[simp]
theorem objectNames_stripped (ix : VariableIndex) (passage : PassageId) (ids : List VariableId) :
    (ix.stripped passage ids).objectNames = ix.objectNames := by
  unfold stripped
  induction ids generalizing ix with
  | nil => rfl
  | cons id ids ih =>
    rw [List.foldl_cons, ih]
    exact map_name_modify ix.objects id.value _ fun _ => rfl

@[simp]
theorem natives_stripped (ix : VariableIndex) (passage : PassageId) (ids : List VariableId) :
    (ix.stripped passage ids).natives = ix.natives := by
  unfold stripped
  induction ids generalizing ix with
  | nil => rfl
  | cons id ids ih => rw [List.foldl_cons, ih]; rfl

private theorem resolve_grows (ix : VariableIndex) (found previous : List VariableId) (name : String) :
    ix.objectNames <+: (ix.resolve found previous name).2.objectNames ∧
      (ix.resolve found previous name).2.natives = ix.natives := by
  unfold resolve
  split
  · exact ⟨List.prefix_rfl, rfl⟩
  · rw [objectNames_fresh]
    exact ⟨List.prefix_append _ _, rfl⟩

/-- A definition may make an object, and registers no name built in. -/
private theorem define_grows (s : Scan) (previous : List VariableId) (d : Definition) :
    s.index.objectNames <+: (s.define previous d).index.objectNames ∧
      (s.define previous d).index.natives = s.index.natives := by
  obtain ⟨hnames, hnatives⟩ := resolve_grows s.index s.found previous d.name
  rcases hr : s.index.resolve s.found previous d.name with ⟨id, after⟩
  rw [hr] at hnames hnatives
  dsimp only at hnames hnatives
  have hsame : (s.define previous d).index.objectNames = after.objectNames := by
    rw [← objectNames_addDefinition after id d]
    simp only [Scan.define, hr]
    split <;> rfl
  have hnone : (s.define previous d).index.natives = after.natives := by
    simp only [Scan.define, hr]
    split <;> rfl
  rw [hsame, hnone]
  exact ⟨hnames, hnatives⟩

/-! ### What a scan does, step by step -/

/-- The scan when the last token of the passage is in. -/
def scanned (ix : VariableIndex) (passage : PassageId) (passageName : String) (tokens : List Token) :
    Scan :=
  tokens.foldl (Scan.token passage passageName (ix.own passage))
    ⟨ix.stripped passage (ix.own passage), []⟩

private theorem collect_same (ix : VariableIndex) (id : VariableId) :
    (collect ix id).objects = ix.objects ∧ (collect ix id).natives = ix.natives ∧
      (collect ix id).locals = ix.locals := by
  unfold collect
  split <;> exact ⟨rfl, rfl, rfl⟩

private theorem foldl_collect_same (ix : VariableIndex) (ids : List VariableId) :
    (ids.foldl collect ix).objects = ix.objects ∧ (ids.foldl collect ix).natives = ix.natives ∧
      (ids.foldl collect ix).locals = ix.locals := by
  induction ids generalizing ix with
  | nil => exact ⟨rfl, rfl, rfl⟩
  | cons id ids ih =>
    obtain ⟨hobjects, hnatives, hlocals⟩ := ih (collect ix id)
    obtain ⟨hobjects', hnatives', hlocals'⟩ := collect_same ix id
    exact ⟨hobjects.trans hobjects', hnatives.trans hnatives', hlocals.trans hlocals'⟩

section Reset

variable (ix : VariableIndex) (passage : PassageId) (passageName : String) (tokens : List Token)

/-- The variables that the passage had and that the scan did not find. -/
def givenUp : List VariableId :=
  (ix.own passage).filter fun id => !(ix.scanned passage passageName tokens).found.contains id

private theorem resetPassage_eq :
    let s := ix.scanned passage passageName tokens
    let collected := (ix.givenUp passage passageName tokens).foldl collect s.index
    ix.resetPassage passage passageName tokens =
      { collected with locals := (passage, s.found) :: collected.locals.filter (·.1 ≠ passage) } := rfl

private theorem objects_resetPassage :
    (ix.resetPassage passage passageName tokens).objects =
      (ix.scanned passage passageName tokens).index.objects := by
  rw [resetPassage_eq]
  exact (foldl_collect_same _ _).1

theorem natives_resetPassage :
    (ix.resetPassage passage passageName tokens).natives =
      (ix.scanned passage passageName tokens).index.natives := by
  rw [resetPassage_eq]
  exact (foldl_collect_same _ _).2.1

theorem locals_resetPassage :
    (ix.resetPassage passage passageName tokens).locals =
      (passage, (ix.scanned passage passageName tokens).found) ::
        (ix.scanned passage passageName tokens).index.locals.filter (·.1 ≠ passage) := by
  rw [resetPassage_eq]
  show _ :: ((ix.givenUp passage passageName tokens).foldl collect _).locals.filter _ = _
  rw [(foldl_collect_same _ _).2.2]

/-- Where the scan found all that the passage had, no variable is looked at for being left without
definitions. -/
theorem globals_resetPassage_of_found
    (h : ∀ i ∈ ix.own passage, i ∈ (ix.scanned passage passageName tokens).found) :
    (ix.resetPassage passage passageName tokens).globals =
      (ix.scanned passage passageName tokens).index.globals := by
  have hnone : ix.givenUp passage passageName tokens = [] := by
    unfold givenUp
    rw [List.filter_eq_nil_iff]
    intro i hi
    simp [h i hi]
  rw [resetPassage_eq, hnone]
  rfl

theorem own_resetPassage :
    (ix.resetPassage passage passageName tokens).own passage =
      (ix.scanned passage passageName tokens).found := by
  unfold own locals?
  rw [locals_resetPassage, lookup_pair, if_pos rfl, Option.getD_some]

/-- The variables of the passage stand at the front, and nowhere else. -/
theorem locals_resetPassage_eq :
    let new := ix.resetPassage passage passageName tokens
    (passage, new.own passage) :: new.locals.filter (·.1 ≠ passage) = new.locals := by
  intro new
  have hlocals : new.locals = (passage, new.own passage) ::
      (ix.scanned passage passageName tokens).index.locals.filter (·.1 ≠ passage) := by
    rw [own_resetPassage]
    exact locals_resetPassage ix passage passageName tokens
  rw [hlocals, List.filter_cons_of_neg (by simp), List.filter_filter]
  simp

theorem objectNames_resetPassage :
    (ix.resetPassage passage passageName tokens).objectNames =
      (ix.scanned passage passageName tokens).index.objectNames := by
  unfold objectNames
  rw [objects_resetPassage]

theorem nameOf_resetPassage (i : VariableId) :
    (ix.resetPassage passage passageName tokens).nameOf i =
      (ix.scanned passage passageName tokens).index.nameOf i := by
  rw [nameOf_eq, nameOf_eq, objectNames_resetPassage]

end Reset

/-! ### Registered names -/

/-- The names built into the format are `names`, each there once and under the name of its variable. -/
structure Builtin (ix : VariableIndex) (names : String → Prop) : Prop where
  nodup : (ix.natives.map (·.1)).Nodup
  made : ∀ e ∈ ix.natives, ix.Made e.2
  name : ∀ e ∈ ix.natives, ix.nameOf e.2 = e.1
  registered : ∀ x, (ix.natives.lookup x).isSome ↔ names x

namespace Builtin

variable {ix new : VariableIndex} {names : String → Prop}

private theorem empty : Builtin .empty fun _ => False := by
  constructor <;> simp [VariableIndex.empty]

private theorem congr (h : Builtin ix names) {names' : String → Prop} (hnames : ∀ x, names x ↔ names' x) :
    Builtin ix names' :=
  ⟨h.nodup, h.made, h.name, fun x => (h.registered x).trans (hnames x)⟩

/-- Objects that are made for other reasons do not matter. -/
private theorem of_prefix (h : Builtin ix names) (hnames : ix.objectNames <+: new.objectNames)
    (hnatives : new.natives = ix.natives) : Builtin new names where
  nodup := hnatives ▸ h.nodup
  made e he := made_of_prefix hnames (h.made e (hnatives ▸ he))
  name e he := by
    rw [hnatives] at he
    rw [nameOf_extends hnames (h.made e he), h.name e he]
  registered := hnatives ▸ h.registered

/-- A name that is met for the first time gets a variable. -/
private theorem addNative (h : Builtin ix names) (name : String) :
    Builtin (ix.addNative name) fun x => names x ∨ x = name := by
  unfold VariableIndex.addNative
  by_cases hthere : (ix.natives.lookup name).isSome
  · rw [if_pos hthere]
    refine h.congr fun x => ⟨.inl, ?_⟩
    rintro (hx | rfl)
    · exact hx
    · exact (h.registered x).1 hthere
  · rw [if_neg hthere]
    have hnew : ix.natives.lookup name = none := Option.not_isSome_iff_eq_none.1 hthere
    have hnames : ix.objectNames <+: (ix.fresh name).2.objectNames := by
      rw [objectNames_fresh]
      exact List.prefix_append _ _
    have hcases : ∀ e, e ∈ ix.natives ++ [(name, (ix.fresh name).1)] ↔
        e ∈ ix.natives ∨ e = (name, (ix.fresh name).1) := by
      intro e
      rw [List.mem_append, List.mem_singleton]
    refine ⟨nodup_keys_append h.nodup hnew _, ?_, ?_, ?_⟩
    · intro e he
      rcases (hcases e).1 he with he | rfl
      · exact made_of_prefix hnames (h.made e he)
      · exact made_fresh.2 (.inr rfl)
    · intro e he
      rcases (hcases e).1 he with he | rfl
      · exact (nameOf_extends hnames (h.made e he)).trans (h.name e he)
      · exact nameOf_fresh_self ix name
    · intro x
      show ((ix.natives ++ [(name, (ix.fresh name).1)]).lookup x).isSome ↔ _
      rw [List.lookup_append, ← h.registered, lookup_pair]
      by_cases hx : x = name <;> simp [hx]

private theorem token {s : Scan} (h : Builtin s.index names) (passage : PassageId) (passageName : String)
    (previous : List VariableId) (t : Token) :
    Builtin (s.token passage passageName previous t).index fun x => names x ∨ t = .native x := by
  cases t with
  | native name =>
    refine (h.addNative name).congr fun x => ?_
    simp [eq_comm]
  | mention t =>
    have hnone : ∀ x, names x ↔ names x ∨ Token.mention t = .native x := by simp
    simp only [Scan.token]
    cases t.definition? with
    | none => exact h.congr hnone
    | some expression =>
      obtain ⟨hnames, hnatives⟩ := define_grows s previous
        ⟨t.name, t.position, expression, t.isLocal, passage, passageName⟩
      exact (h.of_prefix hnames hnatives).congr hnone

theorem tokens {s : Scan} (h : Builtin s.index names) (passage : PassageId) (passageName : String)
    (previous : List VariableId) (ts : List Token) :
    Builtin (ts.foldl (Scan.token passage passageName previous) s).index fun x =>
      names x ∨ .native x ∈ ts := by
  induction ts generalizing s names with
  | nil => exact h.congr (by simp)
  | cons t ts ih =>
    refine (ih (h.token passage passageName previous t)).congr fun x => ?_
    rw [List.mem_cons, or_assoc, eq_comm]

/-- A scan registers the names built in that are among its tokens. -/
theorem reset (h : Builtin ix names) (passage : PassageId) (passageName : String) (tokens : List Token) :
    Builtin (ix.resetPassage passage passageName tokens) fun x => names x ∨ .native x ∈ tokens := by
  let start : Scan := ⟨ix.stripped passage (ix.own passage), []⟩
  have hstart : Builtin start.index names :=
    h.of_prefix (by simp [start]) (natives_stripped ix passage (ix.own passage))
  have hscanned : Builtin (ix.scanned passage passageName tokens).index fun x =>
      names x ∨ .native x ∈ tokens :=
    hstart.tokens passage passageName (ix.own passage) tokens
  exact hscanned.of_prefix (by simp [objectNames_resetPassage])
    (natives_resetPassage ix passage passageName tokens)

/-- To forget a passage takes no name away. -/
theorem remove (h : Builtin ix names) (passage : PassageId) (passageName : String) :
    Builtin (ix.removePassage passage passageName) names := by
  have hreset : Builtin (ix.resetPassage passage passageName []) names :=
    (h.reset passage passageName []).congr fun x => by simp
  exact ⟨hreset.nodup, hreset.made, hreset.name, hreset.registered⟩

end Builtin

/-- Whether some scan has met a name built into the format. -/
def Registered (ops : List Op) (x : String) : Prop :=
  ∃ passage passageName tokens, .reset passage passageName tokens ∈ ops ∧ .native x ∈ tokens

private theorem registered_append (ops : List Op) (op : Op) (x : String) :
    Registered (ops ++ [op]) x ↔
      Registered ops x ∨
        ∃ passage passageName tokens, op = .reset passage passageName tokens ∧ .native x ∈ tokens := by
  unfold Registered
  simp only [List.mem_append, List.mem_singleton, or_and_right, exists_or, eq_comm (a := op)]

theorem builtin_run (ops : List Op) : Builtin (run ops) (Registered ops) := by
  induction ops using List.reverseRecOn with
  | nil => exact Builtin.empty.congr (by simp [Registered])
  | append_singleton ops op ih =>
    rw [run_append]
    cases op with
    | reset passage passageName tokens =>
      refine (ih.reset passage passageName tokens).congr fun x => ?_
      rw [registered_append]
      simp
    | remove passage passageName =>
      refine (ih.remove passage passageName).congr fun x => ?_
      rw [registered_append]
      simp

end PassageEditor.VariableIndex
