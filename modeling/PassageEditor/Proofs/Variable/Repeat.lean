import PassageEditor.Proofs.Variable.Identity
import PassageEditor.Proofs.Variable.Natives

/-!
# Scanning a passage twice

When a passage has just been scanned, its tokens are no news to the index: every name that they define is
that of a variable of the passage, and is global where a definition is for all passages (`Known`).  A scan
of such tokens makes no object and no name global (`Alike.tokens`), and it resolves each name to the
variable that the passage has under it.  So a second scan of the same tokens puts back just the
definitions that it has taken away, in the same places, and leaves the index as it is
(`resetPassage_idem_of_run`).
-/

namespace PassageEditor.VariableIndex

/-! ### Scans that find nothing new -/

/-- Two indexes that differ in the definitions of their objects at most. -/
structure Alike (ix new : VariableIndex) : Prop where
  names : new.objectNames = ix.objectNames
  natives : new.natives = ix.natives
  globals : new.globals = ix.globals
  locals : new.locals = ix.locals

/-- The token is no news: its name is registered, or it defines one of the variables `previous`, which is
global where the definition is for all passages. -/
def Known (ix : VariableIndex) (previous : List VariableId) : Token → Prop
  | .native name => (ix.natives.lookup name).isSome
  | .mention t => t.definition?.isSome →
      (∃ i ∈ previous, ix.nameOf i = t.name) ∧ (t.isLocal = false → (ix.global? t.name).isSome)

namespace Alike

variable {ix new : VariableIndex}

private theorem nameOf (h : Alike ix new) (i : VariableId) : new.nameOf i = ix.nameOf i := by
  rw [nameOf_eq, nameOf_eq, h.names]

private theorem global? (h : Alike ix new) (name : String) : new.global? name = ix.global? name := by
  unfold VariableIndex.global?
  rw [h.globals]

private theorem stripped (ix : VariableIndex) (passage : PassageId) (ids : List VariableId) :
    Alike ix (ix.stripped passage ids) where
  names := objectNames_stripped ix passage ids
  natives := natives_stripped ix passage ids
  globals := globals_stripped ix passage ids
  locals := locals_stripped ix passage ids

/-- A name of one of the variables `previous` is not resolved to a new one. -/
private theorem snd_resolve {previous : List VariableId} {name : String}
    (hthere : ∃ i ∈ previous, new.nameOf i = name) (found : List VariableId) :
    (new.resolve found previous name).2 = new := by
  have hsome : new.named? previous name ≠ none := by
    intro hnone
    obtain ⟨i, hi, hname⟩ := hthere
    exact named?_eq_none.1 hnone i hi hname
  unfold resolve
  cases hg : new.global? name with
  | some g => rfl
  | none =>
    cases hf : new.named? found name with
    | some i => rfl
    | none =>
      cases hp : new.named? previous name with
      | some i => rfl
      | none => exact absurd hp hsome

/-- So its definition is added to an object that is there, and the name is global already if it is to
be. -/
private theorem define {s : Scan} (h : Alike ix s.index) {previous : List VariableId} {d : Definition}
    (hthere : ∃ i ∈ previous, ix.nameOf i = d.name)
    (hglobal : d.isLocal = false → (ix.global? d.name).isSome) :
    Alike ix (s.define previous d).index := by
  have hnamed : ∃ i ∈ previous, s.index.nameOf i = d.name := by
    obtain ⟨i, hi, hname⟩ := hthere
    exact ⟨i, hi, (h.nameOf i).trans hname⟩
  have hsame : (s.index.resolve s.found previous d.name).2 = s.index := snd_resolve hnamed s.found
  rcases hr : s.index.resolve s.found previous d.name with ⟨id, after⟩
  rw [hr] at hsame
  obtain rfl : after = s.index := hsame
  have hkept : (d.isLocal || ((s.index.addDefinition id d).global? d.name).isSome) = true := by
    have hg : (s.index.addDefinition id d).global? d.name = ix.global? d.name := h.global? d.name
    rw [hg]
    cases hl : d.isLocal with
    | true => rfl
    | false => simpa using hglobal hl
  have hindex : (s.define previous d).index = s.index.addDefinition id d := by
    simp only [Scan.define, hr, hkept, if_true]
  rw [hindex]
  exact ⟨(objectNames_addDefinition s.index id d).trans h.names, h.natives, h.globals, h.locals⟩

private theorem token {s : Scan} (h : Alike ix s.index) {previous : List VariableId} {t : Token}
    (hknown : Known ix previous t) (passage : PassageId) (passageName : String) :
    Alike ix (s.token passage passageName previous t).index := by
  cases t with
  | native name =>
    have hthere : (s.index.natives.lookup name).isSome = true := by
      rw [h.natives]
      exact hknown
    have hsame : s.index.addNative name = s.index := by
      unfold addNative
      rw [if_pos hthere]
    show Alike ix (s.index.addNative name)
    rw [hsame]
    exact h
  | mention t =>
    simp only [Scan.token]
    cases hd : t.definition? with
    | none => exact h
    | some expression =>
      obtain ⟨hthere, hglobal⟩ := hknown (by simp [hd])
      exact h.define hthere hglobal

/-- Tokens that are no news change the definitions of objects alone. -/
theorem tokens {s : Scan} (h : Alike ix s.index) {previous : List VariableId} {ts : List Token}
    (hknown : ∀ t ∈ ts, Known ix previous t) (passage : PassageId) (passageName : String) :
    Alike ix (ts.foldl (Scan.token passage passageName previous) s).index := by
  induction ts generalizing s with
  | nil => exact h
  | cons t ts ih =>
    have hfirst := h.token (hknown t List.mem_cons_self) passage passageName
    exact ih hfirst fun t' ht' => hknown t' (List.mem_cons_of_mem _ ht')

end Alike

/-- With the definitions of its objects an index is told completely. -/
private theorem Alike.eq {ix new : VariableIndex} (h : Alike ix new)
    (hdefs : ∀ i, new.definitionsOf i = ix.definitionsOf i) :
    new = ix := by
  have hobjects : new.objects = ix.objects := by
    have hlength : new.objects.length = ix.objects.length := by
      have := congrArg List.length h.names
      simpa [objectNames] using this
    apply List.ext_getElem hlength
    intro k hk hk'
    have hname := h.nameOf ⟨k⟩
    have hdef := hdefs ⟨k⟩
    simp only [VariableIndex.nameOf, definitionsOf, object?, List.getElem?_eq_getElem hk,
      List.getElem?_eq_getElem hk',
      Option.map_some, Option.getD_some] at hname hdef
    calc new.objects[k] = ⟨new.objects[k].name, new.objects[k].definitions⟩ := rfl
      _ = ⟨ix.objects[k].name, ix.objects[k].definitions⟩ := by rw [hname, hdef]
  obtain ⟨-, hnatives, hglobals, hlocals⟩ := h
  cases ix
  cases new
  simp_all

/-! ### The scan after a scan -/

section Rescan

variable {ix : VariableIndex} {latest : PassageId → Option (List Definition)}
  {p : PassageId} {passageName : String}
  {tokens : List Token}

private theorem mem_definitionsIn (p : PassageId) (passageName : String) {t : VariableToken}
    {expression : String} (ht : .mention t ∈ tokens) (hd : t.definition? = some expression) :
    (⟨t.name, t.position, expression, t.isLocal, p, passageName⟩ : Definition) ∈
      definitionsIn p passageName tokens :=
  List.mem_filterMap.2 ⟨.mention t, ht, by simp [definitionOf?, hd]⟩

/-- After a scan its tokens are no news. -/
private theorem Sound.known_resetPassage (h : Sound ix latest) {names : String → Prop}
    (hnative : Builtin ix names) {t : Token} (ht : t ∈ tokens) :
    let new := ix.resetPassage p passageName tokens
    Known new (new.own p) t := by
  intro new
  have hnew : Sound new _ := h.reset p passageName tokens
  cases t with
  | native name => exact ((hnative.reset p passageName tokens).registered name).2 (.inr ht)
  | mention t =>
    intro hsome
    obtain ⟨expression, hd⟩ := Option.isSome_iff_exists.1 hsome
    have hmem := mem_definitionsIn p passageName ht hd
    have hlatest : (Function.update latest p (some (definitionsIn p passageName tokens)) p).getD [] =
        definitionsIn p passageName tokens := by simp
    refine ⟨(hnew.found p t.name).2 ⟨_, hlatest ▸ hmem, rfl⟩, fun hl => ?_⟩
    obtain ⟨i, -, -, hg⟩ := hnew.shared p _ (hlatest ▸ hmem) hl
    exact Option.isSome_iff_exists.2 ⟨i, hg⟩

/-- After a scan the variables of its passage are the global ones, where their names are global. -/
private theorem Sound.eq_of_global_rescanned {new : VariableIndex} {ds : List Definition}
    (hr : Rescanned ix p ds new) {i g : VariableId} (hi : i ∈ new.own p)
    (hg : new.global? (new.nameOf i) = some g) : g = i := by
  rcases (hr.globals _ g).1 hg with ⟨hold, -⟩ | ⟨hmem, hname, -⟩
  · exact hr.agree i hi g hold
  · exact List.inj_on_of_nodup_map hr.names hmem hi hname

/-- Lists with the same names in the same order are the same, if no name stands for two of their
entries. -/
private theorem eq_of_map_eq {α β : Type} {f : α → β} {l l' : List α} (hmap : l.map f = l'.map f)
    (hmem : ∀ a ∈ l, a ∈ l') (hnodup : (l'.map f).Nodup) : l = l' := by
  have hlength : l.length = l'.length := by
    have := congrArg List.length hmap
    simpa using this
  apply List.ext_getElem hlength
  intro k hk hk'
  have hsame : f l[k] = f l'[k] := by
    have := congrArg (·[k]?) hmap
    simpa [hk, hk'] using this
  exact List.inj_on_of_nodup_map hnodup (hmem _ (List.getElem_mem hk)) (List.getElem_mem hk') hsame

/-- The passage has the same variables in the same order after the second scan. -/
private theorem Sound.own_resetPassage_again (h : Sound ix latest)
    (halike : let once := ix.resetPassage p passageName tokens
      ∀ i, (once.resetPassage p passageName tokens).nameOf i = once.nameOf i) :
    let once := ix.resetPassage p passageName tokens
    (once.resetPassage p passageName tokens).own p = once.own p := by
  intro once
  have hfirst : Rescanned ix p (definitionsIn p passageName tokens) once :=
    rescanned_resetPassage h.keyed (h.made p) passageName tokens
  have honce : Sound once _ := h.reset p passageName tokens
  have hsecond : Rescanned once p (definitionsIn p passageName tokens)
      (once.resetPassage p passageName tokens) :=
    rescanned_resetPassage honce.keyed (honce.made p) passageName tokens
  have hnames : (once.own p).map once.nameOf =
      ((once.resetPassage p passageName tokens).own p).map once.nameOf := by
    calc (once.own p).map once.nameOf
        = ((definitionsIn p passageName tokens).map (·.name)).eraseDups := hfirst.order
      _ = ((once.resetPassage p passageName tokens).own p).map
        (once.resetPassage p passageName tokens).nameOf :=
          hsecond.order.symm
      _ = ((once.resetPassage p passageName tokens).own p).map once.nameOf :=
        List.map_congr_left fun i _ => halike i
  refine (eq_of_map_eq hnames (fun i hi => ?_) ?_).symm
  · -- the name of `i` is resolved to `i` again
    have hnamed : once.named? (once.own p) (once.nameOf i) = some i := honce.named?_own.2 ⟨hi, rfl⟩
    have hdefined : ∃ d ∈ definitionsIn p passageName tokens, d.name = once.nameOf i :=
      (hfirst.found _).1 ⟨i, hi, rfl⟩
    obtain ⟨j, hj, -, hji⟩ := honce.named?_rescanned hsecond hnamed hdefined
    have hsame : (once.global? (once.nameOf i)).getD i = i := by
      cases hg : once.global? (once.nameOf i) with
      | none => rfl
      | some g => exact Sound.eq_of_global_rescanned hfirst hi hg
    rw [hsame] at hji
    exact hji ▸ hj
  · have := hfirst.names
    rwa [hnames] at this

/-- What the second scan takes away it gives back. -/
private theorem Sound.definitionsOf_resetPassage_again (h : Sound ix latest) (i : VariableId)
    (hnames : let once := ix.resetPassage p passageName tokens
      (once.resetPassage p passageName tokens).nameOf i = once.nameOf i)
    (hown : let once := ix.resetPassage p passageName tokens
      (once.resetPassage p passageName tokens).own p = once.own p) :
    let once := ix.resetPassage p passageName tokens
    (once.resetPassage p passageName tokens).definitionsOf i = once.definitionsOf i := by
  intro once
  have hfirst : Rescanned ix p (definitionsIn p passageName tokens) once :=
    rescanned_resetPassage h.keyed (h.made p) passageName tokens
  have honce : Sound once _ := h.reset p passageName tokens
  have hsecond : Rescanned once p (definitionsIn p passageName tokens)
      (once.resetPassage p passageName tokens) :=
    rescanned_resetPassage honce.keyed (honce.made p) passageName tokens
  have hothers : (once.definitionsOf i).filter (·.passage ≠ p) =
      (ix.definitionsOf i).filter (·.passage ≠ p) := by
    have hnone :
        (if i ∈ once.own p then (definitionsIn p passageName tokens).filter (·.name = once.nameOf i)
        else []).filter (·.passage ≠ p) = [] := by
      rw [List.filter_eq_nil_iff]
      intro d hd
      by_cases hi : i ∈ once.own p
      · rw [if_pos hi] at hd
        have hpassage : d.passage = p := passage_of_mem_definitionsIn (List.mem_of_mem_filter hd)
        simp [hpassage]
      · rw [if_neg hi] at hd
        simp at hd
    rw [h.definitions_eq hfirst, List.filter_append, hnone, List.append_nil, List.filter_filter]
    simp
  rw [honce.definitions_eq hsecond, hown, hnames, hothers, h.definitions_eq hfirst]

end Rescan

/-- After any scans and removals, scanning a passage twice in a row leaves the same index as scanning it
once: the same objects with the same definitions, and the same names and variables in the same order. -/
theorem resetPassage_idem_of_run (ops : List Op) (p : PassageId) (passageName : String)
    (tokens : List Token) :
    let once := (run ops).resetPassage p passageName tokens
    once.resetPassage p passageName tokens = once := by
  intro once
  have h : Sound (run ops) (latest ops) := sound_run ops
  have hknown : ∀ t ∈ tokens, Known once (once.own p) t :=
    fun t ht => h.known_resetPassage (builtin_run ops) ht
  have hscanned : Alike once (once.scanned p passageName tokens).index :=
    (Alike.stripped once p (once.own p)).tokens hknown p passageName
  have hnameOf : ∀ i, (once.resetPassage p passageName tokens).nameOf i = once.nameOf i := fun i =>
    (nameOf_resetPassage once p passageName tokens i).trans (hscanned.nameOf i)
  have hown : (once.resetPassage p passageName tokens).own p = once.own p :=
    h.own_resetPassage_again hnameOf
  have hfound : (once.scanned p passageName tokens).found = once.own p := by
    rw [← own_resetPassage, hown]
  have halike : Alike once (once.resetPassage p passageName tokens) := by
    refine ⟨?_, ?_, ?_, ?_⟩
    · rw [objectNames_resetPassage, hscanned.names]
    · rw [natives_resetPassage, hscanned.natives]
    · rw [globals_resetPassage_of_found once p passageName tokens fun i hi =>
        hfound ▸ hi, hscanned.globals]
    · rw [locals_resetPassage, hscanned.locals, hfound]
      exact locals_resetPassage_eq (run ops) p passageName tokens
  exact halike.eq fun i => h.definitionsOf_resetPassage_again i (hnameOf i) hown

end PassageEditor.VariableIndex
