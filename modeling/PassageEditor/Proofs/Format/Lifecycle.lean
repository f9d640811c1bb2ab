import PassageEditor.Proofs.Format.Keys
import PassageEditor.Proofs.Lookup

/-!
# The lifecycle of a format

What a call on the registry can do is said once (`Registry.call_cases`): it fails and changes nothing, or
it moves the registry at its own key (`Registry.Moves`), where an entry comes in or goes on by a step
(`StoryFormat.Step`).  The invariant `Registry.Sound` is kept by a move, so it holds after every run of
calls, and what a caller can rely on is read off it and off the moves (`Registry.Lifecycle`).
-/

namespace PassageEditor

/-! ### Calls -/

namespace RegistryM

variable {α β : Type}

private theorem call_bind (r : Registry) (m : RegistryM α) (k : α → RegistryM β) :
    r.call (m >>= k) =
      match r.call m with
      | (.ok a, r') => r'.call (k a)
      | (.error e, r') => (.error e, r') := by
  have hcont : r.call (m >>= k) = ExceptT.bindCont k (r.call m).1 (r.call m).2 := rfl
  rw [hcont]
  match r.call m with
  | (.ok a, r') => rfl
  | (.error e, r') => rfl

@[simp]
theorem call_pure (r : Registry) (a : α) : r.call (pure a) = (.ok a, r) := rfl

@[simp]
theorem call_throw (r : Registry) (e : FormatError) : r.call (throw e : RegistryM α) = (.error e, r) :=
  rfl

@[simp]
theorem call_get (r : Registry) : r.call get = (.ok r, r) := rfl

@[simp]
theorem call_modify (r : Registry) (change : Registry → Registry) :
    r.call (modify change) = (.ok (), change r) := rfl

private theorem call_lookup (r : Registry) (format : FormatRef) :
    r.call (lookup format) =
      match r.find? format with
      | some f => (.ok f, r)
      | none => (.error (.notFound format), r) := by
  rw [lookup, call_bind, call_get]
  dsimp only
  cases r.find? format <;> rfl

private theorem call_register (r : Registry) (format : FormatRef) :
    r.call (register format) =
      match format.trimmed.validate with
      | .error e => (.error e, r)
      | .ok () =>
        match r.find? format.trimmed with
        | some _ => (.error (.duplicate format.trimmed), r)
        | none => (.ok (), r.insert format.trimmed (.unloaded format.trimmed)) := by
  unfold register FormatRef.trimmed
  dsimp only [StoryFormat.unloaded]
  rw [call_bind]
  cases FormatRef.validate ⟨Text.trim format.name, Text.trim format.version⟩ with
  | error e => rfl
  | ok _ =>
    show Registry.call r _ = _
    rw [call_bind, call_get]
    dsimp only
    cases r.find? ⟨Text.trim format.name, Text.trim format.version⟩ <;> rfl

private theorem call_beginLoad (r : Registry) (format : FormatRef) :
    r.call (beginLoad format) =
      match r.find? format with
      | none => (.error (.notFound format), r)
      | some f =>
        if f.state = .unloaded then (.ok true, r.modify format (·.begun)) else (.ok false, r) := by
  rw [beginLoad, call_bind, call_lookup]
  cases r.find? format with
  | none => rfl
  | some f =>
    dsimp only
    by_cases h : f.state = .unloaded
    · rw [if_neg (not_not.2 h), if_pos h]
      rfl
    · rw [if_pos h, if_neg h]
      rfl

private theorem call_finishLoad (r : Registry) (format : FormatRef) (result : Except String Extensions) :
    r.call (finishLoad format result) =
      match r.find? format with
      | none => (.error (.notFound format), r)
      | some f =>
        if f.state = .loading then (.ok (), r.settle format result)
        else (.error (.notLoading format f.state.name), r) := by
  rw [finishLoad, call_bind, call_lookup]
  cases r.find? format with
  | none => rfl
  | some f =>
    dsimp only
    by_cases h : f.state = .loading
    · rw [if_neg (not_not.2 h), if_pos h]
      rfl
    · rw [if_pos h, if_neg h]
      rfl

end RegistryM

/-! ### One call -/

/-- What a state can turn into. -/
inductive LoadState.Next : LoadState → LoadState → Prop
  | begins : Next unloaded loading
  | loads : Next loading loaded
  | fails : Next loading failed

namespace StoryFormat

/-- What one call can make of an entry. -/
inductive Step (f : StoryFormat) : StoryFormat → Prop
  | stays : Step f f
  | begins (unloaded : f.state = .unloaded) : Step f f.begun
  | settles (loading : f.state = .loading) (stamp : Nat) (result : Except String Extensions) :
      Step f (f.settled stamp result)

/-- What is said of a format under a key agrees. -/
structure Sound (key : FormatRef) (f : StoryFormat) : Prop where
  format : f.format = key
  proper : key.Proper
  extensions : f.extensions.isSome ↔ f.state = .loaded
  loadError : f.loadError.isSome ↔ f.state = .failed

private theorem sound_unloaded {key : FormatRef} (h : key.Proper) : (unloaded key).Sound key :=
  ⟨rfl, h, by simp [unloaded], by simp [unloaded]⟩

namespace Step

variable {f g : StoryFormat}

theorem state (h : f.Step g) : g.state = f.state ∨ f.state.Next g.state := by
  cases h with
  | stays => exact .inl rfl
  | begins unloaded =>
    rw [unloaded]
    exact .inr .begins
  | settles loading stamp result =>
    rw [loading]
    cases result with
    | ok x => exact .inr .loads
    | error message => exact .inr .fails

/-- A format that has begun to load does not become unloaded again. -/
private theorem state_ne_unloaded (h : f.Step g) (hf : f.state ≠ .unloaded) : g.state ≠ .unloaded := by
  cases h with
  | stays => exact hf
  | begins unloaded => exact absurd unloaded hf
  | settles _ _ result => cases result <;> simp [settled]

private theorem eq_of_loaded (h : f.Step g) (hf : f.state = .loaded) : g = f := by
  cases h with
  | stays => rfl
  | begins unloaded => simp [hf] at unloaded
  | settles loading => simp [hf] at loading

theorem sound {key : FormatRef} (h : f.Step g) (hf : f.Sound key) : g.Sound key := by
  cases h with
  | stays => exact hf
  | begins unloaded =>
    refine ⟨hf.format, hf.proper, ?_, ?_⟩
    · simpa [begun, unloaded] using hf.extensions
    · simpa [begun, unloaded] using hf.loadError
  | settles loading stamp result =>
    cases result with
    | ok x => exact ⟨hf.format, hf.proper, by simp [settled], by simp [settled]⟩
    | error message => exact ⟨hf.format, hf.proper, by simp [settled], by simp [settled]⟩

end Step

end StoryFormat

namespace Registry

inductive Op
  | register (format : FormatRef)
  | beginLoad (format : FormatRef)
  | finishLoad (format : FormatRef) (result : Except String Extensions)
  | lookup (format : FormatRef)

def Op.run : Op → RegistryM Unit
  | register format => RegistryM.register format
  | beginLoad format => discard (RegistryM.beginLoad format)
  | finishLoad format result => RegistryM.finishLoad format result
  | lookup format => discard (RegistryM.lookup format)

/-- The key a call is about: only a registration takes off blanks. -/
def Op.key : Op → FormatRef
  | register format => format.trimmed
  | beginLoad format | finishLoad format _ | lookup format => format

def after (r : Registry) (op : Op) : Registry := (r.call op.run).2

/-- The registry after some calls. -/
def run (r : Registry) (ops : List Op) : Registry := ops.foldl after r

/-- What a call that succeeds can do to a registry, at its own key. -/
inductive Moves (r : Registry) (key : FormatRef) : Registry → Prop
  | stays : Moves r key r
  | registers (proper : key.Proper) (fresh : r.find? key = none) :
      Moves r key (r.insert key (.unloaded key))
  | begins {f : StoryFormat} (found : r.find? key = some f) (unloaded : f.state = .unloaded) :
      Moves r key (r.modify key (·.begun))
  | settles {f : StoryFormat} (found : r.find? key = some f) (loading : f.state = .loading)
      (result : Except String Extensions) : Moves r key (r.settle key result)

private theorem call_discard {α : Type} (r : Registry) (m : RegistryM α) :
    r.call (discard m) =
      match r.call m with
      | (.ok _, r') => (.ok (), r')
      | (.error e, r') => (.error e, r') := by
  have hbind : r.call (discard m) = r.call (m >>= fun _ => pure ()) := rfl
  rw [hbind, RegistryM.call_bind]
  match r.call m with
  | (.ok a, r') => rfl
  | (.error e, r') => rfl

/-- A call fails and changes nothing, or moves the registry at its key. -/
theorem call_cases (r : Registry) (op : Op) :
    (∃ e, r.call op.run = (.error e, r)) ∨ ∃ r', r.call op.run = (.ok (), r') ∧ Moves r op.key r' := by
  cases op with
  | register format =>
    rw [Op.run, RegistryM.call_register]
    cases hv : format.trimmed.validate with
    | error e => exact .inl ⟨e, rfl⟩
    | ok u =>
      -- the blanks are off already when the format is checked
      have hproper := (FormatRef.validate_eq_ok_iff format.trimmed_trimmed).1 hv
      cases hf : r.find? format.trimmed with
      | some f => exact .inl ⟨_, rfl⟩
      | none => exact .inr ⟨_, rfl, .registers hproper hf⟩
  | beginLoad format =>
    rw [Op.run, call_discard, RegistryM.call_beginLoad]
    cases hf : r.find? format with
    | none => exact .inl ⟨_, rfl⟩
    | some f =>
      refine .inr ?_
      dsimp only
      by_cases h : f.state = .unloaded
      · rw [if_pos h]
        exact ⟨_, rfl, .begins hf h⟩
      · rw [if_neg h]
        exact ⟨_, rfl, .stays⟩
  | finishLoad format result =>
    rw [Op.run, RegistryM.call_finishLoad]
    cases hf : r.find? format with
    | none => exact .inl ⟨_, rfl⟩
    | some f =>
      dsimp only
      by_cases h : f.state = .loading
      · rw [if_pos h]
        exact .inr ⟨_, rfl, .settles hf h result⟩
      · rw [if_neg h]
        exact .inl ⟨_, rfl⟩
  | lookup format =>
    rw [Op.run, call_discard, RegistryM.call_lookup]
    cases hf : r.find? format with
    | none => exact .inl ⟨_, rfl⟩
    | some f => exact .inr ⟨_, rfl, .stays⟩

private theorem moves_after (r : Registry) (op : Op) : Moves r op.key (r.after op) := by
  unfold after
  obtain ⟨e, h⟩ | ⟨r', h, hmoves⟩ := r.call_cases op
  · rw [h]
    exact .stays
  · rw [h]
    exact hmoves

private theorem find?_insert {r : Registry} {key : FormatRef} (fresh : r.find? key = none)
    (f : StoryFormat) (k : FormatRef) :
    (r.insert key f).find? k = if k = key then some f else r.find? k := by
  have hlast : (r.insert key f).find? k = (r.find? k).or ([(key, f)].lookup k) := List.lookup_append
  rw [hlast, lookup_pair]
  by_cases hk : k = key
  · rw [if_pos hk, if_pos hk, hk, fresh, Option.none_or]
  · rw [if_neg hk, if_neg hk, List.lookup_nil, Option.or_none]

private theorem find?_modify (r : Registry) (key : FormatRef) (change : StoryFormat → StoryFormat)
    (k : FormatRef) :
    (r.modify key change).find? k = if k = key then (r.find? k).map change else r.find? k :=
  lookup_map_ite r.formats key k change

private theorem find?_settle (r : Registry) (key : FormatRef) (result : Except String Extensions)
    (k : FormatRef) :
    (r.settle key result).find? k =
      if k = key then (r.find? k).map (·.settled r.nextStamp result) else r.find? k :=
  r.find?_modify key (·.settled r.nextStamp result) k

namespace Moves

variable {r r' : Registry} {key : FormatRef}

/-- The other entries are left alone. -/
private theorem find?_of_ne (h : Moves r key r') {k : FormatRef} (hk : k ≠ key) :
    r'.find? k = r.find? k := by
  cases h with
  | stays => rfl
  | registers _ fresh => rw [find?_insert fresh, if_neg hk]
  | begins => rw [find?_modify, if_neg hk]
  | settles => rw [find?_settle, if_neg hk]

/-- An entry that is there stays, or goes on by a step. -/
private theorem find?_of_some (h : Moves r key r') {k : FormatRef} {f : StoryFormat}
    (hf : r.find? k = some f) :
    ∃ g, r'.find? k = some g ∧ f.Step g := by
  by_cases hk : k = key
  · subst hk
    cases h with
    | stays => exact ⟨f, hf, .stays⟩
    | registers _ fresh => simp [hf] at fresh
    | begins found unloaded =>
      obtain rfl : f = _ := Option.some.inj (hf.symm.trans found)
      refine ⟨f.begun, ?_, .begins unloaded⟩
      rw [find?_modify, if_pos rfl, hf, Option.map_some]
    | settles found loading result =>
      obtain rfl : f = _ := Option.some.inj (hf.symm.trans found)
      refine ⟨f.settled r.nextStamp result, ?_, .settles loading r.nextStamp result⟩
      rw [find?_settle, if_pos rfl, hf, Option.map_some]
  · exact ⟨f, by rw [h.find?_of_ne hk, hf], .stays⟩

/-- An entry that was not there is one of an unloaded format. -/
private theorem find?_of_none (h : Moves r key r') {k : FormatRef} {g : StoryFormat}
    (hf : r.find? k = none) (hg : r'.find? k = some g) : k.Proper ∧ g = .unloaded k := by
  by_cases hk : k = key
  · subst hk
    cases h with
    | stays => simp [hf] at hg
    | registers proper fresh =>
      rw [find?_insert fresh, if_pos rfl] at hg
      exact ⟨proper, (Option.some.inj hg).symm⟩
    | begins found => simp [hf] at found
    | settles found => simp [hf] at found
  · rw [h.find?_of_ne hk, hf] at hg
    cases hg

private theorem nextStamp_le (h : Moves r key r') : r.nextStamp ≤ r'.nextStamp := by
  cases h with
  | stays | registers | begins => exact Nat.le_refl _
  | settles => exact Nat.le_succ _

end Moves

/-- The extensions a registry holds under a key, switched off or not. -/
def held? (r : Registry) (key : FormatRef) : Option LoadedExtensions := (r.find? key).bind (·.extensions)

/-- What is held under a key was held there before, or is new and has the next stamp. -/
private theorem Moves.held? {r r' : Registry} {key : FormatRef} (h : Moves r key r') {k : FormatRef}
    {x : LoadedExtensions} (hx : r'.held? k = some x) :
    r.held? k = some x ∨ k = key ∧ x.stamp = r.nextStamp ∧ r'.nextStamp = r.nextStamp + 1 := by
  by_cases hk : k = key
  · subst hk
    cases h with
    | stays => exact .inl hx
    | registers _ fresh =>
      rw [Registry.held?, find?_insert fresh, if_pos rfl] at hx
      cases hx
    | begins found =>
      rw [Registry.held?, find?_modify, if_pos rfl, found] at hx
      rw [Registry.held?, found]
      exact .inl hx
    | settles found loading result =>
      rw [Registry.held?, find?_settle, if_pos rfl, found] at hx
      cases result with
      | ok x' =>
        obtain rfl : _ = x := Option.some.inj hx
        exact .inr ⟨rfl, rfl, rfl⟩
      | error message => cases hx
  · rw [Registry.held?, h.find?_of_ne hk] at hx
    exact .inl hx

/-! ### The invariant -/

/-- Every entry agrees with its key and in itself, and no two hold extensions of one stamp. -/
structure Sound (r : Registry) : Prop where
  keys : (r.formats.map (·.1)).Nodup
  entries : ∀ key f, r.find? key = some f → f.Sound key
  stamps : ∀ key x, r.held? key = some x → x.stamp < r.nextStamp
  distinct : ∀ key key' x x', r.held? key = some x → r.held? key' = some x' →
    x.stamp = x'.stamp → key = key'

private theorem sound_empty : Sound empty where
  keys := List.nodup_nil
  entries _ _ hf := nomatch hf
  stamps _ _ hx := nomatch hx
  distinct _ _ _ _ hx := nomatch hx

private theorem keys_modify (r : Registry) (key : FormatRef) (change : StoryFormat → StoryFormat) :
    (r.modify key change).formats.map (·.1) = r.formats.map (·.1) := by
  unfold modify
  rw [List.map_map]
  refine List.map_congr_left fun e _ => ?_
  dsimp only [Function.comp_apply]
  split <;> rfl

namespace Sound

variable {r r' : Registry} {key : FormatRef}

private theorem keys_moves (sound : r.Sound) (h : Moves r key r') : (r'.formats.map (·.1)).Nodup := by
  cases h with
  | stays => exact sound.keys
  | registers _ fresh => exact nodup_keys_append sound.keys fresh _
  | begins =>
    rw [keys_modify]
    exact sound.keys
  | settles =>
    unfold settle
    rw [keys_modify]
    exact sound.keys

private theorem entries_moves (sound : r.Sound) (h : Moves r key r') {k : FormatRef} {g : StoryFormat}
    (hg : r'.find? k = some g) : g.Sound k := by
  cases hf : r.find? k with
  | none =>
    obtain ⟨hproper, rfl⟩ := h.find?_of_none hf hg
    exact StoryFormat.sound_unloaded hproper
  | some f =>
    obtain ⟨g', hg', hstep⟩ := h.find?_of_some hf
    obtain rfl : g' = g := Option.some.inj (hg'.symm.trans hg)
    exact hstep.sound (sound.entries k f hf)

/-- A move keeps the invariant. -/
theorem moves (sound : r.Sound) (h : Moves r key r') : r'.Sound where
  keys := sound.keys_moves h
  entries _ _ hg := sound.entries_moves h hg
  stamps k x hx := by
    obtain hx | ⟨-, hstamp, hnext⟩ := h.held? hx
    · exact Nat.lt_of_lt_of_le (sound.stamps k x hx) h.nextStamp_le
    · omega
  distinct k k' x x' hx hx' hsame := by
    -- a new stamp is above all that were held before
    obtain hx | ⟨hk, hstamp, -⟩ := h.held? hx <;> obtain hx' | ⟨hk', hstamp', -⟩ := h.held? hx'
    · exact sound.distinct k k' x x' hx hx' hsame
    · have := sound.stamps k x hx
      omega
    · have := sound.stamps k' x' hx'
      omega
    · rw [hk, hk']

end Sound

private theorem sound_run {r : Registry} (sound : r.Sound) (ops : List Op) : (r.run ops).Sound := by
  induction ops generalizing r with
  | nil => exact sound
  | cons op ops ih => exact ih (sound.moves (r.moves_after op))

/-! ### What stays through a run -/

private theorem find?_run_of_loaded {r : Registry} {key : FormatRef} {f : StoryFormat}
    (hf : r.find? key = some f) (hstate : f.state = .loaded) (ops : List Op) :
    (r.run ops).find? key = some f := by
  induction ops generalizing r with
  | nil => exact hf
  | cons op ops ih =>
    obtain ⟨g, hg, hstep⟩ := (r.moves_after op).find?_of_some hf
    rw [hstep.eq_of_loaded hstate] at hg
    exact ih hg

/-- A format that has begun to load is never told to load again. -/
private theorem find?_run_of_begun {r : Registry} {key : FormatRef} {f : StoryFormat}
    (hf : r.find? key = some f) (hstate : f.state ≠ .unloaded) (ops : List Op) :
    ∃ g, (r.run ops).find? key = some g ∧ g.state ≠ .unloaded := by
  induction ops generalizing r f with
  | nil => exact ⟨f, hf, hstate⟩
  | cons op ops ih =>
    obtain ⟨g, hg, hstep⟩ := (r.moves_after op).find?_of_some hf
    exact ih hg (hstep.state_ne_unloaded hstate)

/-! ### What callers can rely on -/

private theorem after_of_error {r : Registry} {op : Op} {e : FormatError}
    (h : (r.call op.run).1 = .error e) :
    r.after op = r := by
  unfold after
  obtain ⟨e', hcall⟩ | ⟨r', hcall, -⟩ := r.call_cases op
  · rw [hcall]
  · rw [hcall] at h
    cases h

private theorem beginLoad_eq_true_iff {r : Registry} {key : FormatRef} :
    (r.call (.beginLoad key)).1 = .ok true ↔ ∃ f, r.find? key = some f ∧ f.state = .unloaded := by
  rw [RegistryM.call_beginLoad]
  cases hf : r.find? key with
  | none => simp
  | some f => by_cases h : f.state = .unloaded <;> simp [h]

private theorem beginLoad_eq_false_iff {r : Registry} {key : FormatRef} :
    (r.call (.beginLoad key)).1 = .ok false ↔ ∃ f, r.find? key = some f ∧ f.state ≠ .unloaded := by
  rw [RegistryM.call_beginLoad]
  cases hf : r.find? key with
  | none => simp
  | some f => by_cases h : f.state = .unloaded <;> simp [h]

private theorem find?_after_beginLoad {r : Registry} {key : FormatRef} {f : StoryFormat}
    (hf : r.find? key = some f) (h : f.state = .unloaded) :
    (r.after (.beginLoad key)).find? key = some f.begun := by
  have hafter : r.after (.beginLoad key) = r.modify key (·.begun) := by
    unfold after
    rw [Op.run, call_discard, RegistryM.call_beginLoad, hf]
    dsimp only
    rw [if_pos h]
  rw [hafter, find?_modify, if_pos rfl, hf, Option.map_some]

private theorem Sound.extensionsFor_eq {r : Registry} (sound : r.Sound) (key : FormatRef)
    (config : Config) :
    r.extensionsFor key config = if config.isDisabled key then none else r.held? key := by
  unfold extensionsFor held?
  cases hf : r.find? key with
  | none => rfl
  | some f =>
    by_cases hloaded : f.state = .loaded
    · simp [hloaded]
    · have hnone : f.extensions = none := by simpa [hloaded] using (sound.entries key f hf).extensions
      simp [hloaded, hnone]

/-- The lifecycle of the formats of a registry, as callers see it. -/
structure Lifecycle (r : Registry) : Prop where
  keys : (r.formats.map (·.1)).Nodup
  entries : ∀ e ∈ r.formats, e.2.Sound e.1
  /-- A call takes no entry away, and moves its state by no more than a step. -/
  moves : ∀ op key f, r.find? key = some f →
    ∃ g, (r.after op).find? key = some g ∧ (g.state = f.state ∨ f.state.Next g.state)
  starts : ∀ op key g, r.find? key = none → (r.after op).find? key = some g → g.state = .unloaded
  refuses : ∀ op e, (r.call op.run).1 = .error e → r.after op = r
  frame : ∀ op key, key ≠ op.key → (r.after op).find? key = r.find? key
  /-- The caller that was told to load a format is the only one. -/
  begins : ∀ key, (r.call (.beginLoad key)).1 = .ok true →
    ∀ ops, (((r.after (.beginLoad key)).run ops).call (.beginLoad key)).1 = .ok false
  exposes : ∀ key config, (r.extensionsFor key config).isSome ↔
    (∃ f, r.find? key = some f ∧ f.state = .loaded) ∧ key ∉ config.disabledFormats
  /-- Extensions that were given once are given ever after, to all who have not switched them off. -/
  keeps : ∀ key config x, r.extensionsFor key config = some x →
    ∀ ops config', (r.run ops).extensionsFor key config' = if config'.isDisabled key then none else some x
  /-- Extensions of two formats are told apart by their stamps. -/
  distinct : ∀ key key' config config' x x', r.extensionsFor key config = some x →
    r.extensionsFor key' config' = some x' → x.stamp = x'.stamp → key = key'

namespace Sound

variable {r : Registry}

private theorem mem_sound (sound : r.Sound) {e : FormatRef × StoryFormat} (he : e ∈ r.formats) :
    e.2.Sound e.1 :=
  sound.entries e.1 e.2 ((lookup_eq_some_iff_mem sound.keys).2 he)

private theorem held?_of_extensionsFor (sound : r.Sound) {key : FormatRef} {config : Config}
    {x : LoadedExtensions} (hx : r.extensionsFor key config = some x) : r.held? key = some x := by
  rw [sound.extensionsFor_eq] at hx
  split at hx
  · cases hx
  · exact hx

private theorem isSome_held?_iff (sound : r.Sound) (key : FormatRef) :
    (r.held? key).isSome ↔ ∃ f, r.find? key = some f ∧ f.state = .loaded := by
  unfold held?
  cases hf : r.find? key with
  | none => simp
  | some f => simpa using (sound.entries key f hf).extensions

/-- What is held stays: its format is loaded for good. -/
private theorem held?_run (sound : r.Sound) {key : FormatRef} {x : LoadedExtensions}
    (hx : r.held? key = some x) (ops : List Op) : (r.run ops).held? key = some x := by
  obtain ⟨f, hf, hloaded⟩ := (sound.isSome_held?_iff key).1 (by rw [hx, Option.isSome_some])
  have hrun : (r.run ops).held? key = r.held? key := by
    rw [held?, held?, find?_run_of_loaded hf hloaded ops, hf]
  rw [hrun, hx]

private theorem isSome_extensionsFor_iff (sound : r.Sound) (key : FormatRef) (config : Config) :
    (r.extensionsFor key config).isSome ↔
      (∃ f, r.find? key = some f ∧ f.state = .loaded) ∧ key ∉ config.disabledFormats := by
  have hdisabled : config.isDisabled key ↔ key ∈ config.disabledFormats := List.contains_iff_mem
  rw [sound.extensionsFor_eq, ← sound.isSome_held?_iff, ← hdisabled]
  by_cases h : config.isDisabled key <;> simp [h]

private theorem lifecycle (sound : r.Sound) : r.Lifecycle where
  keys := sound.keys
  entries _ he := sound.mem_sound he
  moves op key f hf := by
    obtain ⟨g, hg, hstep⟩ := (r.moves_after op).find?_of_some hf
    exact ⟨g, hg, hstep.state⟩
  starts op key g hf hg := by
    obtain ⟨-, rfl⟩ := (r.moves_after op).find?_of_none hf hg
    rfl
  refuses _ _ h := after_of_error h
  frame op _ hkey := (r.moves_after op).find?_of_ne hkey
  begins key htrue ops := by
    obtain ⟨f, hf, hstate⟩ := beginLoad_eq_true_iff.1 htrue
    have hbegun := find?_after_beginLoad hf hstate
    exact beginLoad_eq_false_iff.2 (find?_run_of_begun hbegun (by simp [StoryFormat.begun]) ops)
  exposes := sound.isSome_extensionsFor_iff
  keeps key config x hx ops config' := by
    have hheld := sound.held?_run (sound.held?_of_extensionsFor hx) ops
    rw [(sound_run sound ops).extensionsFor_eq, hheld]
  distinct key key' config config' x x' hx hx' :=
    sound.distinct key key' x x' (sound.held?_of_extensionsFor hx) (sound.held?_of_extensionsFor hx')

end Sound

/-- After every run of calls from the empty registry. -/
theorem lifecycle_of_run (ops : List Op) : (empty.run ops).Lifecycle :=
  (sound_run sound_empty ops).lifecycle

/-- A load that fails after the format was loaded comes too late. -/
example :
    let format : FormatRef := ⟨"Harlowe", "3.2.1"⟩
    ((empty.run
        [.register ⟨" Harlowe ", "3.2.1"⟩, .beginLoad format, .finishLoad format (.ok .empty),
          .finishLoad format (.error "lost")]).extensionsFor format .default).map (·.stamp) = some 0 := by
  rfl

end Registry

end PassageEditor
