import Mathlib.Tactic.ByContra
import PassageEditor.Variable.Index

/-!
# Variable objects

What making a variable, adding a definition and taking the definitions of a passage away do to the names
and the definitions of the objects of an index.  Names never change, and each of the three leaves the
globals and the locals alone.
-/

namespace PassageEditor.VariableIndex

/-- Whether an object of that number has been made. -/
def Made (ix : VariableIndex) (id : VariableId) : Prop := id.value < ix.objects.length

/-- The variables that a passage defines. -/
def own (ix : VariableIndex) (passage : PassageId) : List VariableId := (ix.locals? passage).getD []

private theorem eq_of_value_eq {i id : VariableId} (h : id.value = i.value) : i = id := by
  cases i
  cases id
  simp_all

/-! ### Making a variable -/

theorem made_fresh {ix : VariableIndex} {name : String} {id : VariableId} :
    (ix.fresh name).2.Made id ↔ ix.Made id ∨ id = (ix.fresh name).1 := by
  obtain ⟨n⟩ := id
  simp only [fresh, Made, List.length_append, List.length_cons, List.length_nil, VariableId.mk.injEq]
  omega

theorem not_made_fresh (ix : VariableIndex) (name : String) : ¬ ix.Made (ix.fresh name).1 := by
  simp [fresh, Made]

theorem nameOf_fresh {ix : VariableIndex} {id : VariableId} (name : String) (h : ix.Made id) :
    (ix.fresh name).2.nameOf id = ix.nameOf id := by
  have h' : id.value < ix.objects.length := h
  simp [nameOf, object?, fresh, List.getElem?_append_left h']

theorem nameOf_fresh_self (ix : VariableIndex) (name : String) :
    (ix.fresh name).2.nameOf (ix.fresh name).1 = name := by
  simp [nameOf, object?, fresh]

@[simp]
theorem definitionsOf_fresh (ix : VariableIndex) (name : String) (id : VariableId) :
    (ix.fresh name).2.definitionsOf id = ix.definitionsOf id := by
  simp only [definitionsOf, object?, fresh]
  rcases Nat.lt_trichotomy id.value ix.objects.length with h | h | h
  · rw [List.getElem?_append_left h]
  · simp [h]
  · rw [List.getElem?_eq_none (by simp; omega), List.getElem?_eq_none (by omega)]

/-! ### Adding a definition -/

@[simp]
theorem made_addDefinition {ix : VariableIndex} {id i : VariableId} {d : Definition} :
    (ix.addDefinition id d).Made i ↔ ix.Made i := by
  simp [addDefinition, Made]

@[simp]
theorem nameOf_addDefinition (ix : VariableIndex) (id i : VariableId) (d : Definition) :
    (ix.addDefinition id d).nameOf i = ix.nameOf i := by
  simp only [nameOf, object?, addDefinition, List.getElem?_modify]
  cases ix.objects[i.value]? with
  | none => rfl
  | some v => by_cases h : id.value = i.value <;> simp [h]

theorem definitionsOf_addDefinition {ix : VariableIndex} {id : VariableId} (h : ix.Made id)
    (i : VariableId) (d : Definition) :
    (ix.addDefinition id d).definitionsOf i = ix.definitionsOf i ++ if i = id then [d] else [] := by
  simp only [definitionsOf, object?, addDefinition, List.getElem?_modify]
  by_cases hi : id.value = i.value
  · have : i = id := eq_of_value_eq hi
    subst this
    have h' : i.value < ix.objects.length := h
    simp [List.getElem?_eq_getElem h']
  · have : i ≠ id := fun e => hi (e ▸ rfl)
    simp [hi, this]

/-! ### Taking the definitions of a passage away -/

private theorem made_strip {passage : PassageId} {ix : VariableIndex} {id i : VariableId} :
    (strip passage ix id).Made i ↔ ix.Made i := by
  simp [strip, Made]

private theorem nameOf_strip (passage : PassageId) (ix : VariableIndex) (id i : VariableId) :
    (strip passage ix id).nameOf i = ix.nameOf i := by
  simp only [nameOf, object?, strip, List.getElem?_modify]
  cases ix.objects[i.value]? with
  | none => rfl
  | some v => by_cases h : id.value = i.value <;> simp [h]

private theorem definitionsOf_strip (passage : PassageId) (ix : VariableIndex) (id i : VariableId) :
    (strip passage ix id).definitionsOf i =
      if i = id then (ix.definitionsOf i).filter (·.passage ≠ passage) else ix.definitionsOf i := by
  simp only [definitionsOf, object?, strip, List.getElem?_modify]
  by_cases hi : id.value = i.value
  · have : i = id := eq_of_value_eq hi
    subst this
    cases ix.objects[i.value]? <;> simp
  · have : i ≠ id := fun e => hi (e ▸ rfl)
    simp [hi, this]

/-- The index after the definitions of a passage are taken away from some variables. -/
def stripped (ix : VariableIndex) (passage : PassageId) (ids : List VariableId) : VariableIndex :=
  ids.foldl (strip passage) ix

@[simp]
theorem made_stripped {passage : PassageId} {ids : List VariableId} {ix : VariableIndex}
    {i : VariableId} : (ix.stripped passage ids).Made i ↔ ix.Made i := by
  unfold stripped
  induction ids generalizing ix with
  | nil => rfl
  | cons id ids ih => rw [List.foldl_cons, ih, made_strip]

@[simp]
theorem nameOf_stripped (ix : VariableIndex) (passage : PassageId) (ids : List VariableId)
    (i : VariableId) : (ix.stripped passage ids).nameOf i = ix.nameOf i := by
  unfold stripped
  induction ids generalizing ix with
  | nil => rfl
  | cons id ids ih => rw [List.foldl_cons, ih, nameOf_strip]

theorem definitionsOf_stripped (ix : VariableIndex) (passage : PassageId) (ids : List VariableId)
    (i : VariableId) :
    (ix.stripped passage ids).definitionsOf i =
      if i ∈ ids then (ix.definitionsOf i).filter (·.passage ≠ passage) else ix.definitionsOf i := by
  unfold stripped
  induction ids generalizing ix with
  | nil => simp
  | cons id ids ih =>
    rw [List.foldl_cons, ih, definitionsOf_strip]
    by_cases hi : i = id
    · subst hi
      by_cases hm : i ∈ ids <;> simp [hm]
    · simp [hi]

@[simp]
theorem globals_stripped (ix : VariableIndex) (passage : PassageId) (ids : List VariableId) :
    (ix.stripped passage ids).globals = ix.globals := by
  unfold stripped
  induction ids generalizing ix with
  | nil => rfl
  | cons id ids ih => rw [List.foldl_cons, ih]; rfl

@[simp]
theorem locals_stripped (ix : VariableIndex) (passage : PassageId) (ids : List VariableId) :
    (ix.stripped passage ids).locals = ix.locals := by
  unfold stripped
  induction ids generalizing ix with
  | nil => rfl
  | cons id ids ih => rw [List.foldl_cons, ih]; rfl

end PassageEditor.VariableIndex
