import Mathlib.Data.List.Nodup

/-!
# Lookups in lists of pairs

The index, the tracker and the globals are lists of pairs with a key.  A value is put in by taking the old
pair of its key out first, so what a lookup gives can be told key by key (`lookup_filter_ne`,
`lookup_put`); where the keys do not repeat, a lookup finds exactly the pairs of the list
(`lookup_eq_some_iff_mem`).
-/

namespace PassageEditor

variable {κ β : Type} [DecidableEq κ]

theorem lookup_pair (l : List (κ × β)) (i j : κ) (b : β) :
    ((i, b) :: l).lookup j = if j = i then some b else l.lookup j := by
  by_cases h : j = i
  · subst h
    simp
  · rw [List.lookup_cons, beq_false_of_ne h, if_neg h]

theorem lookup_filter_ne (l : List (κ × β)) (k j : κ) :
    (l.filter (·.1 ≠ k)).lookup j = if j = k then none else l.lookup j := by
  induction l with
  | nil => simp
  | cons p l ih =>
    obtain ⟨i, b⟩ := p
    rw [List.filter_cons, lookup_pair]
    by_cases hik : i = k
    · subst hik
      simp only [ne_eq, not_true_eq_false, decide_false, Bool.false_eq_true, ↓reduceIte, ih]
      split <;> rfl
    · simp only [ne_eq, hik, not_false_eq_true, decide_true, ↓reduceIte, lookup_pair, ih]
      by_cases hji : j = i
      · subst hji
        simp [hik]
      · simp [hji]

/-- Putting a pair in the place of the old one of its key. -/
theorem lookup_put (l : List (κ × β)) (k j : κ) (b : β) :
    ((k, b) :: l.filter (·.1 ≠ k)).lookup j = if j = k then some b else l.lookup j := by
  rw [lookup_pair, lookup_filter_ne]
  split <;> rfl

/-- Changing what stands under a key. -/
theorem lookup_map_ite (l : List (κ × β)) (key k : κ) (change : β → β) :
    (l.map fun e => if e.1 = key then (e.1, change e.2) else e).lookup k =
      if k = key then (l.lookup k).map change else l.lookup k := by
  induction l with
  | nil => simp
  | cons p l ih =>
    obtain ⟨i, b⟩ := p
    rw [List.map_cons, lookup_pair]
    by_cases hi : i = key
    · rw [if_pos hi, lookup_pair, ih]
      by_cases hk : k = i
      · simp [hk, hi]
      · simp only [hk, ↓reduceIte]
    · rw [if_neg hi, lookup_pair, ih]
      by_cases hk : k = i
      · simp [hk, hi]
      · simp only [hk, ↓reduceIte]

theorem mem_of_lookup {l : List (κ × β)} {k : κ} {b : β} (h : l.lookup k = some b) : (k, b) ∈ l := by
  obtain ⟨before, after, rfl, -⟩ := List.lookup_eq_some_iff.1 h
  simp

private theorem lookup_isSome_of_mem {l : List (κ × β)} {k : κ} {b : β} (h : (k, b) ∈ l) :
    (l.lookup k).isSome := by
  rw [List.lookup_isSome_iff]
  exact ⟨(k, b), h, by simp⟩

theorem lookup_eq_some_iff_mem {l : List (κ × β)} (hl : (l.map (·.1)).Nodup) {k : κ} {b : β} :
    l.lookup k = some b ↔ (k, b) ∈ l := by
  refine ⟨mem_of_lookup, fun h => ?_⟩
  obtain ⟨c, hc⟩ := Option.isSome_iff_exists.1 (lookup_isSome_of_mem h)
  have := List.inj_on_of_nodup_map hl (mem_of_lookup hc) h rfl
  simp_all

/-- A key that is not there yet may be put at the end. -/
theorem nodup_keys_append {l : List (κ × β)} (hl : (l.map (·.1)).Nodup) {k : κ} (h : l.lookup k = none)
    (b : β) : ((l ++ [(k, b)]).map (·.1)).Nodup := by
  rw [List.map_append, List.nodup_append]
  refine ⟨hl, by simp, ?_⟩
  intro i hi j hj
  simp only [List.map_cons, List.map_nil, List.mem_singleton] at hj
  subst hj
  rintro rfl
  obtain ⟨⟨i, c⟩, hp, rfl⟩ := List.mem_map.1 hi
  have := lookup_isSome_of_mem hp
  simp [h] at this

omit [DecidableEq κ] in
theorem nodup_keys_filter {l : List (κ × β)} (hl : (l.map (·.1)).Nodup) (p : κ × β → Bool) :
    ((l.filter p).map (·.1)).Nodup :=
  hl.sublist ((List.filter_sublist).map _)

end PassageEditor
