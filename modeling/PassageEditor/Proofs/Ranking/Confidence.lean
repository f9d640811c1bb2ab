import PassageEditor.Ranking

/-!
# What the confidence filter keeps

The filter keeps items that it is given, whatever the scores are (`mem_of_mem_confidenceFilter`), and it
never drops the only one (`confidenceFilter_singleton`).
-/

namespace PassageEditor.Ranking

variable {α β : Type}

/-! ### Sorting -/

section Sorting

variable [LT β] [DecidableLT β]

private theorem perm_insertScored (item : α × β) (sorted : List (α × β)) :
    (insertScored item sorted).Perm (item :: sorted) := by
  induction sorted with
  | nil => exact List.Perm.refl _
  | cons last before ih =>
    unfold insertScored
    split
    · exact (ih.cons last).trans (List.Perm.swap item last before)
    · exact List.Perm.refl _

theorem perm_sortScored (items : List (α × β)) : (sortScored items).Perm items := by
  have hinserted : ∀ sorted : List (α × β),
      (items.foldl (fun sorted item => insertScored item sorted) sorted).Perm (items ++ sorted) := by
    induction items with
    | nil => exact fun sorted => List.Perm.refl sorted
    | cons item items ih =>
      intro sorted
      exact (ih _).trans (((perm_insertScored item sorted).append_left items).trans List.perm_middle)
  have hall := hinserted []
  rw [List.append_nil] at hall
  exact (List.reverse_perm _).trans hall

end Sorting

/-! ### Cutting -/

/-- The best score reaches the floor that it decides. -/
private theorem reaches_floorFor [LE β] [DecidableLE β] (floors : Floors β) (top : β) :
    reaches (floors.floorFor top) top = true := by
  unfold Floors.floorFor
  split
  · exact decide_eq_true ‹_›
  · split
    · exact decide_eq_true ‹_›
    · rfl

variable [LT β] [DecidableLT β] [LE β] [DecidableLE β]

theorem mem_of_mem_confidenceFilter {floors : Floors β} {items : List (α × β)} {a : α}
    (h : a ∈ confidenceFilter floors items) : a ∈ items.map (·.1) := by
  have hsorted : ∀ item ∈ sortScored items, item.1 ∈ items.map (·.1) := fun item hitem =>
    List.mem_map_of_mem ((perm_sortScored items).mem_iff.1 hitem)
  unfold confidenceFilter at h
  split at h
  · simp at h
  · rename_i top rest hitems
    obtain ⟨item, hitem, rfl⟩ := List.mem_map.1 h
    rw [hitems] at hsorted
    exact hsorted item (List.mem_filter.1 hitem).1

theorem confidenceFilter_singleton (floors : Floors β) (item : α × β) :
    confidenceFilter floors [item] = [item.1] := by
  have hsorted : sortScored [item] = [item] := rfl
  simp [confidenceFilter, hsorted, reaches_floorFor]

theorem mem_of_mem_rank {candidates : List String} {query name : String}
    (h : name ∈ rank candidates query) :
    name ∈ candidates := by
  have hmem := mem_of_mem_confidenceFilter h
  rwa [List.map_map, Function.comp_def, List.map_id'] at hmem

theorem rank_singleton (name query : String) : rank [name] query = [name] :=
  confidenceFilter_singleton _ _

end PassageEditor.Ranking
