import PassageEditor.Markup.Scan

/-!
# Where a separator stands

Looking for a separator finds it if it occurs at all (`indexOf?_eq_none_iff`, `lastIndexOf?_eq_none_iff`),
at the first or the last of the places where it does (`indexOf?_eq_some_iff`, `lastIndexOf?_eq_some_iff`).
A text in front that it can not begin in, or that lies before the last occurrence, only moves its place.
-/

namespace PassageEditor.Markup

variable {mark cs : List Char} {i : Nat}

private theorem startsWith_iff : startsWith mark cs = true ↔ mark <+: cs := List.isPrefixOf_iff_prefix

/-! ### Occurrences -/

/-- The separator stands at the place. -/
def OccursAt (mark cs : List Char) (i : Nat) : Prop := mark <+: cs.drop i

instance (mark cs : List Char) (i : Nat) : Decidable (OccursAt mark cs i) :=
  inferInstanceAs (Decidable (mark <+: cs.drop i))

theorem OccursAt.le_length (h : OccursAt mark cs i) (hmark : mark ≠ []) :
    i + mark.length ≤ cs.length := by
  have hle := h.length_le
  have hpos := List.length_pos_iff.2 hmark
  rw [List.length_drop] at hle
  omega

theorem infix_iff_exists_occursAt : mark <:+: cs ↔ ∃ i, OccursAt mark cs i := by
  constructor
  · rintro ⟨before, after, rfl⟩
    refine ⟨before.length, ?_⟩
    rw [OccursAt, List.append_assoc, List.drop_left]
    exact List.prefix_append _ _
  · rintro ⟨i, h⟩
    exact h.isInfix.trans (List.drop_suffix _ _).isInfix

theorem occursAt_drop {n : Nat} : OccursAt mark (cs.drop n) i ↔ OccursAt mark cs (n + i) := by
  rw [OccursAt, OccursAt, List.drop_drop]

theorem exists_occursAt_drop {n : Nat} :
    (∃ i, OccursAt mark (cs.drop n) i) ↔ ∃ i, n ≤ i ∧ OccursAt mark cs i := by
  constructor
  · rintro ⟨i, h⟩
    exact ⟨n + i, Nat.le_add_right _ _, occursAt_drop.1 h⟩
  · rintro ⟨i, hle, h⟩
    exact ⟨i - n, occursAt_drop.2 (by rwa [Nat.add_sub_cancel' hle])⟩

/-- It stands wholly in the first characters. -/
theorem occursAt_take {n : Nat} (hmark : mark ≠ []) :
    OccursAt mark (cs.take n) i ↔ OccursAt mark cs i ∧ i + mark.length ≤ n := by
  have hpos := List.length_pos_iff.2 hmark
  rw [OccursAt, OccursAt, List.drop_take, List.prefix_take_iff]
  refine and_congr_right fun _ => ?_
  omega

/-! ### The first occurrence -/

theorem indexOf?_eq_none_iff (hmark : mark ≠ []) : indexOf? mark cs = none ↔ ¬ mark <:+: cs := by
  induction cs with
  | nil => simp [indexOf?, hmark]
  | cons c cs ih =>
    rw [indexOf?, List.infix_cons_iff, not_or, ← ih]
    split
    · rename_i hstarts
      simp [startsWith_iff.1 hstarts]
    · rename_i hstarts
      simp [mt startsWith_iff.2 hstarts]

theorem isSome_indexOf?_iff (hmark : mark ≠ []) :
    (indexOf? mark cs).isSome ↔ ∃ i, OccursAt mark cs i := by
  rw [Option.isSome_iff_ne_none, ne_eq, indexOf?_eq_none_iff hmark, Classical.not_not,
    infix_iff_exists_occursAt]

/-- The separator does not begin in a text without its first character. -/
theorem indexOf?_append {c : Char} {before : List Char} (h : c ∉ before) :
    indexOf? (c :: mark) (before ++ cs) = (indexOf? (c :: mark) cs).map (· + before.length) := by
  induction before with
  | nil => simp
  | cons d before ih =>
    obtain ⟨hne, hnot⟩ := List.ne_and_not_mem_of_not_mem_cons h
    have hstarts : ¬ startsWith (c :: mark) (d :: (before ++ cs)) = true := by
      rw [startsWith_iff, List.cons_prefix_cons]
      exact fun hprefix => hne hprefix.1
    rw [List.cons_append, indexOf?, if_neg hstarts, ih hnot, Option.map_map]
    rfl

theorem indexOf?_eq_some_iff (hmark : mark ≠ []) :
    indexOf? mark cs = some i ↔ OccursAt mark cs i ∧ ∀ j, j < i → ¬ OccursAt mark cs j := by
  induction cs generalizing i with
  | nil => simp [indexOf?, OccursAt, hmark]
  | cons c cs ih =>
    rw [indexOf?]
    split
    · rename_i hstarts
      have hzero : OccursAt mark (c :: cs) 0 := startsWith_iff.1 hstarts
      constructor
      · intro h
        obtain rfl := Option.some.inj h
        exact ⟨hzero, by simp⟩
      · rintro ⟨-, hfirst⟩
        obtain rfl : i = 0 := Nat.eq_zero_of_not_pos fun hpos => hfirst 0 hpos hzero
        rfl
    · rename_i hstarts
      have hzero : ¬ OccursAt mark (c :: cs) 0 := mt startsWith_iff.2 hstarts
      cases i with
      | zero => exact iff_of_false (by simp) fun h => hzero h.1
      | succ i =>
        have hindex : (indexOf? mark cs).map (· + 1) = some (i + 1) ↔ indexOf? mark cs = some i := by simp
        rw [hindex, ih]
        refine and_congr_right fun _ => ⟨fun hfirst j hj => ?_,
          fun hfirst j hj => hfirst (j + 1) (by omega)⟩
        cases j with
        | zero => exact hzero
        | succ j => exact hfirst j (by omega)

/-! ### The last occurrence -/

/-- The last place where one of the separators stands. -/
structure LastPlace (marks : List (List Char)) (cs : List Char) (i : Nat) : Prop where
  occurs : ∃ mark ∈ marks, OccursAt mark cs i
  last : ∀ j, i < j → ∀ mark ∈ marks, ¬ OccursAt mark cs j

theorem LastPlace.unique {marks : List (List Char)} {j : Nat} (hi : LastPlace marks cs i)
    (hj : LastPlace marks cs j) :
    i = j := by
  obtain ⟨mark, hmark, hoccurs⟩ := hi.occurs
  obtain ⟨mark', hmark', hoccurs'⟩ := hj.occurs
  rcases Nat.lt_trichotomy i j with hlt | heq | hlt
  · exact absurd hoccurs' (hi.last j hlt mark' hmark')
  · exact heq
  · exact absurd hoccurs (hj.last i hlt mark hmark)

/-- What stands behind the last place is free of the separators. -/
theorem LastPlace.not_infix_drop {marks : List (List Char)} {n : Nat} (h : LastPlace marks cs i)
    (hmem : mark ∈ marks) (hn : i < n) : ¬ mark <:+: cs.drop n := by
  rw [infix_iff_exists_occursAt]
  rintro ⟨k, hoccurs⟩
  exact h.last _ (by omega) mark hmem (occursAt_drop.1 hoccurs)

theorem prefix_of_lastIndexOf? (h : lastIndexOf? mark cs = some i) : mark <+: cs.drop i := by
  induction cs generalizing i with
  | nil =>
    obtain rfl : mark = [] := by
      unfold lastIndexOf? at h
      split at h
      · rename_i hempty
        exact List.isEmpty_iff.1 hempty
      · simp at h
    exact List.nil_prefix
  | cons c cs ih =>
    unfold lastIndexOf? at h
    split at h
    · rename_i j hj
      obtain rfl := Option.some.inj h
      exact ih hj
    · split at h
      · rename_i hstarts
        obtain rfl := Option.some.inj h
        exact startsWith_iff.1 hstarts
      · simp at h

theorem lastIndexOf?_eq_none_iff (hmark : mark ≠ []) : lastIndexOf? mark cs = none ↔ ¬ mark <:+: cs := by
  induction cs with
  | nil => simp [lastIndexOf?, hmark]
  | cons c cs ih =>
    rw [lastIndexOf?, List.infix_cons_iff, not_or, ← ih]
    split
    · rename_i hfound
      simp [hfound]
    · rename_i hnone
      split
      · rename_i hstarts
        simp [startsWith_iff.1 hstarts]
      · rename_i hstarts
        simp [mt startsWith_iff.2 hstarts, hnone]

theorem isSome_lastIndexOf?_iff (hmark : mark ≠ []) :
    (lastIndexOf? mark cs).isSome ↔ ∃ i, OccursAt mark cs i := by
  rw [Option.isSome_iff_ne_none, ne_eq, lastIndexOf?_eq_none_iff hmark, Classical.not_not,
    infix_iff_exists_occursAt]

theorem lastIndexOf?_append (h : lastIndexOf? mark cs = some i) (before : List Char) :
    lastIndexOf? mark (before ++ cs) = some (before.length + i) := by
  induction before with
  | nil => simpa using h
  | cons c before ih =>
    rw [List.cons_append, lastIndexOf?, ih, List.length_cons, Nat.add_right_comm]

theorem not_occursAt_of_lastIndexOf? {j : Nat} (hmark : mark ≠ []) (h : lastIndexOf? mark cs = some i)
    (hj : i < j) :
    ¬ OccursAt mark cs j := by
  induction cs generalizing i j with
  | nil => simp [lastIndexOf?, hmark] at h
  | cons c cs ih =>
    obtain ⟨j, rfl⟩ := Nat.exists_eq_succ_of_ne_zero (Nat.ne_zero_of_lt hj)
    unfold lastIndexOf? at h
    split at h
    · rename_i k hk
      obtain rfl := Option.some.inj h
      exact ih hk (Nat.lt_of_succ_lt_succ hj)
    · rename_i hnone
      exact fun hoccurs => (lastIndexOf?_eq_none_iff hmark).1 hnone
        (infix_iff_exists_occursAt.2 ⟨j, hoccurs⟩)

theorem lastIndexOf?_eq_some_iff (hmark : mark ≠ []) :
    lastIndexOf? mark cs = some i ↔ LastPlace [mark] cs i := by
  have hlast : ∀ {i}, lastIndexOf? mark cs = some i → LastPlace [mark] cs i := fun h =>
    ⟨⟨mark, List.mem_singleton_self _, prefix_of_lastIndexOf? h⟩, fun j hj mark' hmem => by
      rw [List.mem_singleton.1 hmem]
      exact not_occursAt_of_lastIndexOf? hmark h hj⟩
  refine ⟨hlast, fun h => ?_⟩
  cases hfound : lastIndexOf? mark cs with
  | some k => rw [(hlast hfound).unique h]
  | none =>
    obtain ⟨mark', hmem, hoccurs⟩ := h.occurs
    rw [List.mem_singleton.1 hmem] at hoccurs
    exact absurd (infix_iff_exists_occursAt.2 ⟨i, hoccurs⟩) ((lastIndexOf?_eq_none_iff hmark).1 hfound)

end PassageEditor.Markup
