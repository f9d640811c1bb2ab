import PassageEditor.Text.Line

/-!
# Cutting and joining lines

The last line before a place and the first line after it are one line of the whole text (`splitAt_append`,
`joinWith_glue`), and where lines hold no separator, cutting what was joined gives them back
(`splitAt_joinWith`).
-/

namespace PassageEditor.Text

variable {sep : Char}

/-! ### Joining -/

private theorem joinWith_cons {pieces : List (List Char)} (h : pieces ≠ []) (piece : List Char) :
    joinWith sep (piece :: pieces) = piece ++ sep :: joinWith sep pieces := by
  cases pieces with
  | nil => exact absurd rfl h
  | cons p ps => rfl

private theorem joinWith_append {as bs : List (List Char)} (ha : as ≠ []) (hb : bs ≠ []) :
    joinWith sep (as ++ bs) = joinWith sep as ++ sep :: joinWith sep bs := by
  induction as with
  | nil => exact absurd rfl ha
  | cons a as ih =>
    cases as with
    | nil => exact joinWith_cons hb a
    | cons a' as =>
      have hcons : joinWith sep (a :: a' :: as) = a ++ sep :: joinWith sep (a' :: as) :=
        joinWith_cons (by simp) a
      rw [List.cons_append, joinWith_cons (by simp) a, ih (by simp), hcons,
        List.append_assoc, List.cons_append]

/-- A piece may be cut in two where the text is cut. -/
theorem joinWith_glue (as bs : List (List Char)) (x y : List Char) :
    joinWith sep (as ++ (x ++ y) :: bs) = joinWith sep (as ++ [x]) ++ joinWith sep (y :: bs) := by
  have hxy : joinWith sep ((x ++ y) :: bs) = x ++ joinWith sep (y :: bs) := by
    cases bs with
    | nil => rfl
    | cons b bs => simp [joinWith]
  cases as with
  | nil => simpa [joinWith] using hxy
  | cons a as =>
    rw [joinWith_append (by simp) (by simp), joinWith_append (by simp) (by simp), hxy]
    simp [joinWith]

/-- A text without the separator that stands at the front stands in the first piece. -/
theorem prefix_of_prefix_joinWith {cs piece : List Char} {pieces : List (List Char)} (h : sep ∉ cs)
    (hp : cs <+: joinWith sep (piece :: pieces)) : cs <+: piece := by
  cases pieces with
  | nil => exact hp
  | cons p ps =>
    rw [joinWith_cons (by simp)] at hp
    rcases Nat.lt_or_ge piece.length cs.length with hlt | hle
    · -- a longer text would hold the separator that follows the piece
      have hsep : piece ++ [sep] <+: cs := by
        refine List.prefix_of_prefix_length_le ⟨joinWith sep (p :: ps), by simp⟩ hp ?_
        rw [List.length_append, List.length_singleton]
        omega
      exact absurd (hsep.subset (by simp)) h
    · exact List.prefix_of_prefix_length_le hp (List.prefix_append _ _) hle

/-- Pieces may be joined beforehand. -/
theorem joinWith_joined (as bs : List (List Char)) {ps : List (List Char)} (h : ps ≠ []) :
    joinWith sep (as ++ (ps ++ bs)) = joinWith sep (as ++ joinWith sep ps :: bs) := by
  have hps : joinWith sep (ps ++ bs) = joinWith sep (joinWith sep ps :: bs) := by
    cases bs with
    | nil => simp [joinWith]
    | cons b bs =>
      rw [joinWith_append h (by simp)]
      exact (joinWith_cons (by simp) _).symm
  cases as with
  | nil => exact hps
  | cons a as =>
    have hcons : a :: as ≠ [] := by simp
    have hne : ps ++ bs ≠ [] := by simp [h]
    have hne' : joinWith sep ps :: bs ≠ [] := by simp
    rw [joinWith_append hcons hne, joinWith_append hcons hne', hps]

/-! ### Cutting -/

theorem exists_splitAt_eq_append (sep : Char) (cs : List Char) : ∃ as x, splitAt sep cs = as ++ [x] :=
  ⟨(splitAt sep cs).dropLast, (splitAt sep cs).getLast (splitAt_ne_nil sep cs),
    (List.dropLast_concat_getLast (splitAt_ne_nil sep cs)).symm⟩

theorem exists_splitAt_eq_cons (sep : Char) (cs : List Char) : ∃ y bs, splitAt sep cs = y :: bs :=
  List.exists_cons_of_ne_nil (splitAt_ne_nil sep cs)

/-- Cutting a text of two parts: the last piece of the first and the first piece of the second are one
piece. -/
theorem splitAt_append {a b x y : List Char} {as bs : List (List Char)} (ha : splitAt sep a = as ++ [x])
    (hb : splitAt sep b = y :: bs) : splitAt sep (a ++ b) = as ++ (x ++ y) :: bs := by
  induction a generalizing as x with
  | nil =>
    have h : as = [] ∧ x = [] := by
      cases as with
      | nil => simpa [splitAt, eq_comm] using ha
      | cons p ps => simp [splitAt] at ha
    simp [h, hb]
  | cons c a ih =>
    rw [List.cons_append]
    unfold splitAt at ha ⊢
    by_cases hc : c = sep
    · rw [if_pos hc] at ha ⊢
      cases as with
      | nil =>
        simp only [List.nil_append, List.cons.injEq] at ha
        exact absurd ha.2 (splitAt_ne_nil sep a)
      | cons p ps =>
        rw [List.cons_append, List.cons.injEq] at ha
        rw [ih ha.2, ← ha.1, List.cons_append]
    · rw [if_neg hc] at ha ⊢
      cases hs : splitAt sep a with
      | nil => exact absurd hs (splitAt_ne_nil sep a)
      | cons p ps =>
        rw [hs] at ha
        cases as with
        | nil =>
          obtain ⟨rfl, rfl⟩ : c :: p = x ∧ ps = [] := by simpa using ha
          have := ih (show splitAt sep a = [] ++ [p] from hs)
          rw [this]
          rfl
        | cons q qs =>
          obtain ⟨rfl, rfl⟩ : c :: p = q ∧ ps = qs ++ [x] := by simpa using ha
          have := ih (show splitAt sep a = (p :: qs) ++ [x] from hs)
          rw [this]
          rfl

theorem splitAt_of_not_mem {cs : List Char} (h : sep ∉ cs) : splitAt sep cs = [cs] := by
  induction cs with
  | nil => rfl
  | cons c cs ih =>
    rw [List.mem_cons, not_or] at h
    rw [splitAt, if_neg (Ne.symm h.1), ih h.2]

theorem splitAt_joinWith {pieces : List (List Char)} (h : pieces ≠ [])
    (hsep : ∀ piece ∈ pieces, sep ∉ piece) :
    splitAt sep (joinWith sep pieces) = pieces := by
  induction pieces with
  | nil => exact absurd rfl h
  | cons piece pieces ih =>
    have hpiece : splitAt sep piece = [] ++ [piece] := splitAt_of_not_mem (hsep piece (by simp))
    cases pieces with
    | nil => exact hpiece
    | cons p ps =>
      have hrest : splitAt sep (sep :: joinWith sep (p :: ps)) = [] :: p :: ps := by
        rw [splitAt, if_pos rfl, ih (by simp) fun q hq => hsep q (by simp [hq])]
      rw [joinWith_cons (by simp), splitAt_append hpiece hrest, List.append_nil, List.nil_append]

end PassageEditor.Text
