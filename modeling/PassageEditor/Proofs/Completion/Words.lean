import PassageEditor.Proofs.Completion.Commands

/-!
# The word at a column

A character is of one class only, since no white space is a letter or a number
(`Text.isAlphanumeric_of_isWhiteSpace`).  The word at a column is a run of one class that no character
next to it could join, and it has the character before the column, or at the start of the line the first
one.  No other ends have these properties (`wordAt_eq_iff`).
-/

namespace PassageEditor

namespace Text

/-! ### White space and words -/

/-- No code point lies between the ends of both spans. -/
def Span.Apart (s t : Span) : Prop := s.last < t.first ∨ t.last < s.first

instance (s t : Span) : Decidable (s.Apart t) := inferInstanceAs (Decidable (_ ∨ _))

private theorem inSpans_of_apart {ss ts : List Span} (h : ∀ s ∈ ss, ∀ t ∈ ts, s.Apart t) {c : Char}
    (hc : inSpans ss c = true) : inSpans ts c = false := by
  obtain ⟨s, hs, hcs⟩ := List.any_eq_true.1 hc
  refine List.any_eq_false.2 fun t ht hct => ?_
  have hapart := h s hs t ht
  simp only [Span.contains, Bool.and_eq_true, decide_eq_true_eq] at hcs hct
  unfold Span.Apart at hapart
  omega

theorem isAlphanumeric_of_isWhiteSpace {c : Char} (h : isWhiteSpace c = true) :
    isAlphanumeric c = false := by
  have hapart : ∀ table ∈ [lowercaseLetters, uppercaseLetters, otherLetters, modifierLetters,
      titlecaseLetters, letterNumbers, otherAlphabetic, decimalDigits, otherNumbers],
        ∀ s ∈ whiteSpace, ∀ t ∈ table, s.Apart t := by
    decide +kernel
  have hnone := fun table htable => inSpans_of_apart (hapart table htable) h
  simp only [List.mem_cons, List.not_mem_nil, or_false, forall_eq_or_imp, forall_eq] at hnone
  simp [isAlphanumeric, isAlphabetic, isLetter, isNumeric, hnone]

end Text

namespace Completion

variable {cs : List Char} {cls : CharClass} {c : Char} {p start stop start' stop' : Nat}

/-- The characters of a class. -/
def CharClass.Has : CharClass → Char → Prop
  | .word, c => Text.isAlphanumeric c = true ∨ c = '_'
  | .space, c => Text.isWhiteSpace c = true
  | .other, c => ¬ (Text.isAlphanumeric c = true ∨ c = '_') ∧ ¬ Text.isWhiteSpace c = true

private theorem CharClass.of_eq_iff : CharClass.of c = cls ↔ cls.Has c := by
  have hspace : Text.isWhiteSpace c = true → ¬ (Text.isAlphanumeric c = true ∨ c = '_') := by
    rintro h (halpha | rfl)
    · simp [Text.isAlphanumeric_of_isWhiteSpace h] at halpha
    · exact absurd h (by decide +kernel)
  unfold CharClass.of
  split
  · rename_i hword
    rw [Bool.or_eq_true, decide_eq_true_eq] at hword
    have hnospace : ¬ Text.isWhiteSpace c = true := fun h => hspace h hword
    cases cls <;> simp [Has, hword, hnospace]
  · rename_i hword
    rw [Bool.or_eq_true, decide_eq_true_eq] at hword
    split <;> cases cls <;> simp_all [Has]

/-- The columns from `start` up to `stop` have characters of the class, and the characters next to them
are of another. -/
structure IsRun (cls : CharClass) (cs : List Char) (start stop : Nat) : Prop where
  of_class : ∀ i c, start ≤ i → i < stop → cs[i]? = some c → cls.Has c
  left : ∀ c, 0 < start → cs[start - 1]? = some c → ¬ cls.Has c
  right : ∀ c, cs[stop]? = some c → ¬ cls.Has c

/-- The columns from `start` up to `stop` are the word that touches the column `p`. -/
structure IsWord (cs : List Char) (p start stop : Nat) : Prop where
  start_le : start ≤ p
  le_stop : p ≤ stop
  stop_le : stop ≤ cs.length
  nonempty : cs ≠ [] → start < stop
  /-- It has the character before the column. -/
  before : 0 < p → start ≤ p - 1 ∧ p - 1 < stop
  /-- Where there is none, it has the one behind the column. -/
  behind : p = 0 → cs ≠ [] → start ≤ p ∧ p < stop
  run : ∃ cls, IsRun cls cs start stop

/-! ### There is only one -/

/-- A run that shares a column with another one of its class does not start behind it. -/
private theorem IsRun.start_le (h : IsRun cls cs start stop) (h' : IsRun cls cs start' stop') {i : Nat}
    (hi : i < cs.length) (hle : start' ≤ i) (hlt : i < stop) : start' ≤ start := by
  by_contra hbehind
  have hchar : cs[start' - 1]? = some cs[start' - 1] := List.getElem?_eq_getElem (by omega)
  exact h'.left _ (by omega) hchar (h.of_class _ _ (by omega) (by omega) hchar)

private theorem IsRun.stop_le (h : IsRun cls cs start stop) (h' : IsRun cls cs start' stop') {i : Nat}
    (hstop : stop ≤ cs.length) (hle : start ≤ i) (hlt : i < stop') : stop ≤ stop' := by
  by_contra hbehind
  have hchar : cs[stop']? = some cs[stop'] := List.getElem?_eq_getElem (by omega)
  exact h'.right _ hchar (h.of_class _ _ (by omega) (by omega) hchar)

private theorem IsWord.anchor (h : IsWord cs p start stop) (hne : cs ≠ []) :
    start ≤ p - 1 ∧ p - 1 < stop := by
  rcases Nat.eq_zero_or_pos p with rfl | hpos
  · exact h.behind rfl hne
  · exact h.before hpos

private theorem IsWord.unique (h : IsWord cs p start stop) (h' : IsWord cs p start' stop') :
    start = start' ∧ stop = stop' := by
  by_cases hne : cs = []
  · have hlength : cs.length = 0 := by rw [hne, List.length_nil]
    have := h.start_le
    have := h.le_stop
    have := h.stop_le
    have := h'.start_le
    have := h'.le_stop
    have := h'.stop_le
    omega
  · obtain ⟨hstart, hstop⟩ := h.anchor hne
    obtain ⟨hstart', hstop'⟩ := h'.anchor hne
    have hlt : p - 1 < cs.length := Nat.lt_of_lt_of_le hstop h.stop_le
    have hchar : cs[p - 1]? = some cs[p - 1] := List.getElem?_eq_getElem hlt
    -- both have the character at the anchor, so they are of its class
    obtain ⟨cls, hrun⟩ := h.run
    obtain ⟨cls', hrun'⟩ := h'.run
    obtain rfl : CharClass.of cs[p - 1] = cls :=
      CharClass.of_eq_iff.2 (hrun.of_class _ _ hstart hstop hchar)
    obtain rfl : CharClass.of cs[p - 1] = cls' :=
      CharClass.of_eq_iff.2 (hrun'.of_class _ _ hstart' hstop' hchar)
    exact ⟨Nat.le_antisymm (hrun'.start_le hrun hlt hstart hstop')
      (hrun.start_le hrun' hlt hstart' hstop),
      Nat.le_antisymm (hrun.stop_le hrun' h.stop_le hstart hstop')
        (hrun'.stop_le hrun h'.stop_le hstart' hstop)⟩

/-! ### How far a run goes -/

/-- A run ends at the first character of another class. -/
private theorem runLength_eq_findIdx (cls : CharClass) (cs : List Char) :
    runLength cls cs = cs.findIdx fun c => !decide (CharClass.of c = cls) := by
  rw [runLength, List.takeWhile_eq_take_findIdx_not, List.length_take,
    Nat.min_eq_left List.findIdx_le_length]

private theorem has_of_lt_runLength {i : Nat} (hi : i < runLength cls cs) (hc : cs[i]? = some c) :
    cls.Has c := by
  obtain ⟨hlt, rfl⟩ := List.getElem?_eq_some_iff.1 hc
  rw [runLength_eq_findIdx] at hi
  simpa [CharClass.of_eq_iff] using List.not_of_lt_findIdx hi

private theorem not_has_of_runLength (hc : cs[runLength cls cs]? = some c) : ¬ cls.Has c := by
  obtain ⟨hlt, rfl⟩ := List.getElem?_eq_some_iff.1 hc
  simp only [runLength_eq_findIdx] at hlt ⊢
  simpa [CharClass.of_eq_iff] using List.findIdx_getElem (w := hlt)

/-- Going left and right from a column as long as the class lasts gives a run. -/
private theorem isRun_runLength (cls : CharClass) (hp : p ≤ cs.length) :
    IsRun cls cs (p - runLength cls (cs.take p).reverse) (p + runLength cls (cs.drop p)) := by
  have hback : ∀ j, j < p → (cs.take p).reverse[j]? = cs[p - 1 - j]? := by
    intro j hj
    have hlength : (cs.take p).length = p := by rw [List.length_take, Nat.min_eq_left hp]
    rw [List.getElem?_reverse (by omega), hlength, List.getElem?_take_of_lt (by omega)]
  refine ⟨fun i c hstart hstop hc => ?_, fun c hpos hc => ?_, fun c hc => ?_⟩
  · rcases Nat.lt_or_ge i p with hlt | hge
    · have hindex : p - 1 - (p - 1 - i) = i := by omega
      have hchar : (cs.take p).reverse[p - 1 - i]? = some c := by rw [hback _ (by omega), hindex, hc]
      exact has_of_lt_runLength (by omega) hchar
    · have hchar : (cs.drop p)[i - p]? = some c := by rw [List.getElem?_drop, Nat.add_sub_cancel' hge, hc]
      exact has_of_lt_runLength (by omega) hchar
  · have hindex : p - 1 - runLength cls (cs.take p).reverse =
        p - runLength cls (cs.take p).reverse - 1 := by omega
    refine not_has_of_runLength (?_ : (cs.take p).reverse[_]? = some c)
    rw [hback _ (by omega), hindex, hc]
  · refine not_has_of_runLength (?_ : (cs.drop p)[_]? = some c)
    rw [List.getElem?_drop, hc]

/-- Where a run reaches a column, it has the character before it, or the first one of the line, if that is
of its class. -/
private theorem IsRun.reaches (h : IsRun cls cs start stop) (hstart : start ≤ p) (hstop : p ≤ stop)
    (hchar : cs[p - 1]? = some c) (hc : cls.Has c) : start ≤ p - 1 ∧ p - 1 < stop := by
  rcases Nat.eq_zero_or_pos p with rfl | hpos
  · refine ⟨hstart, Nat.pos_of_ne_zero fun hempty => ?_⟩
    rw [hempty] at h
    exact h.right c hchar hc
  · refine ⟨?_, by omega⟩
    by_contra hbehind
    obtain rfl : start = p := by omega
    exact h.left c hpos hchar hc

/-! ### The word -/

/-- The word goes left and right from the column, as far as the class of the character before it lasts, or
of the first character of the line. -/
private theorem wordAt_eq (hne : cs ≠ []) (ch : Nat) :
    ∃ anchor, cs[min ch cs.length - 1]? = some anchor ∧
      wordAt cs ch =
        (min ch cs.length - runLength (CharClass.of anchor) (cs.take (min ch cs.length)).reverse,
        min ch cs.length + runLength (CharClass.of anchor) (cs.drop (min ch cs.length))) := by
  unfold wordAt
  dsimp only
  generalize hp : min ch cs.length = p
  split
  · rename_i anchor hlast
    have hlength : (cs.take p).length = p := by
      rw [List.length_take]
      omega
    rw [List.getLast?_eq_getElem?, hlength] at hlast
    have hpos : p - 1 < p := by
      by_contra hzero
      rw [List.getElem?_eq_none (by omega)] at hlast
      simp at hlast
    rw [List.getElem?_take_of_lt hpos] at hlast
    exact ⟨anchor, hlast, rfl⟩
  · rename_i anchor hnone hhead
    obtain rfl : p = 0 := by
      have := congrArg List.length (List.getLast?_eq_none_iff.1 hnone)
      rw [List.length_take, List.length_nil] at this
      have := List.length_pos_iff.2 hne
      omega
    exact ⟨anchor, by rw [← List.head?_eq_getElem?, hhead], by simp [runLength]⟩
  · rename_i hhead
    exact absurd (List.head?_eq_none_iff.1 hhead) hne

private theorem isWord_wordAt (cs : List Char) (ch : Nat) :
    IsWord cs (min ch cs.length) (wordAt cs ch).1 (wordAt cs ch).2 := by
  obtain ⟨hstart, hstop, hlength⟩ := wordAt_bounds cs ch
  by_cases hne : cs = []
  · subst hne
    have hzero : min ch ([] : List Char).length = 0 := Nat.min_zero ch
    have hempty : (wordAt [] ch).1 = 0 ∧ (wordAt [] ch).2 = 0 := by simp [wordAt]
    rw [hempty.1, hempty.2, hzero]
    exact ⟨Nat.le_refl 0, Nat.le_refl 0, Nat.le_refl 0, absurd rfl, by simp, fun _ h => absurd rfl h,
      .other, by simp, by simp, by simp⟩
  · obtain ⟨anchor, hanchor, heq⟩ := wordAt_eq hne ch
    have hrun := isRun_runLength (CharClass.of anchor) (Nat.min_le_right ch cs.length)
    rw [heq] at hstart hstop hlength ⊢
    dsimp only at hstart hstop hlength ⊢
    have hreach := hrun.reaches hstart hstop hanchor (CharClass.of_eq_iff.1 rfl)
    refine ⟨hstart, hstop, hlength, fun _ => Nat.lt_of_le_of_lt hreach.1 hreach.2,
      fun _ => hreach, fun hzero _ => ?_,
      _, hrun⟩
    rwa [hzero] at hreach ⊢

/-- The ends of the word at a column, which is first moved into the line, are those of the longest run of
one class that has the character before the column, or where there is none the one behind it. -/
theorem wordAt_eq_iff (cs : List Char) (ch start stop : Nat) :
    wordAt cs ch = (start, stop) ↔ IsWord cs (min ch cs.length) start stop := by
  have hword := isWord_wordAt cs ch
  constructor
  · intro h
    rwa [h] at hword
  · intro h
    obtain ⟨hstart, hstop⟩ := hword.unique h
    rw [← hstart, ← hstop]

/-- At the end of a word of letters that white space follows. -/
example : wordAt "/été x".toList 4 = (1, 4) := by decide +kernel

end Completion

end PassageEditor
