import PassageEditor.Proofs.Completion.Passages

/-!
# The list of passages

The list starts behind the last opening brackets or arrow before the cursor.  None of the texts that it is
made from reaches out of the line, wherever the cursor is (`cutPassages?_eq`), and each of them is told by
where the brackets and arrows of the line stand (`passages_of_line`).
-/

namespace PassageEditor.Completion

open Markup

variable {b : Buffer} {story : Story} {list : CompletionList} {line before after : List Char} {i j : Nat}

theorem opening_ne_nil : opening ≠ [] := by decide

theorem closing_ne_nil : closing ≠ [] := by decide

theorem arrow_ne_nil : arrow ≠ [] := by decide

/-! ### The place that opens the list -/

private theorem latest?_eq_none_iff {m n : Option Nat} : latest? m n = none ↔ m = none ∧ n = none := by
  cases m <;> cases n <;> simp [latest?]

/-- The later of two places is one of them, and neither lies behind it. -/
private theorem latest?_eq_some {m n : Option Nat} (h : latest? m n = some i) :
    (m = some i ∨ n = some i) ∧ (∀ k ∈ m, k ≤ i) ∧ ∀ k ∈ n, k ≤ i := by
  cases m with
  | none => cases n <;> simp_all [latest?]
  | some x =>
    cases n with
    | none => simp_all [latest?]
    | some y =>
      obtain rfl : max x y = i := Option.some.inj h
      refine ⟨?_, ?_, ?_⟩
      · rcases Nat.le_total x y with hle | hle
        · exact .inr (by rw [Nat.max_eq_right hle])
        · exact .inl (by rw [Nat.max_eq_left hle])
      · rintro _ ⟨⟩
        exact Nat.le_max_left _ _
      · rintro _ ⟨⟩
        exact Nat.le_max_right _ _

/-- Nowhere behind the last place of a separator does it stand. -/
private theorem not_occursAt_of_le {mark : List Char} (hmark : mark ≠ [])
    (hle : ∀ k ∈ lastIndexOf? mark before, k ≤ i) :
    ∀ k, i < k → ¬ OccursAt mark before k := by
  intro k hk
  cases hfound : lastIndexOf? mark before with
  | none =>
    exact fun hoccurs => (lastIndexOf?_eq_none_iff hmark).1 hfound
      (infix_iff_exists_occursAt.2 ⟨k, hoccurs⟩)
  | some last => exact not_occursAt_of_lastIndexOf? hmark hfound (Nat.lt_of_le_of_lt (hle last hfound) hk)

private theorem lastPlace_of_latest
    (h : latest? (lastIndexOf? opening before) (lastIndexOf? arrow before) = some i) :
    LastPlace [opening, arrow] before i := by
  obtain ⟨hfound, hopening, harrow⟩ := latest?_eq_some h
  refine ⟨?_, fun k hk mark hmem => ?_⟩
  · rcases hfound with hfound | hfound
    · exact ⟨opening, by simp, prefix_of_lastIndexOf? hfound⟩
    · exact ⟨arrow, by simp, prefix_of_lastIndexOf? hfound⟩
  · simp only [List.mem_cons, List.not_mem_nil, or_false] at hmem
    rcases hmem with rfl | rfl
    · exact not_occursAt_of_le opening_ne_nil hopening k hk
    · exact not_occursAt_of_le arrow_ne_nil harrow k hk

/-- There is room for the separator before the cursor. -/
private theorem length_of_lastPlace (h : LastPlace [opening, arrow] before i) :
    i + 2 ≤ before.length := by
  obtain ⟨mark, hmem, hoccurs⟩ := h.occurs
  simp only [List.mem_cons, List.not_mem_nil, or_false] at hmem
  rcases hmem with rfl | rfl
  · exact hoccurs.le_length opening_ne_nil
  · exact hoccurs.le_length arrow_ne_nil

/-! ### The place that closes the link -/

/-- The first closing brackets behind the cursor, with no opening ones up to there. -/
structure Closes (after : List Char) (j : Nat) : Prop where
  occurs : OccursAt closing after j
  first : ∀ k, k < j → ¬ OccursAt closing after k
  unopened : ∀ k, OccursAt opening after k → j < k

private theorem closingPlace?_eq_some_iff : closingPlace? after = some j ↔ Closes after j := by
  unfold closingPlace?
  cases hclose : indexOf? closing after with
  | none =>
    have hnone := (indexOf?_eq_none_iff closing_ne_nil).1 hclose
    exact iff_of_false (by simp) fun h => hnone (infix_iff_exists_occursAt.2 ⟨j, h.occurs⟩)
  | some close =>
    obtain ⟨hoccurs, hfirst⟩ := (indexOf?_eq_some_iff closing_ne_nil).1 hclose
    -- no other place qualifies, so what is left is to compare it with the first opening brackets
    have hsame : Closes after j → close = j := fun h => Nat.le_antisymm
      (Nat.not_lt.1 fun hlt => hfirst j hlt h.occurs) (Nat.not_lt.1 fun hlt => h.first close hlt hoccurs)
    cases hopen : indexOf? opening after with
    | none =>
      have hnone := (indexOf?_eq_none_iff opening_ne_nil).1 hopen
      constructor
      · intro h
        obtain rfl : close = j := Option.some.inj h
        exact ⟨hoccurs, hfirst, fun k hk => absurd (infix_iff_exists_occursAt.2 ⟨k, hk⟩) hnone⟩
      · exact fun h => congrArg some (hsame h)
    | some other =>
      obtain ⟨hother, hbefore⟩ := (indexOf?_eq_some_iff opening_ne_nil).1 hopen
      dsimp only
      constructor
      · intro h
        split at h
        · rename_i hlt
          obtain rfl : close = j := Option.some.inj h
          exact ⟨hoccurs, hfirst, fun k hk =>
            Nat.lt_of_lt_of_le hlt (Nat.not_lt.1 fun hlt' => hbefore k hlt' hk)⟩
        · simp at h
      · intro h
        obtain rfl := hsame h
        rw [if_pos (h.unopened other hother)]

/-- It is enough that some closing brackets come before all opening ones. -/
private theorem exists_closes_iff :
    (∃ j, Closes after j) ↔ ∃ j, OccursAt closing after j ∧ ∀ k, OccursAt opening after k → j < k := by
  constructor
  · rintro ⟨j, h⟩
    exact ⟨j, h.occurs, h.unopened⟩
  · rintro ⟨j, hoccurs, hopen⟩
    obtain ⟨close, hclose⟩ :=
      Option.isSome_iff_exists.1 ((isSome_indexOf?_iff closing_ne_nil).2 ⟨j, hoccurs⟩)
    obtain ⟨hoccurs', hfirst⟩ := (indexOf?_eq_some_iff closing_ne_nil).1 hclose
    have hle : close ≤ j := Nat.not_lt.1 fun hlt => hfirst j hlt hoccurs
    exact ⟨close, hoccurs', hfirst, fun k hk => Nat.lt_of_le_of_lt hle (hopen k hk)⟩

/-! ### The list with its cuts -/

/-- The part of a text from one place to another; none unless both lie in it, in this order. -/
def cut? (cs : List Char) (start stop : Nat) : Option (List Char) :=
  if start ≤ stop ∧ stop ≤ cs.length then some ((cs.drop start).take (stop - start)) else none

private theorem cut?_take {cs : List Char} {n : Nat} (h : n ≤ cs.length) :
    cut? cs 0 n = some (cs.take n) := by
  simp [cut?, h]

private theorem cut?_drop {cs : List Char} {n : Nat} (h : n ≤ cs.length) :
    cut? cs n cs.length = some (cs.drop n) := by
  rw [cut?, if_pos ⟨h, Nat.le_refl _⟩, ← List.length_drop, List.take_length]

/-- The list of passages where every part of the line is cut out, and there is no answer if a cut reaches
out of the line. -/
def cutPassages? (b : Buffer) (story : Story) : Option (Option CompletionList) :=
  match b.lines[b.cursor.line]? with
  | none => some none
  | some line => do
    let split := min b.cursor.ch line.length
    let before ← cut? line 0 split
    let after ← cut? line split line.length
    match latest? (lastIndexOf? opening before) (lastIndexOf? arrow before) with
    | none => return none
    | some trigger =>
      let close := closingPlace? after
      let typed ← cut? before (trigger + 2) before.length
      let rest ← cut? after 0 (close.getD 0)
      let start := min (((lastIndexOf? opening before).map (· + 2)).getD 1) before.length
      let content ← cut? before start before.length
      let names := (story.passages.map (·.passage.name)).filter (· ≠ String.ofList content)
      return some ⟨.link, ⟨⟨b.cursor.line, trigger + 2⟩, b.cursor⟩,
        (Ranking.rank names (String.ofList (typed ++ rest))).map fun name =>
          ⟨name, .insertLink close.isSome⟩⟩

/-- No cut reaches out of the line, wherever the cursor is. -/
theorem cutPassages?_eq (b : Buffer) (story : Story) :
    cutPassages? b story = some (passages? b story) := by
  unfold cutPassages? passages? cursorLine?
  cases b.lines[b.cursor.line]? with
  | none => rfl
  | some line =>
    have hle : min b.cursor.ch line.length ≤ line.length := Nat.min_le_right _ _
    simp only [cut?_take hle, cut?_drop hle, ← List.take_eq_take_min, ← List.drop_eq_drop_min, bind, pure,
      Option.bind_some, Option.map_some]
    cases htrigger :
      latest? (lastIndexOf? opening (line.take b.cursor.ch))
        (lastIndexOf? arrow (line.take b.cursor.ch)) with
    | none => rfl
    | some trigger =>
      -- what opened the list stands before the cursor with both its characters
      have htyped := length_of_lastPlace (lastPlace_of_latest htrigger)
      have hclose : (closingPlace? (line.drop b.cursor.ch)).getD 0 ≤ (line.drop b.cursor.ch).length := by
        cases hplace : closingPlace? (line.drop b.cursor.ch) with
        | none => exact Nat.zero_le _
        | some j =>
          have hlength := (closingPlace?_eq_some_iff.1 hplace).occurs.le_length closing_ne_nil
          exact Nat.le_trans (Nat.le_add_right _ _) hlength
      dsimp only
      rw [cut?_drop htyped, cut?_take hclose, cut?_drop (Nat.min_le_right _ _), ← List.drop_eq_drop_min]
      rfl

/-! ### What the list holds -/

/-- What a list of passages is, by the line and the place that opens the list. -/
structure Offers (story : Story) (line : List Char) (cursor : Position) (trigger : Nat)
    (list : CompletionList) : Prop where
  kind : list.kind = .link
  latest : LastPlace [opening, arrow] (line.take cursor.ch) trigger
  range : list.range = ⟨⟨cursor.line, trigger + 2⟩, cursor⟩
  inside : trigger + 2 ≤ min cursor.ch line.length
  unopened : ¬ opening <:+: (line.take cursor.ch).drop (trigger + 2)
  straight : ¬ arrow <:+: (line.take cursor.ch).drop (trigger + 2)
  /-- The entries are marked closed if closing brackets behind the cursor come before any opening ones. -/
  closed : ∃ closed : Bool,
    (closed = true ↔
      ∃ j, OccursAt closing (line.drop cursor.ch) j ∧
        ∀ k, OccursAt opening (line.drop cursor.ch) k → j < k) ∧
    ∀ item ∈ list.items, item.action = .insertLink closed
  /-- The query is what is typed, and up to the closing brackets what stands behind the cursor. -/
  labels : ∃ query,
    (∀ j, Closes (line.drop cursor.ch) j →
      query = (line.take cursor.ch).drop (trigger + 2) ++ (line.drop cursor.ch).take j) ∧
    ((∀ j, ¬ Closes (line.drop cursor.ch) j) → query = (line.take cursor.ch).drop (trigger + 2)) ∧
    list.labels = Ranking.rank ((story.passages.map (·.passage.name)).filter
      (· ≠ String.ofList (linkContent (line.take cursor.ch)))) (String.ofList query)
  /-- The name that is left out is what stands between the last opening brackets and the cursor. -/
  excluded : ∀ k, LastPlace [opening] (line.take cursor.ch) k →
    linkContent (line.take cursor.ch) = (line.take cursor.ch).drop (k + 2)

theorem offers_of_passages (hline : b.lines[b.cursor.line]? = some line)
    (h : passages? b story = some list) :
    ∃ trigger, Offers story line b.cursor trigger list := by
  unfold passages? cursorLine? at h
  simp only [hline, Option.map_some, bind, pure, Option.bind_some, Option.bind_eq_some_iff,
    Option.some.injEq] at h
  obtain ⟨trigger, htrigger, rfl⟩ := h
  have hlast := lastPlace_of_latest htrigger
  have hlength := length_of_lastPlace hlast
  rw [List.length_take] at hlength
  refine ⟨trigger, rfl, hlast, rfl, hlength, hlast.not_infix_drop (by simp) (by omega),
    hlast.not_infix_drop (by simp) (by omega),
    ⟨(closingPlace? (line.drop b.cursor.ch)).isSome, ?_, ?_⟩, ?_, ?_⟩
  · rw [← exists_closes_iff, Option.isSome_iff_exists]
    exact exists_congr fun j => closingPlace?_eq_some_iff
  · intro item hitem
    obtain ⟨name, -, rfl⟩ := List.mem_map.1 hitem
    rfl
  · refine ⟨(line.take b.cursor.ch).drop (trigger + 2) ++
      (line.drop b.cursor.ch).take ((closingPlace? (line.drop b.cursor.ch)).getD 0),
      fun j hj => ?_, fun hnone => ?_, ?_⟩
    · rw [closingPlace?_eq_some_iff.2 hj, Option.getD_some]
    · have hclose : closingPlace? (line.drop b.cursor.ch) = none :=
        Option.eq_none_iff_forall_ne_some.2 fun j hj => hnone j (closingPlace?_eq_some_iff.1 hj)
      rw [hclose, Option.getD_none, List.take_zero, List.append_nil]
    · simp only [CompletionList.labels, List.map_map, Function.comp_def, List.map_id']
  · intro k hk
    rw [linkContent, (lastIndexOf?_eq_some_iff opening_ne_nil).2 hk]
    rfl

theorem passages?_eq_none_iff (hline : b.lines[b.cursor.line]? = some line) :
    passages? b story = none ↔
      ¬ opening <:+: line.take b.cursor.ch ∧ ¬ arrow <:+: line.take b.cursor.ch := by
  rw [← lastIndexOf?_eq_none_iff opening_ne_nil, ← lastIndexOf?_eq_none_iff arrow_ne_nil,
    ← latest?_eq_none_iff]
  unfold passages? cursorLine?
  simp only [hline, Option.map_some, bind, pure, Option.bind_some]
  cases latest? (lastIndexOf? opening (line.take b.cursor.ch))
    (lastIndexOf? arrow (line.take b.cursor.ch)) <;> simp

/-- The list of passages for a cursor on a line, also past its end: it is made without reaching out of the
line, there is none just where no opening brackets and no arrow stand before the cursor, and what it is
otherwise is told by `Offers`. -/
theorem passages_of_line (story : Story) (hline : b.lines[b.cursor.line]? = some line) :
    cutPassages? b story = some (passages? b story) ∧
      (passages? b story = none ↔
        ¬ opening <:+: line.take b.cursor.ch ∧ ¬ arrow <:+: line.take b.cursor.ch) ∧
      ∀ list, passages? b story = some list → ∃ trigger, Offers story line b.cursor trigger list :=
  ⟨cutPassages?_eq b story, passages?_eq_none_iff hline, fun _ => offers_of_passages hline⟩

/-- The cursor stands past the end of a line with three brackets and an arrow. -/
def beyond : Buffer := (Buffer.ofText "[[[a->St").setCursor ⟨0, 20⟩

/-- The list starts behind the arrow. -/
theorem passages_of_line_beyond :
    beyond.lines[beyond.cursor.line]? = some "[[[a->St".toList ∧
      ∃ list, passages? beyond startStory = some list ∧ list.labels = ["Start"] ∧
        cutPassages? beyond startStory = some (some list) ∧
        Offers startStory "[[[a->St".toList ⟨0, 20⟩ 4 list := by
  have hline : beyond.lines[beyond.cursor.line]? = some "[[[a->St".toList := by decide +kernel
  have hlist : passages? beyond startStory =
      some ⟨.link, ⟨⟨0, 6⟩, ⟨0, 20⟩⟩, (Ranking.rank ["Start"] "St").map fun name =>
        ⟨name, .insertLink false⟩⟩ := rfl
  rw [Ranking.rank_singleton] at hlist
  obtain ⟨hcut, -, hoffers⟩ := passages_of_line startStory hline
  obtain ⟨trigger, h⟩ := hoffers _ hlist
  have hstart : 6 = trigger + 2 := congrArg (fun range : Range => range.start.ch) h.range
  obtain rfl : trigger = 4 := by omega
  exact ⟨hline, _, hlist, rfl, hcut.trans (congrArg some hlist), h⟩

end PassageEditor.Completion
