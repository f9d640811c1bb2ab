import PassageEditor.Proofs.Ranking.FloatOrder

/-!
# Candidates with a perfect score

Where the similarity is one for equal texts and less for others, the candidates that are the query come
first, in their order (`rankBy_of_tells`).  To the empty query only the empty text is similar, and that
perfectly: so it is all that is left where it is a candidate, and else all candidates are left in their
order (`rank_empty`).
-/

namespace PassageEditor.Ranking

variable {α : Type}

private theorem agrees_inPlay {items : List (α × Float)} (h : ∀ item ∈ items, item.2.isNaN = false) :
    Agrees line (InPlay floors items) := by
  refine agrees_line fun s hs => ?_
  rcases hs with rfl | rfl | ⟨item, hitem, rfl⟩
  · decide
  · decide
  · exact h item hitem

/-- A score that is perfect for the candidates with a property and lower for the others. -/
def Tells (score : String → Float) (candidates : List String) (p : String → Prop) : Prop :=
  ∀ c ∈ candidates, (score c = 1.0 ↔ p c) ∧ (¬ p c → score c < 1.0)

instance (score : String → Float) (candidates : List String) (p : String → Prop) [DecidablePred p] :
    Decidable (Tells score candidates p) :=
  inferInstanceAs (Decidable (∀ c ∈ candidates, _))

section Tells

variable {score : String → Float} {candidates : List String} {p : String → Prop}

theorem Tells.isNaN (h : Tells score candidates p) {c : String} (hc : c ∈ candidates) :
    (score c).isNaN = false := by
  by_cases hp : p c
  · rw [(h c hc).1.2 hp]
    decide
  · exact isNaN_of_lt ((h c hc).2 hp)

private theorem isNaN_one : (1.0 : Float).isNaN = false := by decide

private theorem Tells.line_le (h : Tells score candidates p) {c : String} (hc : c ∈ candidates) :
    line (score c) ≤ line 1.0 ∧ (line (score c) = line 1.0 ↔ p c) := by
  by_cases hp : p c
  · rw [(h c hc).1.2 hp]
    exact ⟨le_refl _, by simp [hp]⟩
  · have hlt : line (score c) < line 1.0 :=
      ((agrees_line fun _ hs => hs).lt_iff _ _ (h.isNaN hc) isNaN_one).1 ((h c hc).2 hp)
    exact ⟨hlt.le, iff_of_false hlt.ne hp⟩

/-- The candidates with a score. -/
private theorem agrees_scored (h : ∀ c ∈ candidates, (score c).isNaN = false) :
    Agrees line (InPlay floors (candidates.map fun c => (c, score c))) := by
  refine agrees_inPlay fun item hitem => ?_
  obtain ⟨c, hc, rfl⟩ := List.mem_map.1 hitem
  exact h c hc

private theorem map_filter_scored (q : String × Float → Bool) :
    ((candidates.map fun c => (c, score c)).filter q).map (·.1) = candidates.filter fun c =>
      q (c, score c) := by
  rw [List.filter_map, List.map_map]
  exact List.map_id' _

/-- Where all that counts has one score, it keeps its order. -/
private theorem rankBy_of_tied (h : ∀ c ∈ candidates, (score c).isNaN = false) {best : String}
    (hbest : Best (fun c => line (score c)) candidates best) {s : ℤ ×ₗ ℤ ×ₗ ℤ}
    (hs : ∀ c ∈ candidates, Counts (line floors.high) (line floors.low) (line (score best))
      (line (score c)) → line (score c) = s) :
    rankBy floors score candidates = candidates.filter fun c =>
      Counts (line floors.high) (line floors.low) (line (score best)) (line (score c)) := by
  have hscored : Best (fun item : String × Float => line item.2) (candidates.map fun c => (c, score c))
      (best, score best) := by
    refine ⟨List.mem_map_of_mem hbest.mem, fun item hitem => ?_⟩
    obtain ⟨c, hc, rfl⟩ := List.mem_map.1 hitem
    exact hbest.le c hc
  have htied := narrowed_of_tied (agrees_scored h) hscored (s := s) fun item hitem hcounts => by
    obtain ⟨c, hc, rfl⟩ := List.mem_map.1 hitem
    exact hs c hc hcounts
  rw [rankBy, confidenceFilter_eq, htied, map_filter_scored]

theorem rankBy_of_tells [DecidablePred p] (h : Tells score candidates p) :
    ∃ rest, rankBy floors score candidates = candidates.filter p ++ rest ∧
      ∀ c ∈ rest, c ∈ candidates ∧ ¬ p c := by
  obtain ⟨rest, hnarrowed, hrest⟩ :=
    narrowed_of_le 1.0 (agrees_scored fun c => h.isNaN) fun item hitem => by
    obtain ⟨c, hc, rfl⟩ := List.mem_map.1 hitem
    exact (h.line_le hc).1
  refine ⟨rest.map (·.1), ?_, fun c hc => ?_⟩
  · rw [rankBy, confidenceFilter_eq, hnarrowed, List.map_append, map_filter_scored]
    congr 1
    exact List.filter_congr fun c hc => by rw [decide_eq_decide]; exact (h.line_le hc).2
  · obtain ⟨item, hitem, rfl⟩ := List.mem_map.1 hc
    obtain ⟨hmem, hlt⟩ := hrest item hitem
    obtain ⟨d, hd, rfl⟩ := List.mem_map.1 hmem
    exact ⟨hd, fun hp => hlt.ne ((h.line_le hd).2.2 hp)⟩

end Tells

section Similarity

variable {similarity : String → String → Float} {candidates : List String} {query : String}

private theorem rankWith_of_tells (h : Tells (similarity query) candidates (· = query)) :
    ∃ rest, rankWith similarity candidates query = candidates.filter (· = query) ++ rest ∧
      ∀ c ∈ rest, c ∈ candidates ∧ c ≠ query :=
  rankBy_of_tells h

private theorem rankIgnoringCaseWith_of_tells
    (h : Tells (similarity (Text.lower query)) (candidates.map Text.lower) (· = Text.lower query)) :
    ∃ rest, rankIgnoringCaseWith similarity candidates query =
        candidates.filter (Text.lower · = Text.lower query) ++ rest ∧
      ∀ c ∈ rest, c ∈ candidates ∧ Text.lower c ≠ Text.lower query :=
  rankBy_of_tells fun c hc => h (Text.lower c) (List.mem_map_of_mem hc)

end Similarity

/-- For scores of any linear order, and for floating-point scores that are numbers, the filter gives the
stable sort of the items that reach the floor of the best score.  So for any similarity, wherever it is
one for equal texts and less for others, the candidates that equal the query, in lower case where the case
is ignored, come first and in their order. -/
theorem narrows_of_scores :
    (∀ (α β : Type) [LinearOrder β] (floors : Floors β) (items : List (α × β)), Narrows id floors items) ∧
    (∀ (α : Type) (items : List (α × Float)), (∀ item ∈ items, item.2.isNaN = false) →
      Narrows line floors items) ∧
    (∀ x y : Float, x.isNaN = false → y.isNaN = false →
      (x < y ↔ line x < line y) ∧ (x ≤ y ↔ line x ≤ line y)) ∧
    (∀ similarity candidates query, Tells (similarity query) candidates (· = query) →
      ∃ rest, rankWith similarity candidates query = candidates.filter (· = query) ++ rest ∧
        ∀ c ∈ rest, c ∈ candidates ∧ c ≠ query) ∧
    ∀ similarity candidates query,
      Tells (similarity (Text.lower query)) (candidates.map Text.lower) (· = Text.lower query) →
      ∃ rest, rankIgnoringCaseWith similarity candidates query =
          candidates.filter (Text.lower · = Text.lower query) ++ rest ∧
        ∀ c ∈ rest, c ∈ candidates ∧ Text.lower c ≠ Text.lower query := by
  refine ⟨fun α β _ floors items => narrows_of_agrees (agrees_id _), fun α items h => ?_,
    fun x y hx hy => ?_, ?_, ?_⟩
  · exact narrows_of_agrees (agrees_inPlay h)
  · have hagrees := agrees_line (P := fun s => s.isNaN = false) fun _ h => h
    exact ⟨hagrees.lt_iff x y hx hy, hagrees.le_iff x y hx hy⟩
  · exact fun similarity candidates query => rankWith_of_tells
  · exact fun similarity candidates query => rankIgnoringCaseWith_of_tells

/-- Three of four scores reach the low floor, two of them equal ones, and none the high floor.  With the
Jaro-Winkler similarity, of four names two are the query, and two ways to write it in capitals keep their
order. -/
theorem narrows_of_scores_start :
    (Narrows line floors [("a", 0.65), ("b", 0.7), ("c", 0.59), ("d", 0.65)] ∧
      narrowed floors [("a", 0.65), ("b", 0.7), ("c", 0.59), ("d", 0.65)] =
        [("b", 0.7), ("a", 0.65), ("d", 0.65)]) ∧
    (Tells (jaroWinkler "Start") ["Cellar", "Start", "Starting Room", "Start"] (· = "Start") ∧
      ∃ rest, rank ["Cellar", "Start", "Starting Room", "Start"] "Start" = "Start" :: "Start" :: rest ∧
        "Start" ∉ rest) ∧
    Tells (jaroWinkler (Text.lower "start")) (["Stars", "START", "Start"].map Text.lower)
    (· = Text.lower "start") ∧
      ∃ rest, rankIgnoringCase ["Stars", "START", "Start"] "start" = "START" :: "Start" :: rest ∧
        ∀ c ∈ rest, Text.lower c ≠ Text.lower "start" := by
  obtain ⟨-, hfloat, -, hrank, hignoring⟩ := narrows_of_scores
  have htells :
      Tells (jaroWinkler "Start") ["Cellar", "Start", "Starting Room", "Start"] (· = "Start") := by
    decide +kernel
  have hlower : Tells (jaroWinkler (Text.lower "start")) (["Stars", "START", "Start"].map Text.lower)
      (· = Text.lower "start") := by decide +kernel
  obtain ⟨rest, hranked, hrest⟩ := hrank jaroWinkler _ _ htells
  obtain ⟨rest', hranked', hrest'⟩ := hignoring jaroWinkler _ _ hlower
  have hfirst : ["Stars", "START", "Start"].filter (Text.lower · = Text.lower "start") =
      ["START", "Start"] := by
    decide +kernel
  rw [hfirst] at hranked'
  exact ⟨⟨hfloat _ _ (by decide +kernel), by decide +kernel⟩,
    ⟨htells, rest, hranked, fun h => (hrest _ h).2 rfl⟩, hlower, rest', hranked',
      fun c hc => (hrest' c hc).2⟩

/-! ### The empty query -/

private theorem jaroWinkler_empty (c : String) : jaroWinkler "" c = if c = "" then 1.0 else 0.0 := by
  by_cases hc : c = ""
  · rw [if_pos hc, hc]
    decide +kernel
  · have hne : c.toList.isEmpty = false := by
      rw [List.isEmpty_eq_false_iff, ne_eq, String.toList_eq_nil_iff]
      exact hc
    have hjaro : jaro "".toList c.toList = 0.0 := by
      rw [jaro, hne]
      rfl
    rw [if_neg hc, jaroWinkler, hjaro]
    exact if_neg (by decide)

private theorem tells_empty (candidates : List String) : Tells (jaroWinkler "") candidates (· = "") := by
  intro c _
  rw [jaroWinkler_empty]
  by_cases hc : c = ""
  · simp [hc]
  · rw [if_neg hc]
    exact ⟨iff_of_false (by decide) hc, fun _ => by decide⟩

/-- Beside the empty text nothing else counts. -/
private theorem counts_beside_empty (c : String) :
    Counts (line floors.high) (line floors.low) (line (jaroWinkler "" ""))
    (line (jaroWinkler "" c)) ↔ c = "" := by
  rw [jaroWinkler_empty, jaroWinkler_empty, if_pos rfl]
  by_cases hc : c = ""
  · rw [if_pos hc]
    exact iff_of_true (counts_self _ _ _) hc
  · rw [if_neg hc]
    exact iff_of_false (by decide) hc

/-- An empty text is all that is left of the candidates; without one they stay as they are. -/
theorem rank_empty (candidates : List String) :
    rank candidates "" = if "" ∈ candidates then candidates.filter (· = "") else candidates := by
  have htells := tells_empty candidates
  show rankBy floors (jaroWinkler "") candidates = _
  by_cases hempty : "" ∈ candidates
  · have hbest : Best (fun c => line (jaroWinkler "" c)) candidates "" := by
      refine ⟨hempty, fun c hc => ?_⟩
      rw [(htells "" hempty).1.2 rfl]
      exact (htells.line_le hc).1
    have htied :=
      rankBy_of_tied (fun c => htells.isNaN) hbest (s := line (jaroWinkler "" "")) fun c _ hcounts => by
      rw [(counts_beside_empty c).1 hcounts]
    rw [if_pos hempty, htied]
    exact List.filter_congr fun c _ => by rw [decide_eq_decide]; exact counts_beside_empty c
  · have hzero : ∀ c ∈ candidates, jaroWinkler "" c = 0.0 := fun c hc => by
      rw [jaroWinkler_empty, if_neg]
      rintro rfl
      exact hempty hc
    rw [if_neg hempty]
    by_cases hnil : candidates = []
    · rw [hnil]
      rfl
    · -- nothing is similar to the empty text, so any candidate is a best one
      obtain ⟨best, hbest⟩ := exists_best (fun c => line (jaroWinkler "" c)) hnil
      have htied := rankBy_of_tied (fun c => htells.isNaN) hbest (s := line 0.0) fun c hc _ => by
        rw [hzero c hc]
      rw [htied, List.filter_eq_self]
      intro c hc
      rw [hzero best hbest.mem, hzero c hc]
      exact decide_eq_true (counts_self _ _ _)

theorem rank_empty_eq_self_iff (candidates : List String) :
    rank candidates "" = candidates ↔ ("" ∈ candidates → ∀ c ∈ candidates, c = "") := by
  rw [rank_empty]
  by_cases hempty : "" ∈ candidates
  · simp [hempty, List.filter_eq_self]
  · simp [hempty]

end PassageEditor.Ranking
