import Mathlib.Data.List.MinMax
import Mathlib.Data.List.Sort
import PassageEditor.Proofs.Ranking.Confidence

/-!
# The filter as a stable sort

Scores that compare as their keys in a linear order do are sorted as the library's insertion sort sorts
the keys (`sortScored_eq`).  So the filter gives the stable descending sort of the items that count beside
a best one, none for no items alone, and the same for what it gave before; where the items come in another
order, it gives them in an order that differs where scores are equal alone (`narrows_of_agrees`).
-/

namespace PassageEditor.Ranking

variable {α β γ : Type}

/-! ### Sorting by a score -/

/-- The stable descending sort of some items by their score. -/
structure SortedBy [LinearOrder γ] (score : α → γ) (items sorted : List α) : Prop where
  /-- No item is lost and none comes more often than it was given. -/
  perm : sorted.Perm items
  descending : sorted.Pairwise fun a b => score b ≤ score a
  /-- Items with one score keep their order. -/
  stable : ∀ s, sorted.filter (score · = s) = items.filter (score · = s)

section SortedBy

variable [LinearOrder γ] {score : α → γ} {items sorted : List α}

theorem SortedBy.filter (h : SortedBy score items sorted) (p : α → Bool) :
    SortedBy score (items.filter p) (sorted.filter p) where
  perm := h.perm.filter p
  descending := h.descending.filter p
  stable s := by
    simp only [List.filter_filter, Bool.and_comm _ (p _)]
    rw [← List.filter_filter, ← List.filter_filter, h.stable s]

/-- Items with one score are sorted as they are. -/
private theorem SortedBy.eq_of_tied (h : SortedBy score items sorted) {s : γ}
    (hs : ∀ a ∈ items, score a = s) :
    sorted = items := by
  have hsorted : sorted.filter (score · = s) = sorted :=
    List.filter_eq_self.2 fun a ha => decide_eq_true (hs a (h.perm.mem_iff.1 ha))
  have hitems : items.filter (score · = s) = items :=
    List.filter_eq_self.2 fun a ha => decide_eq_true (hs a ha)
  rw [← hsorted, h.stable, hitems]

/-- The ascending insertion sort of a list that is read backwards, read backwards again. -/
private theorem sortedBy_insertionSort (score : α → γ) (items : List α) :
    SortedBy score items (items.reverse.insertionSort fun a b => score a ≤ score b).reverse := by
  have htotal : Std.Total fun a b : α => score a ≤ score b := ⟨fun a b => le_total (score a) (score b)⟩
  have htrans : IsTrans α fun a b => score a ≤ score b := ⟨fun _ _ _ => le_trans⟩
  have hperm := List.perm_insertionSort (fun a b : α => score a ≤ score b) items.reverse
  refine ⟨?_, ?_, fun s => ?_⟩
  · exact (List.reverse_perm _).trans (hperm.trans (List.reverse_perm items))
  · rw [List.pairwise_reverse]
    exact List.pairwise_insertionSort _ _
  · -- items with one score are a sorted part of the list, which insertion leaves as it is
    have htied : (items.reverse.filter (score · = s)).Pairwise fun a b => score a ≤ score b := by
      rw [List.pairwise_iff_forall_sublist]
      intro a b hab
      have ha := List.of_mem_filter (hab.subset (List.mem_cons_self (a := a)))
      have hb := List.of_mem_filter (hab.subset (List.mem_cons_of_mem a List.mem_cons_self))
      exact le_of_eq ((of_decide_eq_true ha).trans (of_decide_eq_true hb).symm)
    have hsublist := (List.sublist_insertionSort htied List.filter_sublist).filter (score · = s)
    rw [List.filter_filter] at hsublist
    simp only [Bool.and_self] at hsublist
    have heq := hsublist.eq_of_length (hperm.filter _).length_eq.symm
    rw [List.filter_reverse, ← heq, List.filter_reverse, List.reverse_reverse]

end SortedBy

/-! ### Scores with keys -/

/-- Among the scores in question a comparison of two is that of their keys. -/
structure Agrees [LT β] [LE β] [LinearOrder γ] (key : β → γ) (P : β → Prop) : Prop where
  lt_iff : ∀ s t, P s → P t → (s < t ↔ key s < key t)
  le_iff : ∀ s t, P s → P t → (s ≤ t ↔ key s ≤ key t)

theorem agrees_id [LinearOrder β] (P : β → Prop) : Agrees (id : β → β) P :=
  ⟨fun _ _ _ _ => Iff.rfl, fun _ _ _ _ => Iff.rfl⟩

/-- The scores of the items, and the floors. -/
def InPlay (floors : Floors β) (items : List (α × β)) (s : β) : Prop :=
  s = floors.high ∨ s = floors.low ∨ ∃ item ∈ items, item.2 = s

private theorem InPlay.of_mem {floors : Floors β} {items : List (α × β)} {item : α × β}
    (h : item ∈ items) :
    InPlay floors items item.2 := .inr (.inr ⟨item, h, rfl⟩)

private theorem InPlay.mono {floors : Floors β} {items others : List (α × β)}
    (hsub : ∀ item ∈ others, item ∈ items) {s : β} (h : InPlay floors others s) :
    InPlay floors items s := by
  rcases h with h | h | ⟨item, hitem, h⟩
  · exact .inl h
  · exact .inr (.inl h)
  · exact .inr (.inr ⟨item, hsub item hitem, h⟩)

private theorem Agrees.mono [LT β] [LE β] [LinearOrder γ] {key : β → γ} {P Q : β → Prop}
    (h : Agrees key P) (hsub : ∀ s, Q s → P s) : Agrees key Q :=
  ⟨fun s t hs ht => h.lt_iff s t (hsub s hs) (hsub t ht),
    fun s t hs ht => h.le_iff s t (hsub s hs) (hsub t ht)⟩

/-- The item has a best score. -/
structure Best [LinearOrder γ] (score : α → γ) (items : List α) (best : α) : Prop where
  mem : best ∈ items
  le : ∀ item ∈ items, score item ≤ score best

/-- Whether a score counts beside a best one: if that reaches the high floor, then so must the score;
else, if it reaches the low floor, then so must the score. -/
def Counts [LinearOrder γ] (high low best s : γ) : Prop :=
  (high ≤ best → high ≤ s) ∧ (best < high → low ≤ best → low ≤ s)

instance [LinearOrder γ] (high low best s : γ) : Decidable (Counts high low best s) :=
  inferInstanceAs (Decidable (_ ∧ _))

theorem counts_self [LinearOrder γ] (high low best : γ) : Counts high low best best :=
  ⟨fun h => h, fun _ h => h⟩

section Sorting

variable [LT β] [DecidableLT β] [LE β] [LinearOrder γ] {key : β → γ}
  {floors : Floors β} {items : List (α × β)}

omit [LE β] in
private theorem insertScored_eq {item : α × β} {sorted : List (α × β)}
    (h : ∀ last ∈ sorted, (last.2 < item.2 ↔ key last.2 < key item.2)) :
    insertScored item sorted = sorted.orderedInsert (fun a b => key a.2 ≤ key b.2) item := by
  induction sorted with
  | nil => rfl
  | cons last before ih =>
    have hlast := h last List.mem_cons_self
    unfold insertScored
    by_cases hlt : last.2 < item.2
    · have hbehind : ¬ key item.2 ≤ key last.2 := not_le.2 (hlast.1 hlt)
      rw [if_pos hlt, List.orderedInsert_cons, if_neg hbehind,
        ih fun other hother => h other (List.mem_cons_of_mem last hother)]
    · have hahead : key item.2 ≤ key last.2 := not_lt.1 fun hkey => hlt (hlast.2 hkey)
      rw [if_neg hlt, List.orderedInsert_cons, if_pos hahead]

theorem sortScored_eq (h : Agrees key (InPlay floors items)) :
    sortScored items = (items.reverse.insertionSort fun a b => key a.2 ≤ key b.2).reverse := by
  have hinserted : ∀ l : List (α × β), (∀ item ∈ l, item ∈ items) →
      l.foldr insertScored [] = l.insertionSort fun a b => key a.2 ≤ key b.2 := by
    intro l hl
    induction l with
    | nil => rfl
    | cons item l ih =>
      have hrest := ih fun other hother => hl other (List.mem_cons_of_mem item hother)
      rw [List.foldr_cons, hrest, List.insertionSort_cons]
      refine insertScored_eq fun last hlast =>
        h.lt_iff _ _ (.of_mem (hl last ?_)) (.of_mem (hl item List.mem_cons_self))
      exact List.mem_cons_of_mem item ((List.mem_insertionSort _).1 hlast)
  rw [sortScored, ← hinserted items.reverse fun item hitem => List.mem_reverse.1 hitem,
    List.foldr_reverse]

private theorem sortedBy_sortScored (h : Agrees key (InPlay floors items)) :
    SortedBy (fun item => key item.2) items (sortScored items) := by
  rw [sortScored_eq h]
  exact sortedBy_insertionSort _ items

/-- A list that is sorted stays as it is. -/
private theorem sortScored_of_descending (h : Agrees key (InPlay floors items))
    (hsorted : items.Pairwise fun a b => key b.2 ≤ key a.2) : sortScored items = items := by
  have hreverse : items.reverse.Pairwise fun a b => key a.2 ≤ key b.2 := List.pairwise_reverse.2 hsorted
  rw [sortScored_eq h, hreverse.insertionSort_eq, List.reverse_reverse]

end Sorting

/-! ### The floor -/

section Filter

variable [LT β] [DecidableLT β] [LE β] [DecidableLE β]

/-- What the filter gives, with the scores. -/
def narrowed (floors : Floors β) (items : List (α × β)) : List (α × β) :=
  match sortScored items with
  | [] => []
  | top :: rest => (top :: rest).filter fun item => reaches (floors.floorFor top.2) item.2

theorem confidenceFilter_eq (floors : Floors β) (items : List (α × β)) :
    confidenceFilter floors items = (narrowed floors items).map (·.1) := by
  unfold confidenceFilter narrowed
  cases sortScored items <;> rfl

private theorem mem_of_mem_narrowed {floors : Floors β} {items : List (α × β)} {item : α × β}
    (h : item ∈ narrowed floors items) : item ∈ items := by
  unfold narrowed at h
  cases hsorted : sortScored items with
  | nil => simp [hsorted] at h
  | cons top rest =>
    rw [hsorted] at h
    exact (perm_sortScored items).mem_iff.1 (hsorted ▸ (List.mem_filter.1 h).1)

variable [LinearOrder γ] {key : β → γ} {floors : Floors β} {items others : List (α × β)} {best : α × β}

omit [DecidableLT β] in
private theorem reaches_iff (h : Agrees key (InPlay floors items)) {top s : β}
    (htop : InPlay floors items top) (hs : InPlay floors items s) :
    reaches (floors.floorFor top) s = true ↔ Counts (key floors.high) (key floors.low)
    (key top) (key s) := by
  have hhigh : InPlay floors items floors.high := .inl rfl
  have hlow : InPlay floors items floors.low := .inr (.inl rfl)
  unfold Floors.floorFor Counts
  simp only [h.le_iff _ _ hhigh htop, h.le_iff _ _ hlow htop]
  by_cases hreach : key floors.high ≤ key top
  · simp [hreach, reaches, h.le_iff _ _ hhigh hs]
  · by_cases hreach' : key floors.low ≤ key top
    · simp [hreach, hreach', not_le.1 hreach, reaches, h.le_iff _ _ hlow hs]
    · simp [hreach, hreach', reaches]

/-- The floor is that of a best score, whichever item has it. -/
private theorem narrowed_eq (h : Agrees key (InPlay floors items))
    (hbest : Best (fun item => key item.2) items best) :
    narrowed floors items = (sortScored items).filter fun item =>
      Counts (key floors.high) (key floors.low) (key best.2) (key item.2) := by
  have hsorted := sortedBy_sortScored h
  unfold narrowed
  cases hlist : sortScored items with
  | nil => rfl
  | cons top rest =>
    rw [hlist] at hsorted
    have hmem : ∀ item ∈ top :: rest, item ∈ items := fun item hitem => hsorted.perm.mem_iff.1 hitem
    have htop : key top.2 = key best.2 := by
      refine le_antisymm (hbest.le top (hmem top List.mem_cons_self)) ?_
      rcases List.mem_cons.1 (hsorted.perm.mem_iff.2 hbest.mem) with heq | hrest
      · rw [heq]
      · exact List.rel_of_pairwise_cons hsorted.descending hrest
    refine List.filter_congr fun item hitem => ?_
    rw [Bool.eq_iff_iff, reaches_iff h (.of_mem (hmem top List.mem_cons_self))
      (.of_mem (hmem item hitem)), htop,
      decide_eq_true_eq]

/-! ### What the filter does -/

/-- What the filter makes of some items, told by the keys of their scores. -/
structure Narrows (key : β → γ) (floors : Floors β) (items : List (α × β)) : Prop where
  answer : confidenceFilter floors items = (narrowed floors items).map (·.1)
  /-- It is the stable sort of the items that count beside a best one. -/
  sorted : ∀ best, Best (fun item => key item.2) items best →
    SortedBy (fun item => key item.2)
      (items.filter fun item => Counts (key floors.high) (key floors.low) (key best.2) (key item.2))
      (narrowed floors items)
  /-- It is empty for no items alone; and if there are any, one of them is a best one. -/
  nil_iff : confidenceFilter floors items = [] ↔ items = []
  exists_best : items ≠ [] → ∃ best, Best (fun item => key item.2) items best
  /-- What it gives it keeps. -/
  again : narrowed floors (narrowed floors items) = narrowed floors items
  /-- For the items in another order it gives the same items with the same scores at each place. -/
  reordered : ∀ others, others.Perm items → (narrowed floors others).Perm (narrowed floors items) ∧
    (narrowed floors others).map (key ·.2) = (narrowed floors items).map (key ·.2)

theorem exists_best (score : α → γ) {items : List α} (h : items ≠ []) :
    ∃ best, Best score items best := by
  cases hmax : items.argmax score with
  | none => exact absurd (List.argmax_eq_none.1 hmax) h
  | some best => exact ⟨best, List.argmax_mem hmax, fun item hitem => List.le_of_mem_argmax hitem hmax⟩

private theorem sortedBy_narrowed (h : Agrees key (InPlay floors items))
    (hbest : Best (fun item => key item.2) items best) :
    SortedBy (fun item => key item.2)
      (items.filter fun item => Counts (key floors.high) (key floors.low) (key best.2) (key item.2))
      (narrowed floors items) := by
  rw [narrowed_eq h hbest]
  exact (sortedBy_sortScored h).filter _

private theorem mem_narrowed (h : Agrees key (InPlay floors items))
    (hbest : Best (fun item => key item.2) items best) {item : α × β} : item ∈ narrowed floors items ↔
      item ∈ items ∧ Counts (key floors.high) (key floors.low) (key best.2) (key item.2) := by
  rw [(sortedBy_narrowed h hbest).perm.mem_iff, List.mem_filter, decide_eq_true_eq]

/-- Where all that counts has one score, the filter takes it as it is. -/
theorem narrowed_of_tied (h : Agrees key (InPlay floors items))
    (hbest : Best (fun item => key item.2) items best) {s : γ}
    (hs : ∀ item ∈ items, Counts (key floors.high) (key floors.low) (key best.2) (key item.2) →
      key item.2 = s) :
    narrowed floors items = items.filter fun item =>
      Counts (key floors.high) (key floors.low) (key best.2) (key item.2) :=
  (sortedBy_narrowed h hbest).eq_of_tied fun item hitem =>
    hs item (List.mem_filter.1 hitem).1 (of_decide_eq_true (List.mem_filter.1 hitem).2)

theorem Best.narrowed (h : Agrees key (InPlay floors items))
    (hbest : Best (fun item => key item.2) items best) :
    Best (fun item => key item.2) (narrowed floors items) best where
  mem := (mem_narrowed h hbest).2 ⟨hbest.mem, counts_self _ _ _⟩
  le item hitem := hbest.le item (mem_of_mem_narrowed hitem)

private theorem narrowed_nil (floors : Floors β) : narrowed floors ([] : List (α × β)) = [] := rfl

private theorem narrowed_narrowed (h : Agrees key (InPlay floors items)) :
    narrowed floors (narrowed floors items) = narrowed floors items := by
  by_cases hitems : items = []
  · rw [hitems, narrowed_nil, narrowed_nil]
  · obtain ⟨best, hbest⟩ := exists_best (fun item : α × β => key item.2) hitems
    have hagrees : Agrees key (InPlay floors (narrowed floors items)) :=
      h.mono fun s hs => hs.mono fun item hitem => mem_of_mem_narrowed hitem
    rw [narrowed_eq hagrees (hbest.narrowed h),
      sortScored_of_descending hagrees (sortedBy_narrowed h hbest).descending, List.filter_eq_self]
    exact fun item hitem => decide_eq_true ((mem_narrowed h hbest).1 hitem).2

private theorem narrowed_of_perm (h : Agrees key (InPlay floors items)) (hperm : others.Perm items) :
    (narrowed floors others).Perm (narrowed floors items) ∧
      (narrowed floors others).map (key ·.2) = (narrowed floors items).map (key ·.2) := by
  by_cases hitems : items = []
  · rw [hitems] at hperm ⊢
    rw [hperm.eq_nil]
    exact ⟨List.Perm.refl _, rfl⟩
  · obtain ⟨best, hbest⟩ := exists_best (fun item : α × β => key item.2) hitems
    have hother : Best (fun item => key item.2) others best :=
      ⟨hperm.mem_iff.2 hbest.mem, fun item hitem => hbest.le item (hperm.mem_iff.1 hitem)⟩
    have hagrees : Agrees key (InPlay floors others) :=
      h.mono fun s hs => hs.mono fun item => hperm.mem_iff.1
    have hitems' := sortedBy_narrowed h hbest
    have hothers' := sortedBy_narrowed hagrees hother
    have hsame : (narrowed floors others).Perm (narrowed floors items) :=
      hothers'.perm.trans ((hperm.filter _).trans hitems'.perm.symm)
    -- both are sorted, so with the same scores they have the same one at each place
    have hscores : ((narrowed floors others).map (key ·.2)).Pairwise fun s t => t ≤ s :=
      List.pairwise_map.2 hothers'.descending
    have hscores' : ((narrowed floors items).map (key ·.2)).Pairwise fun s t => t ≤ s :=
      List.pairwise_map.2 hitems'.descending
    exact ⟨hsame,
      (hsame.map _).eq_of_pairwise (fun _ _ _ _ hle hge => le_antisymm hge hle) hscores hscores'⟩

theorem narrows_of_agrees (h : Agrees key (InPlay floors items)) : Narrows key floors items where
  answer := confidenceFilter_eq floors items
  sorted _ := sortedBy_narrowed h
  nil_iff := by
    rw [confidenceFilter_eq, List.map_eq_nil_iff]
    constructor
    · intro hnil
      by_contra hitems
      obtain ⟨best, hbest⟩ := exists_best (fun item : α × β => key item.2) hitems
      have hmem := (hbest.narrowed h).mem
      rw [hnil] at hmem
      exact List.not_mem_nil hmem
    · rintro rfl
      exact narrowed_nil floors
  exists_best := exists_best _
  again := narrowed_narrowed h
  reordered _ := narrowed_of_perm h

/-! ### A perfect score -/

omit [LT β] [DecidableLT β] [LE β] [DecidableLE β] in
private theorem eq_append_of_descending {score : α → γ} {k : γ} {l : List α}
    (hsorted : l.Pairwise fun a b => score b ≤ score a) (hle : ∀ a ∈ l, score a ≤ k) :
    l = l.filter (score · = k) ++ l.filter (score · ≠ k) := by
  induction l with
  | nil => rfl
  | cons a l ih =>
    rw [List.pairwise_cons] at hsorted
    have hrest := ih hsorted.2 fun b hb => hle b (List.mem_cons_of_mem a hb)
    by_cases hk : score a = k
    · simpa [hk] using hrest
    · -- from here on all scores are below `k`
      have hlt : score a < k := lt_of_le_of_ne (hle a List.mem_cons_self) hk
      have hbelow : ∀ b ∈ l, score b ≠ k := fun b hb => ((hsorted.1 b hb).trans_lt hlt).ne
      have hnone : l.filter (score · = k) = [] := by
        rw [List.filter_eq_nil_iff]
        exact fun b hb => by simpa using hbelow b hb
      rw [hnone, List.nil_append] at hrest
      simpa [hk, hnone] using hrest

/-- Where no score is above `one`, what has that score comes first, in the order in which it was given. -/
theorem narrowed_of_le (one : β) (h : Agrees key (InPlay floors items))
    (hone : ∀ item ∈ items, key item.2 ≤ key one) :
    ∃ rest, narrowed floors items = (items.filter fun item => key item.2 = key one) ++ rest ∧
      ∀ item ∈ rest, item ∈ items ∧ key item.2 < key one := by
  by_cases hitems : items = []
  · exact ⟨[], by rw [hitems]; rfl, by simp⟩
  · obtain ⟨best, hbest⟩ := exists_best (fun item : α × β => key item.2) hitems
    have hsorted := sortedBy_narrowed h hbest
    have hfirst : (narrowed floors items).filter (fun item => key item.2 = key one) =
        items.filter fun item => key item.2 = key one := by
      rw [hsorted.stable, List.filter_filter]
      refine List.filter_congr fun item hitem => ?_
      rw [Bool.and_eq_left_iff_imp]
      intro hscore
      have hsame : key best.2 = key item.2 :=
        le_antisymm ((of_decide_eq_true hscore).symm ▸ hone best hbest.mem) (hbest.le item hitem)
      rw [hsame]
      exact decide_eq_true (counts_self _ _ _)
    have hsplit := eq_append_of_descending (k := key one) hsorted.descending
      fun item hitem => hone item (mem_of_mem_narrowed hitem)
    rw [hfirst] at hsplit
    refine ⟨_, hsplit, fun item hitem => ?_⟩
    obtain ⟨hmem, hne⟩ := List.mem_filter.1 hitem
    have hmem' := mem_of_mem_narrowed hmem
    exact ⟨hmem', lt_of_le_of_ne (hone item hmem') (by simpa using hne)⟩

end Filter

end PassageEditor.Ranking
