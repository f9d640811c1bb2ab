import PassageEditor.Proofs.Variable.Follows
import PassageEditor.Proofs.Variable.Visible

/-!
# Tracking against a fresh scan

A tracker that has followed a story through many syncs knows what the passages define now, so a passage
sees its own names as if the story had been scanned afresh.  The global names may be more than those: a
name stays global while a passage shares it, and a passage that made its definition local goes on sharing
the name (`global_after_definition_turns_local`).  What a tracker shows besides what a fresh one shows is
told by `visibleNames_after`.
-/

namespace PassageEditor.Tracker

open VariableIndex

/-- Whether some passage of a story defines a name for all. -/
def definedForAll (hooks : VariableHooks) (format : FormatRef) (s : Story) (x : String) : Bool :=
  s.passages.any fun r => (definitionsOf hooks format r.passage).any fun d => d.name = x && !d.isLocal

section Seen

variable {hooks : VariableHooks} {format : FormatRef} {history : List Story} {s : Story}

/-- A name that some passage defines for all is global. -/
private theorem global_of_definedForAll
    (hids : ∀ s' ∈ history ++ [s], (s'.passages.map (·.passage.id)).Nodup)
    (hstamps : Stamped ((history ++ [s]).flatMap (·.passages))) {x : String}
    (hx : definedForAll hooks format s x) :
    ((after hooks format (history ++ [s])).index.global? x).isSome := by
  have h := follows_after hooks format hids hstamps
  simp only [definedForAll, List.any_eq_true, Bool.and_eq_true, decide_eq_true_eq,
    Bool.not_eq_true'] at hx
  obtain ⟨r, hr, d, hd, rfl, hl⟩ := hx
  have hknown := find?_of_mem (hids s (by simp)) hr
  obtain ⟨i, -, -, hg⟩ := h.sound.shared r.passage.id d (by simpa [hknown] using hd) hl
  simp [hg]

private theorem global_iff_shared_after
    (hids : ∀ s' ∈ history ++ [s], (s'.passages.map (·.passage.id)).Nodup)
    (hstamps : Stamped ((history ++ [s]).flatMap (·.passages))) (x : String) :
    ((after hooks format (history ++ [s])).index.global? x).isSome ↔
      ∃ r ∈ s.passages, Shared hooks format (history ++ [s]) r.passage.id x := by
  have h := follows_after hooks format hids hstamps
  rw [h.sound.global_iff_shares]
  constructor
  · rintro ⟨p, hp⟩
    rw [h.shares] at hp
    obtain ⟨r, hr⟩ := Option.isSome_iff_exists.1 (h.known_of_shared hp)
    have hid := List.find?_some hr
    rw [decide_eq_true_eq] at hid
    exact ⟨r, List.mem_of_find?_eq_some hr, hid ▸ hp⟩
  · rintro ⟨r, -, hp⟩
    exact ⟨r.passage.id, (h.shares _ x).2 hp⟩

/-- What is shared without a history is what the passages define for all. -/
private theorem definedForAll_of_shared {rs : List Revision} {shared : PassageId → String → Prop}
    {p : PassageId} {x : String} (hx : rs.foldl (shareScan hooks format []) shared p x) :
    (∃ q, shared q x) ∨
      ∃ r ∈ rs, ∃ d ∈ definitionsOf hooks format r.passage, d.name = x ∧ d.isLocal = false := by
  induction rs generalizing shared with
  | nil => exact .inl ⟨p, hx⟩
  | cons r rs ih =>
    rcases ih hx with ⟨q, hq⟩ | ⟨r', hr', hd⟩
    · rw [shareScan, List.any_nil, if_neg (by simp)] at hq
      simp only [scanOf, Op.share, Function.update_apply] at hq
      split at hq
      · obtain ⟨-, -, -, ⟨e, he, hn, hl⟩ | hshared⟩ := hq
        · exact .inr ⟨r, by simp, e, he, hn, hl⟩
        · exact .inl hshared
      · exact .inl ⟨q, hq⟩
    · exact .inr ⟨r', by simp [hr'], hd⟩

private theorem global_iff_definedForAll (hids : (s.passages.map (·.passage.id)).Nodup)
    (hstamps : Stamped s.passages) (x : String) :
    ((after hooks format [s]).index.global? x).isSome ↔ definedForAll hooks format s x := by
  have hids' : ∀ s' ∈ [] ++ [s], (s'.passages.map (·.passage.id)).Nodup := by simpa using hids
  have hstamps' : Stamped (([] ++ [s] : List Story).flatMap (·.passages)) := by simpa using hstamps
  refine ⟨fun hg => ?_, fun hx => global_of_definedForAll hids' hstamps' hx⟩
  obtain ⟨r, hr, hs⟩ := (global_iff_shared_after hids' hstamps' x).1 hg
  rcases definedForAll_of_shared hs.2 with ⟨q, hq⟩ | ⟨r', hr', d, hd, hn, hl⟩
  · exact hq.elim
  · simp only [definedForAll, List.any_eq_true, Bool.and_eq_true, decide_eq_true_eq, Bool.not_eq_true']
    exact ⟨r', hr', d, hd, hn, hl⟩

private theorem visibleNames_of_mem (hids : ∀ s' ∈ history ++ [s], (s'.passages.map (·.passage.id)).Nodup)
    (hstamps : Stamped ((history ++ [s]).flatMap (·.passages))) {r : Revision} (hr : r ∈ s.passages) :
    let ix := (after hooks format (history ++ [s])).index
    let own := namesOf (definitionsOf hooks format r.passage)
    ix.visibleNames r.passage.id =
      .ok (own ++ sortNames (ix.globalNames.filter (· ∉ own)) ++ ix.nativeNames) := by
  have h := follows_after hooks format hids hstamps
  refine h.sound.visibleNames_eq ?_
  rw [find?_of_mem (hids s (by simp)) hr, Option.map_some]

/-- After any history a passage sees its own names, then the global ones that it does not define.  A
tracker that is new to the story shows the same own names, and of the others those that some passage
defines for all.  The rest are the names that are still shared: the global names are those that some
passage shares. -/
theorem visibleNames_after (hids : ∀ s' ∈ history ++ [s], (s'.passages.map (·.passage.id)).Nodup)
    (hstamps : Stamped ((history ++ [s]).flatMap (·.passages))) :
    let ix := (after hooks format (history ++ [s])).index
    let new := (after hooks format [s]).index
    (∀ x, (ix.global? x).isSome ↔ ∃ r ∈ s.passages, Shared hooks format (history ++ [s]) r.passage.id x) ∧
      (∀ r ∈ s.passages, ∀ x, Shared hooks format (history ++ [s]) r.passage.id x →
        ∃ d ∈ definitionsOf hooks format r.passage, d.name = x) ∧
      (∀ x, definedForAll hooks format s x → (ix.global? x).isSome) ∧
      ∀ r ∈ s.passages,
        let own := namesOf (definitionsOf hooks format r.passage)
        let others := sortNames (ix.globalNames.filter (· ∉ own))
        ix.visibleNames r.passage.id = .ok (own ++ others ++ ix.nativeNames) ∧
          new.visibleNames r.passage.id =
            .ok (own ++ others.filter (definedForAll hooks format s) ++ new.nativeNames) := by
  intro ix new
  have h := follows_after hooks format hids hstamps
  have hids' : ∀ s' ∈ [] ++ [s], (s'.passages.map (·.passage.id)).Nodup := by
    intro s' hs'
    exact hids s' (by simp_all)
  have hstamps' : Stamped (([] ++ [s] : List Story).flatMap (·.passages)) := by
    intro q hq r hr
    exact hstamps q (by simp_all) r (by simp_all)
  have h' := follows_after hooks format hids' hstamps'
  refine ⟨global_iff_shared_after hids hstamps, fun r hr x hx => ?_,
    fun x hx => global_of_definedForAll hids hstamps hx,
      fun r hr => ⟨visibleNames_of_mem hids hstamps hr, ?_⟩⟩
  · obtain ⟨i, hi, hg⟩ := (h.shares _ x).2 hx
    have hfound := (h.sound.found r.passage.id x).1 ⟨i, hi, h.sound.keyed.nameOf_global hg⟩
    rwa [find?_of_mem (hids s (by simp)) hr] at hfound
  · have hfresh : new.visibleNames r.passage.id = _ := visibleNames_of_mem hids' hstamps' hr
    rw [hfresh, filter_sortNames, List.filter_filter]
    congr 3
    refine sortNames_eq_of_mem_iff (h'.sound.keyed.nodup.filter _) (h.sound.keyed.nodup.filter _) fun x =>
      ?_
    have hnew : x ∈ new.globalNames ↔ definedForAll hooks format s x := by
      rw [mem_globalNames]
      exact global_iff_definedForAll (hids s (by simp)) (by simpa using hstamps') x
    have hold : definedForAll hooks format s x → x ∈ ix.globalNames := fun hx =>
      mem_globalNames.2 (global_of_definedForAll hids hstamps hx)
    simp only [List.mem_filter, Bool.and_eq_true, decide_eq_true_eq]
    constructor
    · rintro ⟨hx, hn⟩
      exact ⟨hold (hnew.1 hx), hnew.1 hx, hn⟩
    · rintro ⟨-, hx, hn⟩
      exact ⟨hnew.2 hx, hn⟩

end Seen

/-! ### A definition that turns local -/

/-- Reads a text that says for whom it defines `x`. -/
def turnHooks : VariableHooks where
  reserved := []
  pattern := none
  suggest := none
  parse text :=
    .ok (if text = "all" then [.mention ⟨"x", .origin, some "1", false⟩]
      else if text = "one" then [.mention ⟨"x", .origin, some "1", true⟩]
      else [])

/-- A story of two passages, the first of which defines `x` as its text says. -/
def turnStory (stamp : Nat) (text : String) : Story :=
  ⟨⟨1⟩, "Story", default, [⟨stamp, .fresh ⟨1⟩ "A" text []⟩, ⟨0, .fresh ⟨2⟩ "B" "" []⟩]⟩

/-- The first passage defines `x` for all and then for itself alone.  The second one sees `x` all the
same, though no passage defines it for all any more and a new tracker does not show it. -/
theorem global_after_definition_turns_local :
    let ix := (after turnHooks default [turnStory 1 "all", turnStory 2 "one"]).index
    let new := (after turnHooks default [turnStory 2 "one"]).index
    ix.visibleNames ⟨2⟩ = .ok ["x"] ∧ ix.natives = [] ∧ new.visibleNames ⟨2⟩ = .ok [] ∧
      (ix.global? "x").isSome ∧ definedForAll turnHooks default (turnStory 2 "one") "x" = false := by
  have hix : (after turnHooks default [turnStory 1 "all", turnStory 2 "one"]).index =
      ⟨[⟨"x", [⟨"x", .origin, "1", true, ⟨1⟩, "A"⟩]⟩], [], [("x", ⟨0⟩)], [(⟨1⟩, [⟨0⟩]), (⟨2⟩, [])]⟩ := by
    decide +kernel
  have hnew : (after turnHooks default [turnStory 2 "one"]).index =
      ⟨[⟨"x", [⟨"x", .origin, "1", true, ⟨1⟩, "A"⟩]⟩], [], [], [(⟨2⟩, []), (⟨1⟩, [⟨0⟩])]⟩ := by
    decide +kernel
  intro ix new
  refine ⟨?_, ?_, ?_, ?_, by decide +kernel⟩
  · simp [ix, hix, visibleNames, visible, locals?, lookup_pair, sortByName, named?,
      nameOf, object?, Except.map]
  · simp [ix, hix]
  · simp [new, hnew, visibleNames, visible, locals?, sortByName, Except.map]
  · simp [ix, hix, global?]

/-- The passages of that story keep their identifiers, and a stamp of it stands for one revision. -/
theorem visibleNames_after_turn :
    (∀ s' ∈ [turnStory 1 "all"] ++ [turnStory 2 "one"], (s'.passages.map (·.passage.id)).Nodup) ∧
      Stamped (([turnStory 1 "all"] ++ [turnStory 2 "one"]).flatMap (·.passages)) ∧
      let ix := (after turnHooks default ([turnStory 1 "all"] ++ [turnStory 2 "one"])).index
      ∀ x, (ix.global? x).isSome ↔ ∃ r ∈ (turnStory 2 "one").passages,
        Shared turnHooks default ([turnStory 1 "all"] ++ [turnStory 2 "one"]) r.passage.id x := by
  have hids : ∀ s' ∈ [turnStory 1 "all"] ++ [turnStory 2 "one"],
      (s'.passages.map (·.passage.id)).Nodup := by
    simp [turnStory, Passage.fresh]
  have hstamps : Stamped (([turnStory 1 "all"] ++ [turnStory 2 "one"]).flatMap (·.passages)) := by
    simp [Stamped, turnStory]
  exact ⟨hids, hstamps, (visibleNames_after hids hstamps).1⟩

end PassageEditor.Tracker
