import PassageEditor.Proofs.Format.Equations
import PassageEditor.Proofs.Variable.Sound

/-!
# Which passages a tracker has scanned

A tracker scans every passage of a story before it forgets others, so after a sync the index knows each
passage of that story (`isScanned_sync`), whatever stories came before and even where they repeat an
identifier.  A lookup of what such a passage sees cannot fail (`visibleNames_of_isScanned`).
-/

namespace PassageEditor

namespace VariableIndex

theorem visibleNames_of_isScanned {ix : VariableIndex} {p : PassageId} (h : ix.isScanned p) :
    ∃ names, ix.visibleNames p = .ok names := by
  obtain ⟨own, hown⟩ := Option.isSome_iff_exists.1 h
  unfold visibleNames visible
  rw [hown]
  exact ⟨_, rfl⟩

end VariableIndex

namespace Tracker

open VariableIndex

/-- Each revision stands under its passage, and the index is sound and has scanned that passage. -/
structure Consistent (t : Tracker) : Prop where
  keyed : ∀ e ∈ t.scanned, e.1 = e.2.passage.id
  sound : ∃ latest, Sound t.index latest ∧ ∀ p, (t.scanned.lookup p).isSome → (latest p).isSome

private theorem Consistent.isScanned {t : Tracker} (h : t.Consistent) {p : PassageId}
    (hp : (t.scanned.lookup p).isSome) :
    t.index.isScanned p := by
  obtain ⟨latest, hsound, hknown⟩ := h.sound
  have hscanned := hsound.scanned p
  rw [hknown p hp] at hscanned
  exact hscanned

theorem consistent_empty (hooks : VariableHooks) (format : FormatRef) :
    (empty hooks format).Consistent where
  keyed := by simp [empty]
  sound := ⟨fun _ => none, Sound.empty, fun p hp => by simp [empty] at hp⟩

/-! ### Scanning -/

/-- After the scan of a revision its passage is known, and so are those that were. -/
private theorem known_scan (state : Tracker × SyncReport) (r : Revision) (p : PassageId) :
    ((scan state r).1.scanned.lookup p).isSome ↔ p = r.passage.id ∨
    (state.1.scanned.lookup p).isSome := by
  obtain ⟨t, report⟩ := state
  by_cases hseen : t.hasSeen r
  · have hscan : scan (t, report) r = (t, report) := by simp [scan_def, hseen]
    have hknown : (t.scanned.lookup r.passage.id).isSome := by
      unfold hasSeen at hseen
      cases hl : t.scanned.lookup r.passage.id with
      | none => simp [hl] at hseen
      | some q => rfl
    rw [hscan]
    constructor
    · exact .inr
    · rintro (rfl | h)
      · exact hknown
      · exact h
  · have hscan : (scan (t, report) r).1.scanned = (r.passage.id, r) ::
        t.scanned.filter (·.1 ≠ r.passage.id) := by
      simp [scan_def, hseen, rescan]
    rw [hscan, lookup_put]
    by_cases hp : p = r.passage.id
    · simp [hp]
    · simp [hp]

private theorem consistent_scan {state : Tracker × SyncReport} (h : state.1.Consistent) (r : Revision) :
    (scan state r).1.Consistent := by
  have hknown := known_scan state r
  obtain ⟨t, report⟩ := state
  by_cases hseen : t.hasSeen r
  · have hscan : scan (t, report) r = (t, report) := by simp [scan_def, hseen]
    rwa [hscan]
  · have hscan : ∃ tokens, (scan (t, report) r).1 =
        { t with
          index := t.index.resetPassage r.passage.id r.passage.name tokens
          scanned := (r.passage.id, r) :: t.scanned.filter (·.1 ≠ r.passage.id) } := by
      simp only [scan_def, hseen, Bool.false_eq_true, ↓reduceIte]
      exact ⟨_, rfl⟩
    obtain ⟨tokens, hscan⟩ := hscan
    obtain ⟨latest, hsound, hlatest⟩ := h.sound
    rw [hscan] at hknown ⊢
    refine ⟨fun e he => ?_, _, hsound.reset r.passage.id r.passage.name tokens, fun p hp => ?_⟩
    · rcases List.mem_cons.1 he with rfl | he
      · rfl
      · exact h.keyed e (List.mem_of_mem_filter he)
    · rw [Function.update_apply]
      split
      · rfl
      · exact hlatest p (((hknown p).1 hp).resolve_left ‹_›)

private theorem consistent_scans {state : Tracker × SyncReport} (h : state.1.Consistent)
    (rs : List Revision) :
    (rs.foldl scan state).1.Consistent ∧
      ∀ p, ((rs.foldl scan state).1.scanned.lookup p).isSome ↔
        (∃ r ∈ rs, r.passage.id = p) ∨ (state.1.scanned.lookup p).isSome := by
  induction rs generalizing state with
  | nil => exact ⟨h, fun p => by simp⟩
  | cons r rs ih =>
    obtain ⟨hrest, hknown⟩ := ih (consistent_scan h r)
    refine ⟨hrest, fun p => ?_⟩
    rw [List.foldl_cons, hknown, known_scan]
    simp only [List.mem_cons, exists_eq_or_imp, eq_comm (a := p), or_assoc]
    exact or_left_comm

/-! ### Forgetting -/

private theorem known_forget (t : Tracker) (r : Revision) (p : PassageId) :
    ((t.forget r).scanned.lookup p).isSome ↔ p ≠ r.passage.id ∧ (t.scanned.lookup p).isSome := by
  show ((t.scanned.filter (·.1 ≠ r.passage.id)).lookup p).isSome ↔ _
  rw [lookup_filter_ne]
  by_cases hp : p = r.passage.id
  · simp [hp]
  · simp [hp]

private theorem consistent_forget {t : Tracker} (h : t.Consistent) (r : Revision) :
    (t.forget r).Consistent := by
  obtain ⟨latest, hsound, hlatest⟩ := h.sound
  refine ⟨fun e he => h.keyed e (List.mem_of_mem_filter he), _,
    hsound.remove r.passage.id r.passage.name, fun p hp => ?_⟩
  obtain ⟨hne, hknown⟩ := (known_forget t r p).1 hp
  rw [Function.update_of_ne hne]
  exact hlatest p hknown

private theorem consistent_forgets {t : Tracker} (h : t.Consistent) (gone : List Revision) :
    (gone.foldl forget t).Consistent ∧
      ∀ p, ((gone.foldl forget t).scanned.lookup p).isSome ↔
        (∀ r ∈ gone, r.passage.id ≠ p) ∧ (t.scanned.lookup p).isSome := by
  induction gone generalizing t with
  | nil => exact ⟨h, fun p => by simp⟩
  | cons r gone ih =>
    obtain ⟨hrest, hknown⟩ := ih (consistent_forget h r)
    refine ⟨hrest, fun p => ?_⟩
    rw [List.foldl_cons, hknown, known_forget]
    simp only [List.mem_cons, forall_eq_or_imp, ne_eq, eq_comm (a := p)]
    tauto

/-! ### A whole sync -/

/-- Only passages that the story does not have depart. -/
private theorem absent_of_mem_departed {t : Tracker} (h : t.Consistent) {s : Story} {r : Revision}
    (hr : r ∈ t.departed s) :
    ∀ q ∈ s.passages, q.passage.id ≠ r.passage.id := by
  intro q hq hid
  unfold departed at hr
  obtain ⟨e, he, rfl⟩ := List.mem_map.1 hr
  obtain ⟨he, hgone⟩ := List.mem_filter.1 he
  rw [Bool.not_eq_true', List.any_eq_false] at hgone
  have hkey : e.1 = e.2.passage.id := h.keyed e he
  exact hgone q hq (by simpa [hkey] using hid)

/-- After a sync the passages of the story are known. -/
theorem consistent_sync {t : Tracker} (h : t.Consistent) (s : Story) :
    (t.sync s).2.Consistent ∧ ∀ r ∈ s.passages, ((t.sync s).2.scanned.lookup r.passage.id).isSome := by
  let state : Tracker × SyncReport := (t, ⟨0, 0, 0⟩)
  have hstate : state.1.Consistent := h
  obtain ⟨hscans, hknown⟩ := consistent_scans hstate s.passages
  have hsync : (t.sync s).2 =
      ((s.passages.foldl scan (t, ⟨0, 0, 0⟩)).1.departed s).foldl forget
        (s.passages.foldl scan (t, ⟨0, 0, 0⟩)).1 := by
    rw [sync_def]
  rw [hsync]
  generalize (s.passages.foldl scan (t, ⟨0, 0, 0⟩)).1 = u at hscans hknown
  obtain ⟨hforgets, hkept⟩ := consistent_forgets hscans (u.departed s)
  refine ⟨hforgets, fun r hr => (hkept r.passage.id).2 ⟨fun q hq hid => ?_,
    (hknown _).2 (.inl ⟨r, hr, rfl⟩)⟩⟩
  exact absent_of_mem_departed hscans hq r hr hid.symm

theorem isScanned_sync {t : Tracker} (h : t.Consistent) {s : Story} {r : Revision} (hr : r ∈ s.passages) :
    (t.sync s).2.index.isScanned r.passage.id :=
  (consistent_sync h s).1.isScanned ((consistent_sync h s).2 r hr)

end Tracker

end PassageEditor
