import PassageEditor.Proofs.Format.Equations
import PassageEditor.Proofs.Variable.History

/-!
# Following a story

A tracker that is synced with one story after the other knows the revisions of the last one, its index has
what is found in them, and its passages share what the history makes them share (`Follows`).  A revision
that is known is not scanned again, and need not be, as a stamp stands for one revision (`Follows.scan`).
-/

namespace PassageEditor.Tracker

open VariableIndex

/-! ### What is found in a passage -/

/-- The tokens of a passage; a parser that fails finds none. -/
def tokensOf (hooks : VariableHooks) (format : FormatRef) (p : Passage) : List Token :=
  format.callOr .parseDefinitions [] (hooks.parse p.text)

def definitionsOf (hooks : VariableHooks) (format : FormatRef) (p : Passage) : List Definition :=
  definitionsIn p.id p.name (tokensOf hooks format p)

/-- A stamp stands for one revision. -/
def Stamped (rs : List Revision) : Prop := ∀ q ∈ rs, ∀ r ∈ rs, q.stamp = r.stamp → q = r

/-- Where no passage is there twice, its revision is the one that a search finds. -/
theorem find?_of_mem {rs : List Revision} (hids : (rs.map (·.passage.id)).Nodup) {r : Revision}
    (hr : r ∈ rs) :
    rs.find? (·.passage.id = r.passage.id) = some r := by
  obtain ⟨q, hq⟩ := Option.isSome_iff_exists.1
    (List.find?_isSome.2 ⟨r, hr, by simp⟩ : (rs.find? (·.passage.id = r.passage.id)).isSome)
  have hid := List.find?_some hq
  rw [decide_eq_true_eq] at hid
  rw [hq, List.inj_on_of_nodup_map hids (List.mem_of_find?_eq_some hq) hr hid]

/-- The tracker after some syncs. -/
def after (hooks : VariableHooks) (format : FormatRef) (history : List Story) : Tracker :=
  history.foldl (fun t s => (t.sync s).2) (.empty hooks format)

/-! ### The code of the format -/

/-- What a tracker calls. -/
def code (t : Tracker) : VariableHooks × FormatRef := (t.hooks, t.format)

theorem code_scan (state : Tracker × SyncReport) (r : Revision) :
    (scan state r).1.code = state.1.code := by
  obtain ⟨t, report⟩ := state
  rw [scan_def]
  by_cases hseen : t.hasSeen r <;> simp [hseen, code, rescan]

private theorem code_scans (state : Tracker × SyncReport) (rs : List Revision) :
    (rs.foldl scan state).1.code = state.1.code := by
  induction rs generalizing state with
  | nil => rfl
  | cons r rs ih => rw [List.foldl_cons, ih, code_scan]

private theorem code_forgets (t : Tracker) (gone : List Revision) :
    (gone.foldl forget t).code = t.code := by
  induction gone generalizing t with
  | nil => rfl
  | cons r gone ih => exact ih (t.forget r)

theorem code_sync (t : Tracker) (s : Story) : (t.sync s).2.code = t.code := by
  rw [sync_def]
  exact (code_forgets _ _).trans (code_scans _ _)

theorem after_concat (hooks : VariableHooks) (format : FormatRef) (history : List Story) (s : Story) :
    after hooks format (history ++ [s]) = ((after hooks format history).sync s).2 := by
  simp [after]

theorem code_after (hooks : VariableHooks) (format : FormatRef) (history : List Story) :
    (after hooks format history).code = (hooks, format) := by
  induction history using List.reverseRecOn with
  | nil => rfl
  | append_singleton history s ih => rw [after_concat, code_sync, ih]

/-! ### What the passages share -/

/-- The scan of a passage. -/
def scanOf (hooks : VariableHooks) (format : FormatRef) (r : Revision) : Op :=
  .reset r.passage.id r.passage.name (tokensOf hooks format r.passage)

/-- What the passages share after a passage is scanned, unless the story before had this revision of
it. -/
def shareScan (hooks : VariableHooks) (format : FormatRef) (before : List Revision)
    (shared : PassageId → String → Prop) (r : Revision) : PassageId → String → Prop :=
  if before.any fun q => q.passage.id = r.passage.id && q.stamp = r.stamp then shared
  else (scanOf hooks format r).share shared

/-- What the passages share after a sync; passages that the story does not have share nothing. -/
def shareSync (hooks : VariableHooks) (format : FormatRef) (before : List Revision)
    (shared : PassageId → String → Prop) (s : Story) : PassageId → String → Prop :=
  fun p x => (∃ r ∈ s.passages, r.passage.id = p) ∧
  s.passages.foldl (shareScan hooks format before) shared p x

/-- What the passages share after some syncs, each of a story with the revisions of the one before it.  A
passage shares the names that it defines for all, and those that it defines for itself while some passage
shares them. -/
def SharedFrom (hooks : VariableHooks) (format : FormatRef) (before : List Revision)
    (shared : PassageId → String → Prop) : List Story → PassageId → String → Prop
  | [] => shared
  | s :: history => SharedFrom hooks format s.passages (shareSync hooks format before shared s) history

def Shared (hooks : VariableHooks) (format : FormatRef) (history : List Story) :
    PassageId → String → Prop :=
  SharedFrom hooks format [] (fun _ _ => False) history

/-! ### Following a story -/

/-- A tracker knows the revision `known p` of each passage, and its passages share what `shared` says. -/
structure Follows (hooks : VariableHooks) (format : FormatRef) (t : Tracker)
    (known : PassageId → Option Revision)
    (shared : PassageId → String → Prop) : Prop where
  hooks_eq : t.hooks = hooks
  format_eq : t.format = format
  scanned : ∀ p, t.scanned.lookup p = known p
  keyed : ∀ e ∈ t.scanned, e.1 = e.2.passage.id
  sound : Sound t.index fun p => (known p).map fun r => definitionsOf hooks format r.passage
  shares : ∀ p x, t.index.Shares p x ↔ shared p x

namespace Follows

variable {hooks : VariableHooks} {format : FormatRef} {t : Tracker} {known : PassageId → Option Revision}
  {shared : PassageId → String → Prop} {r : Revision}

private theorem empty (hooks : VariableHooks) (format : FormatRef) :
    Follows hooks format (.empty hooks format) (fun _ => none) fun _ _ => False where
  hooks_eq := rfl
  format_eq := rfl
  scanned := by simp [Tracker.empty]
  keyed := by simp [Tracker.empty]
  sound := Sound.empty
  shares := by simp [Tracker.empty, Shares, VariableIndex.empty, own, locals?]

theorem known_of_shared (h : Follows hooks format t known shared) {p : PassageId} {x : String}
    (hs : shared p x) :
    (known p).isSome := by
  obtain ⟨i, hi, -⟩ := (h.shares p x).2 hs
  obtain ⟨d, hd, -⟩ := (h.sound.found p _).1 ⟨i, hi, rfl⟩
  cases hk : known p with
  | none => simp [hk] at hd
  | some r => rfl

private theorem hasSeen_iff (h : Follows hooks format t known shared) :
    t.hasSeen r ↔ ∃ q, known r.passage.id = some q ∧ q.stamp = r.stamp := by
  unfold hasSeen
  rw [h.scanned]
  cases known r.passage.id <;> simp

private theorem scan_of_new (h : Follows hooks format t known shared) (report : SyncReport)
    (hn : ¬ t.hasSeen r) :
    (scan (t, report) r).1 =
      { t with
        index := (scanOf hooks format r).apply t.index
        scanned := (r.passage.id, r) :: t.scanned.filter (·.1 ≠ r.passage.id) } := by
  simp only [scan_def, rescan, if_neg hn, h.hooks_eq, h.format_eq, scanOf, Op.apply,
    tokensOf, FormatRef.callOr_def]
  cases format.call .parseDefinitions (hooks.parse r.passage.text) <;> rfl

/-- What is found in the passages, when another revision of one is known. -/
private theorem found_update (hooks : VariableHooks) (format : FormatRef)
    (known : PassageId → Option Revision) (p : PassageId) (r : Option Revision) :
    (fun q => (Function.update known p r q).map fun r => definitionsOf hooks format r.passage) =
      Function.update (fun q => (known q).map fun r => definitionsOf hooks format r.passage) p
        (r.map fun r => definitionsOf hooks format r.passage) :=
  Function.comp_update (Option.map fun r : Revision => definitionsOf hooks format r.passage) known p r

/-- A revision that is not known is scanned. -/
private theorem scan_new (h : Follows hooks format t known shared) (report : SyncReport)
    (hn : ¬ t.hasSeen r) :
    Follows hooks format (scan (t, report) r).1 (Function.update known r.passage.id (some r))
      ((scanOf hooks format r).share shared) := by
  rw [h.scan_of_new report hn]
  have hshared : shared = t.index.Shares := by
    funext p x
    exact (propext (h.shares p x)).symm
  refine ⟨h.hooks_eq, h.format_eq, fun p => ?_, ?_, ?_, fun p x => ?_⟩
  · show ((r.passage.id, r) :: t.scanned.filter (·.1 ≠ r.passage.id)).lookup p = _
    rw [lookup_put, h.scanned, Function.update_apply]
  · intro e he
    rcases List.mem_cons.1 he with rfl | he
    · rfl
    · exact h.keyed e (List.mem_of_mem_filter he)
  · rw [found_update]
    exact h.sound.reset r.passage.id r.passage.name (tokensOf hooks format r.passage)
  · rw [hshared]
    refine (h.sound.shares_reset _ _ _ p x).trans ?_
    simp only [scanOf, Op.share, Function.update_apply]
    split <;> rfl

/-- A scan of a passage makes its revision the one that is known.  The passage has not been scanned since
the story `before`, and a stamp stands for one revision. -/
theorem scan (h : Follows hooks format t known shared) (report : SyncReport) {before : List Revision}
    (hb : known r.passage.id = before.find? (·.passage.id = r.passage.id))
    (hstamp : ∀ q ∈ before, q.stamp = r.stamp → q = r) (hids : (before.map (·.passage.id)).Nodup) :
    Follows hooks format (Tracker.scan (t, report) r).1 (Function.update known r.passage.id (some r))
      (shareScan hooks format before shared r) := by
  have hseen : t.hasSeen r ↔ before.any fun q => q.passage.id = r.passage.id && q.stamp = r.stamp := by
    rw [h.hasSeen_iff, hb, List.any_eq_true]
    constructor
    · rintro ⟨q, hq, hs⟩
      have hid := List.find?_some hq
      exact ⟨q, List.mem_of_find?_eq_some hq, by simpa [hs] using hid⟩
    · rintro ⟨q, hq, hqr⟩
      simp only [Bool.and_eq_true, decide_eq_true_eq] at hqr
      obtain ⟨hid, hs⟩ := hqr
      exact ⟨q, hid ▸ find?_of_mem hids hq, hs⟩
  unfold shareScan
  by_cases hs : t.hasSeen r
  · -- the revision with this stamp is this one, so all of it is known
    rw [if_pos (hseen.1 hs)]
    obtain ⟨q, hq, hqs⟩ := h.hasSeen_iff.1 hs
    rw [hb] at hq
    obtain rfl := hstamp q (List.mem_of_find?_eq_some hq) hqs
    have hsame : Function.update known q.passage.id (some q) = known := by
      rw [← hq, ← hb, Function.update_eq_self]
    have hscan : (Tracker.scan (t, report) q).1 = t := by simp [Tracker.scan_def, hs]
    rwa [hsame, hscan]
  · rw [if_neg fun hb => hs (hseen.2 hb)]
    exact h.scan_new report hs

private theorem congr (h : Follows hooks format t known shared) {known' : PassageId → Option Revision}
    {shared' : PassageId → String → Prop} (hk : ∀ p, known p = known' p)
    (hs : ∀ p x, shared p x ↔ shared' p x) :
    Follows hooks format t known' shared' := by
  obtain rfl : known = known' := funext hk
  exact ⟨h.hooks_eq, h.format_eq, h.scanned, h.keyed, h.sound, fun p x => (h.shares p x).trans (hs p x)⟩

/-- After all passages of a story are scanned, their revisions are the ones that are known. -/
private theorem scans {before : List Revision} (hids : (before.map (·.passage.id)).Nodup)
    {rs : List Revision} (hnew : (rs.map (·.passage.id)).Nodup)
    (hstamp : ∀ q ∈ before, ∀ r ∈ rs, q.stamp = r.stamp → q = r) (report : SyncReport)
    (h : Follows hooks format t known shared)
    (hb : ∀ r ∈ rs, known r.passage.id = before.find? (·.passage.id = r.passage.id)) :
    Follows hooks format (rs.foldl Tracker.scan (t, report)).1
      (fun p => (rs.find? (·.passage.id = p)).or (known p))
        (rs.foldl (shareScan hooks format before) shared) := by
  induction rs generalizing t known shared report with
  | nil => exact h
  | cons r rs ih =>
    rw [List.map_cons, List.nodup_cons] at hnew
    have hne : ∀ q ∈ rs, q.passage.id ≠ r.passage.id := fun q hq he => hnew.1 (List.mem_map.2 ⟨q, hq, he⟩)
    have hr := h.scan report (hb r (by simp)) (fun q hq => hstamp q hq r (by simp)) hids
    have :=
      ih hnew.2 (fun q hq r' hr' => hstamp q hq r' (by simp [hr'])) (Tracker.scan (t, report) r).2 hr
      fun q hq => by rw [Function.update_of_ne (hne q hq), hb q (by simp [hq])]
    refine this.congr (fun p => ?_) fun _ _ => Iff.rfl
    rw [List.find?_cons]
    by_cases hp : r.passage.id = p
    · subst hp
      have hnone : rs.find? (·.passage.id = r.passage.id) = none := by simpa using hne
      simp [hnone]
    · simp [hp, Function.update_of_ne (Ne.symm hp)]

private theorem forget (h : Follows hooks format t known shared) (r : Revision) :
    Follows hooks format (t.forget r) (Function.update known r.passage.id none)
      fun p x => p ≠ r.passage.id ∧ shared p x where
  hooks_eq := h.hooks_eq
  format_eq := h.format_eq
  scanned p := by
    show (t.scanned.filter (·.1 ≠ r.passage.id)).lookup p = _
    rw [lookup_filter_ne, h.scanned, Function.update_apply]
  keyed e he := h.keyed e (List.mem_of_mem_filter he)
  sound := by
    rw [found_update]
    exact h.sound.remove r.passage.id r.passage.name
  shares p x := by
    rw [← h.shares]
    exact h.sound.shares_remove r.passage.id r.passage.name p x

private theorem forgets (gone : List Revision) (h : Follows hooks format t known shared) :
    Follows hooks format (gone.foldl Tracker.forget t)
      (fun p => if p ∈ gone.map (·.passage.id) then none else known p)
      fun p x => p ∉ gone.map (·.passage.id) ∧ shared p x := by
  induction gone generalizing t known shared with
  | nil => exact h.congr (by simp) (by simp)
  | cons r gone ih =>
    refine (ih (h.forget r)).congr (fun p => ?_) fun p x => ?_
    · by_cases hp : p = r.passage.id <;> simp [hp]
    · simp only [List.map_cons, List.mem_cons, not_or]
      tauto

private theorem mem_departed (h : Follows hooks format t known shared) (s : Story) (p : PassageId) :
    p ∈ (t.departed s).map (·.passage.id) ↔ (known p).isSome ∧ ¬ ∃ r ∈ s.passages, r.passage.id = p := by
  unfold departed
  rw [← h.scanned, List.map_map, List.lookup_isSome_iff]
  simp only [List.mem_map, List.mem_filter, Function.comp_apply, Bool.not_eq_true', List.any_eq_false,
    decide_eq_true_eq, beq_iff_eq]
  constructor
  · rintro ⟨e, ⟨he, hn⟩, rfl⟩
    rw [← h.keyed e he]
    exact ⟨⟨e, he, rfl⟩, fun ⟨r, hr, hp⟩ => hn r hr hp⟩
  · rintro ⟨⟨e, he, rfl⟩, hn⟩
    exact ⟨e, ⟨he, fun r hr hp => hn ⟨r, hr, hp⟩⟩, (h.keyed e he).symm⟩

/-- A sync with a story makes its revisions the ones that are known. -/
private theorem sync {before : List Revision}
    (h : Follows hooks format t (fun p => before.find? (·.passage.id = p)) shared)
    (hids : (before.map (·.passage.id)).Nodup) (s : Story) (hnew : (s.passages.map (·.passage.id)).Nodup)
    (hstamp : ∀ q ∈ before, ∀ r ∈ s.passages, q.stamp = r.stamp → q = r) :
    Follows hooks format (t.sync s).2 (fun p => s.passages.find? (·.passage.id = p))
      (shareSync hooks format before shared s) := by
  have hscans := h.scans hids hnew hstamp ⟨0, 0, 0⟩ fun _ _ => rfl
  rcases hs : s.passages.foldl Tracker.scan (t, ⟨0, 0, 0⟩) with ⟨u, report⟩
  rw [hs] at hscans
  have hsync : (t.sync s).2 = (u.departed s).foldl Tracker.forget u := by simp only [Tracker.sync_def, hs]
  have hgone := hscans.mem_departed s
  rw [hsync]
  -- the passages that the story does not have are known from `before` alone, and these depart
  refine (hscans.forgets (u.departed s)).congr (fun p => ?_) fun p x => ?_
  · by_cases hp : ∃ r ∈ s.passages, r.passage.id = p
    · have hsome : (s.passages.find? (·.passage.id = p)).isSome := by simpa using hp
      obtain ⟨r, hr⟩ := Option.isSome_iff_exists.1 hsome
      rw [if_neg fun hg => ((hgone p).1 hg).2 hp, hr, Option.some_or]
    · have hnone : s.passages.find? (·.passage.id = p) = none := by simpa using hp
      simp only [hnone, Option.none_or, hgone] at hgone ⊢
      cases hb : before.find? (·.passage.id = p) with
      | none => simp
      | some q => simp [hp]
  · unfold shareSync
    rw [hgone]
    constructor
    · rintro ⟨hn, hx⟩
      refine ⟨?_, hx⟩
      by_contra hp
      exact hn ⟨hscans.known_of_shared hx, hp⟩
    · rintro ⟨hp, hx⟩
      exact ⟨fun hn => hn.2 hp, hx⟩

/-- After all syncs the revisions of the last story are known. -/
private theorem syncs {before : List Revision}
    (h : Follows hooks format t (fun p => before.find? (·.passage.id = p)) shared)
    (hbefore : (before.map (·.passage.id)).Nodup) {history : List Story}
    (hids : ∀ s ∈ history, (s.passages.map (·.passage.id)).Nodup)
    (hstamps : Stamped (before ++ history.flatMap (·.passages))) :
    Follows hooks format (history.foldl (fun t s => (t.sync s).2) t)
      (fun p => ((history.getLast?.map (·.passages)).getD before).find? (·.passage.id = p))
      (SharedFrom hooks format before shared history) := by
  induction history generalizing t before shared with
  | nil => exact h
  | cons s history ih =>
    rw [List.flatMap_cons] at hstamps
    have hs := h.sync hbefore s (hids s (by simp)) fun q hq r hr =>
      hstamps q (by simp [hq]) r (by simp [hr])
    have := ih hs (hids s (by simp)) (fun s' hs' => hids s' (by simp [hs']))
      fun q hq r hr => hstamps q (List.mem_append_right _ hq) r (List.mem_append_right _ hr)
    refine this.congr (fun p => ?_) fun _ _ => Iff.rfl
    rw [List.getLast?_cons]
    cases history.getLast? <;> rfl

end Follows

theorem follows_after (hooks : VariableHooks) (format : FormatRef) {history : List Story} {s : Story}
    (hids : ∀ s' ∈ history ++ [s], (s'.passages.map (·.passage.id)).Nodup)
    (hstamps : Stamped ((history ++ [s]).flatMap (·.passages))) :
    Follows hooks format (after hooks format (history ++ [s]))
    (fun p => s.passages.find? (·.passage.id = p))
      (Shared hooks format (history ++ [s])) := by
  have hempty : Follows hooks format (.empty hooks format) (fun p =>
    ([] : List Revision).find? (·.passage.id = p))
      fun _ _ => False := Follows.empty hooks format
  have := hempty.syncs (by simp) hids hstamps
  rw [List.getLast?_concat] at this
  exact this

end PassageEditor.Tracker
