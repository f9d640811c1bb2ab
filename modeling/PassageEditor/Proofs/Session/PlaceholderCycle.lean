import PassageEditor.Proofs.Session.InStep

/-!
# Going from placeholder to placeholder

With a placeholder of a text selected, the cursor is at its end, and so the tabulator goes to the next one
and with shift to the one before; behind the last comes the first (`Way.next_stop`).  Each key that is
pressed is one step around (`Poised.step`), and so any number of keys lead to where their steps lead
(`Poised.leads`).
-/

namespace PassageEditor

open Markup

/-- Where the tabulator goes. -/
inductive Way
  | forward
  | back

namespace Way

def key : Way → String
  | forward => "Tab"
  | back => "Shift-Tab"

def next : Way → List Range → Position → Option Range
  | forward => nextRange?
  | back => previousRange?

def step : Way → Int
  | forward => 1
  | back => -1

/-- All the steps together. -/
def steps : List Way → Int
  | [] => 0
  | way :: ways => way.step + steps ways

private theorem steps_replicate (way : Way) (k : Nat) : steps (List.replicate k way) = k * way.step := by
  induction k with
  | zero => exact (Int.zero_mul _).symm
  | succ k ih => rw [List.replicate_succ, steps, ih, Int.natCast_succ, Int.add_mul,
    Int.one_mul, Int.add_comm]

/-- A place among `n` in a round. -/
def place (n : Nat) (j : Int) : Nat := (j % n).toNat

private theorem place_natCast (n i : Nat) : place n i = i % n := by
  rw [place, ← Int.natCast_emod, Int.toNat_natCast]

private theorem place_of_lt {n i : Nat} (h : i < n) : place n i = i := by
  rw [place_natCast, Nat.mod_eq_of_lt h]

private theorem place_lt {n : Nat} (hn : n ≠ 0) (j : Int) : place n j < n := by
  have hlt := Int.emod_lt_of_pos j (Int.natCast_pos.2 (Nat.pos_of_ne_zero hn))
  unfold place
  omega

/-- The steps from a place in the round are the steps from anywhere that comes to the same place. -/
private theorem place_place_add {n : Nat} (hn : n ≠ 0) (i j : Int) :
    place n (place n i + j) = place n (i + j) := by
  have hpos : (n : Int) ≠ 0 := Int.natCast_ne_zero.2 hn
  have hplace : (place n i : Int) = i % n := Int.toNat_of_nonneg (Int.emod_nonneg i hpos)
  unfold place at hplace ⊢
  rw [hplace, Int.emod_add_emod]

section Round

variable {ranges : List Range} {i : Nat} {r : Range}

/-- There is always a range to go to. -/
private theorem exists_next (way : Way) (hne : ranges ≠ []) (cursor : Position) :
    ∃ r ∈ ranges, way.next ranges cursor = some r := by
  cases way with
  | forward =>
    dsimp only [next, nextRange?]
    rcases hfind : ranges.find? fun r => decide (cursor ≤ r.start) with _ | r
    · exact ⟨ranges.head hne, List.head_mem hne, by
          rw [hfind, Option.none_or, List.head?_eq_some_head hne]⟩
    · exact ⟨r, List.mem_of_find?_eq_some hfind, by rw [hfind, Option.some_or]⟩
  | back =>
    dsimp only [next, previousRange?]
    rcases hfind : ranges.reverse.find? fun r => decide (r.stop < cursor) with _ | r
    · exact ⟨ranges.getLast hne, List.getLast_mem hne, by
          rw [hfind, Option.none_or, List.getLast?_eq_some_getLast hne]⟩
    · exact ⟨r, List.mem_reverse.1 (List.mem_of_find?_eq_some hfind), by rw [hfind, Option.some_or]⟩

variable (hordered : ranges.Pairwise fun r q => r.stop ≤ q.start) (hheld : ∀ r ∈ ranges, r.start < r.stop)

include hordered hheld

/-- Of ranges in order, one that is not later ends no later. -/
private theorem stop_le_stop {j k : Nat} {p q : Range} (hp : ranges[j]? = some p)
    (hq : ranges[k]? = some q) (hle : j ≤ k) : p.stop ≤ q.stop := by
  obtain ⟨hj, rfl⟩ := List.getElem?_eq_some_iff.1 hp
  obtain ⟨hk, rfl⟩ := List.getElem?_eq_some_iff.1 hq
  rcases Nat.eq_or_lt_of_le hle with rfl | hlt
  · exact Position.le_refl _
  · have hbefore := List.pairwise_iff_getElem.1 hordered j k hj hk hlt
    exact Position.le_trans hbefore (Position.le_of_lt (hheld _ (List.getElem_mem hk)))

/-- From the end of a range the next one is the one behind it, since ranges that touch do not overlap. -/
private theorem nextRange?_stop (hr : ranges[i]? = some r) :
    nextRange? ranges r.stop = ranges[(i + 1) % ranges.length]? := by
  obtain ⟨hi, hri⟩ := List.getElem?_eq_some_iff.1 hr
  -- what is not behind the range starts before its end
  have hskip : ∀ j (hj : j < ranges.length), j < i + 1 → ¬ r.stop ≤ ranges[j].start := by
    intro j hj hji
    have hstop := stop_le_stop hordered hheld (List.getElem?_eq_getElem hj) hr (Nat.le_of_lt_succ hji)
    exact Position.not_le.2 (Position.lt_of_lt_of_le (hheld _ (List.getElem_mem hj)) hstop)
  unfold nextRange?
  rcases Nat.lt_or_ge (i + 1) ranges.length with hlt | hge
  · have hnext : r.stop ≤ ranges[i + 1].start := by
      subst hri
      exact List.pairwise_iff_getElem.1 hordered i (i + 1) hi hlt (Nat.lt_succ_self i)
    have hfind : (ranges.find? fun q => decide (r.stop ≤ q.start)) = some ranges[i + 1] := by
      rw [List.find?_eq_some_iff_getElem]
      refine ⟨decide_eq_true hnext, i + 1, hlt, rfl, fun j hj => ?_⟩
      simp [hskip j (Nat.lt_trans hj hlt) hj]
    rw [hfind, Nat.mod_eq_of_lt hlt, List.getElem?_eq_getElem hlt]
    rfl
  · have hlast : i + 1 = ranges.length := by omega
    have hfind : (ranges.find? fun q => decide (r.stop ≤ q.start)) = none := by
      rw [List.find?_eq_none]
      intro q hq
      obtain ⟨j, hj, rfl⟩ := List.getElem_of_mem hq
      simp [hskip j hj (by omega)]
    rw [hfind, hlast, Nat.mod_self, Option.none_or, List.head?_eq_getElem?]

/-- From the end of a range the one before it is the last that ends earlier. -/
private theorem previousRange?_stop (hr : ranges[i]? = some r) :
    previousRange? ranges r.stop = ranges[(i + (ranges.length - 1)) % ranges.length]? := by
  obtain ⟨hi, hri⟩ := List.getElem?_eq_some_iff.1 hr
  -- what is not before the range ends no earlier
  have hskip : ∀ j (hj : j < ranges.length), i ≤ j → ¬ ranges[j].stop < r.stop := by
    intro j hj hij
    exact Position.not_lt.2 (stop_le_stop hordered hheld hr (List.getElem?_eq_getElem hj) hij)
  unfold previousRange?
  rcases i with _ | i
  · have hfind : (ranges.reverse.find? fun q => decide (q.stop < r.stop)) = none := by
      rw [List.find?_eq_none]
      intro q hq
      obtain ⟨j, hj, rfl⟩ := List.getElem_of_mem (List.mem_reverse.1 hq)
      simp [hskip j hj (Nat.zero_le j)]
    rw [hfind, Option.none_or, List.getLast?_eq_getElem?, Nat.zero_add, Nat.mod_eq_of_lt (by omega)]
  · have hlt : i < ranges.length := Nat.lt_of_succ_lt hi
    have hbefore : ranges[i].stop < r.stop := by
      subst hri
      have hle := List.pairwise_iff_getElem.1 hordered i (i + 1) hlt hi (Nat.lt_succ_self i)
      exact Position.lt_of_le_of_lt hle (hheld _ (List.getElem_mem hi))
    have hfind : (ranges.reverse.find? fun q => decide (q.stop < r.stop)) = some ranges[i] := by
      rw [List.find?_eq_some_iff_getElem]
      refine ⟨decide_eq_true hbefore, ranges.length - 1 - i, by simp; omega, ?_, fun j hj => ?_⟩
      · rw [List.getElem_reverse]
        congr 1
        omega
      · rw [List.getElem_reverse]
        simp [hskip (ranges.length - 1 - j) (by omega) (by omega)]
    have hplace : (i + 1 + (ranges.length - 1)) % ranges.length = i := by
      rw [show i + 1 + (ranges.length - 1) = i + ranges.length by
          omega, Nat.add_mod_right, Nat.mod_eq_of_lt hlt]
    rw [hfind, hplace, List.getElem?_eq_getElem hlt]
    rfl

/-- From the end of a range each way leads one step around. -/
theorem next_stop (way : Way) (hr : ranges[i]? = some r) :
    way.next ranges r.stop = ranges[place ranges.length (i + way.step)]? := by
  obtain ⟨hi, -⟩ := List.getElem?_eq_some_iff.1 hr
  cases way with
  | forward =>
    rw [show place ranges.length (i + forward.step) =
      (i + 1) % ranges.length from place_natCast _ (i + 1)]
    exact nextRange?_stop hordered hheld hr
  | back =>
    have hround : ((i + (ranges.length - 1) : Nat) : Int) = (i + back.step) + ranges.length := by
      show _ = ((i : Int) + -1) + _
      omega
    have hplace : place ranges.length (i + back.step) = (i + (ranges.length - 1)) % ranges.length := by
      rw [← place_natCast, hround]
      unfold place
      rw [Int.add_emod_right]
    rw [hplace]
    exact previousRange?_stop hordered hheld hr

end Round

end Way

namespace Session

variable {s : Session} {b : Buffer} {i : Nat}

/-- The placeholder of that number is selected, and but for the selection the buffer is `b`. -/
def Selected (s : Session) (b : Buffer) (i : Nat) : Prop :=
  ∃ p, (scanPlaceholders b.lines)[i]? = some p ∧
    s.buffer = some (b.selectOnly ⟨p.range.start, p.range.stop⟩)

/-- The keys are all used, and then the placeholder of that number is selected. -/
def Leads (s : Session) (b : Buffer) (keys : List String) (i : Nat) : Prop :=
  (∀ r ∈ (s.each handleKey keys).1, r = .ok true) ∧ (s.each handleKey keys).2.Selected b i

/-- A session that edits a buffer, whatever is selected there, and is in step with it. -/
structure Poised (s : Session) (b : Buffer) : Prop where
  live : s.health ≠ .crashed
  attuned : Attuned s.hub s.marks
  shown : ∃ selections, ∃ h : selections ≠ [], s.buffer =
    some { b with selections := selections, selected := h }
  inStep : s.InStep b

private theorem Selected.lt (h : s.Selected b i) : i < (scanPlaceholders b.lines).length := by
  obtain ⟨p, hp, -⟩ := h
  exact (List.getElem?_eq_some_iff.1 hp).1

private theorem handleKey_key (s : Session) (way : Way) : s.handleKey way.key = s.cycle way.next := by
  cases way <;> rfl

/-- A key that leads to a placeholder of the text selects it. -/
private theorem Poised.cycle (h : s.Poised b) {next : List Range → Position → Option Range} {c : Buffer}
    (hc : s.buffer = some c) {p : Placeholder} (hp : (scanPlaceholders b.lines)[i]? = some p)
    (hnext : next ((scanPlaceholders b.lines).map (·.range)) c.cursor = some p.range) :
    (s.cycle next).1 = .ok true ∧ (s.cycle next).2.Poised b ∧ (s.cycle next).2.Selected b i := by
  obtain ⟨selections, hsome, hshown⟩ := h.shown
  have hcb : c = { b with selections := selections, selected := hsome } :=
    Option.some.inj (hc.symm.trans hshown)
  have hlines : c.lines = b.lines := (congrArg Buffer.lines hcb :)
  have hinStep : s.InStep c := by
    rw [hcb]
    exact ⟨h.inStep.ranges, h.inStep.clicks⟩
  have hmem : p ∈ scanPlaceholders b.lines := List.mem_of_getElem? hp
  -- the range is one of a live placeholder
  have hlive : p.range ∈ (s.marks.livePlaceholders c).map (·.1) := by
    rw [hinStep.ranges, hlines]
    exact List.mem_map_of_mem hmem
  obtain ⟨x, hx, hrange⟩ := List.mem_map.1 hlive
  obtain ⟨y, hy⟩ : ∃ y, (s.marks.livePlaceholders c).find? (fun x => decide (x.1 = p.range)) = some y :=
    Option.isSome_iff_exists.1 (List.find?_isSome.2 ⟨x, hx, decide_eq_true hrange⟩)
  have hyrange : y.1 = p.range := by simpa using List.find?_some hy
  have hcycle : s.cycle next = (.ok true, s.select [⟨p.range.start, p.range.stop⟩]) := by
    rw [Session.cycle, whileLive_def, withBuffer_def, if_neg h.live, hc]
    dsimp only
    rw [hinStep.ranges, hlines, hnext]
    dsimp only
    rw [hy, ← hyrange, ← activatePlaceholder_of_live hinStep h.attuned (List.mem_of_find?_eq_some hy)]
  have hset : c.setSelections [⟨p.range.start, p.range.stop⟩] =
      b.selectOnly ⟨p.range.start, p.range.stop⟩ := by
    rw [hcb]
    exact setSelections_of_holds (holds_of_mem_scanPlaceholders hmem)
  have hselected : (s.select [⟨p.range.start, p.range.stop⟩]).buffer =
      some (b.selectOnly ⟨p.range.start, p.range.stop⟩) := by
    show s.buffer.map _ = _
    rw [hc, Option.map_some, hset]
  have hstill := hinStep.select h.attuned [⟨p.range.start, p.range.stop⟩]
  rw [hset] at hstill
  rw [hcycle]
  exact ⟨rfl, ⟨h.live, h.attuned.dispatch _, ⟨_, _, hselected⟩, ⟨hstill.ranges, hstill.clicks⟩⟩,
    p, hp, hselected⟩

/-- Wherever the cursor is, both keys select a placeholder. -/
private theorem Poised.exists_selected (h : s.Poised b) (hne : scanPlaceholders b.lines ≠ [])
    (way : Way) :
    ∃ i, (s.handleKey way.key).1 = .ok true ∧ (s.handleKey way.key).2.Poised b ∧
      (s.handleKey way.key).2.Selected b i := by
  obtain ⟨selections, hsome, hshown⟩ := h.shown
  have hne' : (scanPlaceholders b.lines).map (·.range) ≠ [] := mt List.map_eq_nil_iff.1 hne
  obtain ⟨r, hr, hnext⟩ :=
    way.exists_next hne' ({ b with selections := selections, selected := hsome } : Buffer).cursor
  obtain ⟨p, hp, rfl⟩ := List.mem_map.1 hr
  obtain ⟨i, hi⟩ := List.mem_iff_getElem?.1 hp
  rw [handleKey_key]
  exact ⟨i, h.cycle hshown hi hnext⟩

/-- One key: the step from a placeholder that is selected. -/
theorem Poised.step (h : s.Poised b) (hselected : s.Selected b i) (way : Way) :
    (s.handleKey way.key).1 = .ok true ∧ (s.handleKey way.key).2.Poised b ∧
      (s.handleKey way.key).2.Selected b
        (Way.place (scanPlaceholders b.lines).length (i + way.step)) := by
  obtain ⟨p, hp, hbuffer⟩ := hselected
  have hne : (scanPlaceholders b.lines).length ≠ 0 := Nat.ne_zero_of_lt (Selected.lt ⟨p, hp, hbuffer⟩)
  have hordered : ((scanPlaceholders b.lines).map (·.range)).Pairwise fun r q => r.stop ≤ q.start :=
    List.pairwise_map.2 (pairwise_scanPlaceholders b.lines)
  have hheld : ∀ r ∈ (scanPlaceholders b.lines).map (·.range), r.start < r.stop := by
    intro r hr
    obtain ⟨q, hq, rfl⟩ := List.mem_map.1 hr
    exact (holds_of_mem_scanPlaceholders hq).2.2
  have hrange : ((scanPlaceholders b.lines).map (·.range))[i]? = some p.range := by
    rw [List.getElem?_map, hp, Option.map_some]
  have hnext := Way.next_stop hordered hheld way hrange
  rw [List.length_map, List.getElem?_map] at hnext
  have hplace := Way.place_lt hne (i + way.step)
  rw [List.getElem?_eq_getElem hplace, Option.map_some] at hnext
  rw [handleKey_key]
  exact h.cycle hbuffer (List.getElem?_eq_getElem hplace) hnext

/-- Any keys: the steps from a placeholder that is selected, all together. -/
theorem Poised.leads (h : s.Poised b) (hselected : s.Selected b i) (ways : List Way) :
    s.Leads b (ways.map Way.key) (Way.place (scanPlaceholders b.lines).length (i + Way.steps ways)) := by
  induction ways generalizing s i with
  | nil =>
    refine ⟨by simp [each], ?_⟩
    rw [List.map_nil, Way.steps, Int.add_zero, Way.place_of_lt hselected.lt]
    exact hselected
  | cons way ways ih =>
    have hne : (scanPlaceholders b.lines).length ≠ 0 := Nat.ne_zero_of_lt hselected.lt
    obtain ⟨hused, hpoised, hstep⟩ := h.step hselected way
    obtain ⟨hall, hlast⟩ := ih hpoised hstep
    refine ⟨fun r hr => ?_, ?_⟩
    · rcases List.mem_cons.1 hr with rfl | hr
      · exact hused
      · exact hall r hr
    · rw [Way.place_place_add hne, Int.add_assoc] at hlast
      exact hlast

/-- From wherever the cursor is, the tabulator selects a placeholder, with shift or without.  From there
on, going on is going around: the keys pressed are counted modulo the number of placeholders. -/
theorem leads_of_key {store : Store} {formats : Registry} {story : StoryId} {passage : PassageId}
    {config : Config} (hopen : open? store formats story passage config = .ok s) (turns : List Desk.Turn)
    {b : Buffer} :
    let t := (turns.foldl Desk.turn ⟨store, s⟩).session
    let n := (scanPlaceholders b.lines).length
    t.health ≠ .crashed → t.buffer = some b → t.InStep b → n ≠ 0 →
      ∀ key ∈ ["Tab", "Shift-Tab"], ∃ i < n, t.Leads b [key] i ∧
        let u := (t.handleKey key).2
        (∀ k, u.Leads b (List.replicate k "Tab") ((i + k) % n)) ∧
        (∀ k : Nat, u.Leads b (List.replicate k "Shift-Tab") (((i : Int) - k) % n).toNat) ∧
        u.Leads b ["Tab", "Shift-Tab"] i := by
  intro t n hlive hbuffer hstep hne key hkey
  have hpoised : t.Poised b := ⟨hlive, Desk.attuned_run hopen turns,
    ⟨b.selections, b.selected, hbuffer⟩, hstep⟩
  obtain ⟨way, rfl⟩ : ∃ way : Way, key = way.key := by
    simp only [List.mem_cons, List.not_mem_nil, or_false] at hkey
    rcases hkey with rfl | rfl
    · exact ⟨.forward, rfl⟩
    · exact ⟨.back, rfl⟩
  obtain ⟨i, hused, hpoised', hselected⟩ :=
    hpoised.exists_selected (List.length_pos_iff.1 (Nat.pos_of_ne_zero hne)) way
  refine ⟨i, hselected.lt, ⟨by simpa [each] using hused, hselected⟩, fun k => ?_, fun k => ?_, ?_⟩
  · have hleads := hpoised'.leads hselected (List.replicate k .forward)
    rw [List.map_replicate, Way.steps_replicate,
      show (k : Int) * Way.forward.step = k from Int.mul_one k] at hleads
    rw [← Way.place_natCast n (i + k), Int.natCast_add]
    exact hleads
  · have hleads := hpoised'.leads hselected (List.replicate k .back)
    rw [List.map_replicate, Way.steps_replicate,
      show (k : Int) * Way.back.step = -k by simp [Way.step]] at hleads
    exact hleads
  · have hleads := hpoised'.leads hselected [.forward, .back]
    rw [show (i : Int) + Way.steps [.forward, .back] = i from Int.add_zero i,
      Way.place_of_lt hselected.lt] at hleads
    exact hleads

/-- A passage with two placeholders that touch, and a third on the next line. -/
def threeAround : Store :=
  ⟨[⟨⟨1⟩, "Story", default, [⟨0, .fresh ⟨1⟩ "Start" "$\x7b1:a\x7d$\x7b2:b\x7d\n$\x7b3:c\x7d" []⟩]⟩], 0, 1⟩

/-- A session on that passage, with the text shown. -/
theorem leads_of_key_threeAround :
    ∃ s, open? threeAround .empty ⟨1⟩ ⟨1⟩ .default = .ok s ∧
      let t := ([.op (.request (.attach (.ofText "")))].foldl Desk.turn ⟨threeAround, s⟩).session
      ∃ b, t.health ≠ .crashed ∧ t.buffer = some b ∧ t.InStep b ∧
        (scanPlaceholders b.lines).map (·.range) = [.onLine 0 0 6, .onLine 0 6 6, .onLine 1 0 6] ∧
        ∃ i < 3, t.Leads b ["Tab"] i ∧ ∀ k,
          (t.handleKey "Tab").2.Leads b (List.replicate k "Tab") ((i + k) % 3) := by
  have hvalues : ((open? threeAround .empty ⟨1⟩ ⟨1⟩ .default).toOption.bind fun s =>
      let t := ([.op (.request (.attach (.ofText "")))].foldl Desk.turn ⟨threeAround, s⟩).session
      t.buffer.map fun b => decide (t.health ≠ .crashed ∧
        (scanPlaceholders b.lines).map (·.range) = [.onLine 0 0 6, .onLine 0 6 6, .onLine 1 0 6] ∧
        (t.marks.standing b).map (·.1) = (scanPlaceholders b.lines).map (·.range) ∧
        ∀ x ∈ t.marks.standing b, (t.hub.dispatch (.click x.2 .primary ⟨[]⟩)).1 = [.setSelection x.1])) =
      some true := by
    decide +kernel
  rcases h : open? threeAround .empty ⟨1⟩ ⟨1⟩ .default with e | s
  · simp [h, Except.toOption] at hvalues
  rw [h, Except.toOption, Option.bind_some, Option.map_eq_some_iff] at hvalues
  obtain ⟨b, hbuffer, hvalues⟩ := hvalues
  obtain ⟨hlive, hranges, hstanding, hclicks⟩ := of_decide_eq_true hvalues
  have hstep := Reconciler.inStep_of_standing (c := ⟨b, _⟩) hstanding hclicks
  have hcount : (scanPlaceholders b.lines).length = 3 := by
    rw [← List.length_map (f := (·.range)), hranges]
    rfl
  obtain ⟨i, hi, hfirst, hon, -⟩ :=
    leads_of_key h [.op (.request (.attach (.ofText "")))] hlive hbuffer hstep
      (by simp [hcount]) "Tab" (by decide)
  rw [hcount] at hi hon
  exact ⟨s, rfl, b, hlive, hbuffer, hstep, hranges, i, hi, hfirst, hon⟩

end Session

end PassageEditor
