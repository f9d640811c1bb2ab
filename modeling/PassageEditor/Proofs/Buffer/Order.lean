import PassageEditor.Proofs.Buffer.Reset

/-!
# The ends of a mark

An edit moves the two ends of a mark by different rules: a text that is put in at the start moves the
start, and one that is put in at the end leaves the end.  The start of a mark that is not empty stays
before its end all the same (`Change.filled_moved`).  Of an empty mark a text put in exactly there moves
the start alone and so turns it around.  Short of an edit that takes text away right behind an empty mark,
nothing else does (`Buffer.ordered_of_run`); and there an edit with checked arithmetic stops
(`Change.sinks_iff_cuts`).
-/

namespace PassageEditor

theorem Position.eq_or_lt_of_le {p q : Position} (h : p ≤ q) : p = q ∨ p < q := by
  by_cases hlt : p < q
  · exact .inr hlt
  · exact .inl (le_antisymm h (not_lt.1 hlt))

namespace Range

def Ordered (r : Range) : Prop := r.start ≤ r.stop

/-- At least one position is in the range. -/
def Filled (r : Range) : Prop := r.start < r.stop

instance : DecidablePred Ordered := fun r => inferInstanceAs (Decidable (r.start ≤ r.stop))

instance : DecidablePred Filled := fun r => inferInstanceAs (Decidable (r.start < r.stop))

end Range

namespace Change

variable {e : Change} {r : Range}

/-- A text is put in exactly where the range is, which is empty. -/
def Pushes (e : Change) (r : Range) : Prop :=
  r.start = e.start ∧ r.stop = e.start ∧ e.stop = e.start ∧ e.start < e.newStop

/-- The text behind the range, which is empty, is taken away. -/
def Cuts (e : Change) (r : Range) : Prop := r.start = e.start ∧ r.stop = e.start ∧ e.start < e.stop

instance (e : Change) (r : Range) : Decidable (e.Pushes r) := inferInstanceAs (Decidable (_ ∧ _ ∧ _ ∧ _))

instance (e : Change) (r : Range) : Decidable (e.Cuts r) := inferInstanceAs (Decidable (_ ∧ _ ∧ _))

/-- Of the ranges with their ends in order, those that sink are the empty ones where text is taken
away. -/
theorem sinks_iff_cuts (h : r.Ordered) : e.Sinks r ↔ e.Cuts r := by
  obtain ⟨⟨l, c⟩, ⟨l', c'⟩⟩ := r
  obtain ⟨⟨k, d⟩, ⟨k', d'⟩, newStop⟩ := e
  simp only [Sinks, Cuts, Range.Ordered, Position.le_def, Position.lt_def, Position.mk.injEq] at *
  omega

/-! ### One change -/

private theorem shift_lt_shift {p q : Position} (hp : e.stop ≤ p) (h : p < q) :
    e.shift p < e.shift q := by
  have hq := Position.le_trans hp (Position.le_of_lt h)
  rcases Position.eq_or_lt_of_le (shift_le_shift hp (Position.le_of_lt h)) with heq | hlt
  · rw [shift_injective hp hq heq] at h
    exact absurd h (Position.lt_irrefl q)
  · exact hlt

/-- A range that is not damaged and does not end before the change ends behind it. -/
private theorem stop_le_stop_of_not_damages (hr : r.Ordered) (hd : ¬ e.Damages r)
    (hlt : e.start < r.stop) :
    e.stop ≤ r.stop := by
  simp only [Range.Ordered, Damages, Position.le_def, Position.lt_def] at *
  omega

theorem filled_moved (hnew : e.start ≤ e.newStop) (hr : r.Filled) (hd : ¬ e.Damages r) :
    (e.moved r).Filled := by
  unfold Range.Filled moved
  dsimp only
  by_cases hahead : r.stop ≤ e.start
  · rw [if_pos hahead, if_pos (Position.lt_of_lt_of_le hr hahead)]
    exact hr
  · have hstop := stop_le_stop_of_not_damages (Position.le_of_lt hr) hd (Position.not_le.1 hahead)
    rw [if_neg hahead]
    by_cases hfront : r.start < e.start
    · rw [if_pos hfront]
      exact Position.lt_of_lt_of_le hfront (Position.le_trans hnew (newStop_le_shift hstop))
    · rw [if_neg hfront]
      exact shift_lt_shift (stop_le_of_not_damages hr hd hfront) hr

/-- An empty range goes along as a whole, unless the change begins right there. -/
private theorem moved_of_empty (hr : r.start = r.stop) (hne : r.stop ≠ e.start) :
    (e.moved r).start = (e.moved r).stop := by
  unfold moved
  dsimp only
  rw [hr]
  by_cases hahead : r.stop ≤ e.start
  · rcases Position.eq_or_lt_of_le hahead with heq | hlt
    · exact absurd heq hne
    · rw [if_pos hlt, if_pos hahead]
  · rw [if_neg hahead, if_neg fun hlt => hahead (Position.le_of_lt hlt)]

private theorem ordered_moved (hold : e.start ≤ e.stop) (hnew : e.start ≤ e.newStop) (hr : r.Ordered)
    (hd : ¬ e.Damages r) (hcuts : ¬ e.Cuts r) (hpushes : ¬ e.Pushes r) : (e.moved r).Ordered := by
  rcases Position.eq_or_lt_of_le hr with hempty | hlt
  · by_cases hplace : r.stop = e.start
    · -- nothing goes and nothing comes
      have hstart := hempty.trans hplace
      have hstop : e.start = e.stop :=
        (Position.eq_or_lt_of_le hold).resolve_right fun hlt => hcuts ⟨hstart, hplace, hlt⟩
      have hnewStop : e.start = e.newStop :=
        (Position.eq_or_lt_of_le hnew).resolve_right fun hlt => hpushes ⟨hstart, hplace, hstop.symm, hlt⟩
      rw [moved_of_same hstop (hnewStop.symm.trans hstop)]
      exact hr
    · show (e.moved r).start ≤ (e.moved r).stop
      rw [moved_of_empty hempty hplace]
      exact Position.le_refl _
  · exact Position.le_of_lt (filled_moved hnew hlt hd)

/-- The start of a range that is pushed goes behind the new text, and its end stays. -/
private theorem moved_of_pushes (h : e.Pushes r) : e.moved r = ⟨e.newStop, r.stop⟩ := by
  obtain ⟨hstart, hstop, hold, -⟩ := h
  have hle : r.stop ≤ e.start := hstop ▸ Position.le_refl _
  unfold moved
  rw [if_pos hle, hstart, if_neg (Position.lt_irrefl _), ← hold, shift_stop]

private theorem mark?_of_pushes {m : Mark} (h : e.Pushes m.range) :
    e.mark? m = some { m with range := ⟨e.newStop, m.range.stop⟩ } := by
  have hundamaged : ¬ e.Damages m.range := fun hd => Position.lt_irrefl e.start (h.2.2.1 ▸ hd.1)
  rw [mark?, if_neg hundamaged, moved_of_pushes h]

end Change

namespace Buffer

/-! ### Runs -/

/-- What is done to a buffer: a mark is put on, or the text is edited. -/
inductive Act
  | mark (range : Range) (info : MarkInfo)
  | edit (e : Edit)

def act (b : Buffer) : Act → Buffer
  | .mark range info => (b.addMark range info).2
  | .edit e => b.edit e

def run (b : Buffer) (acts : List Act) : Buffer := acts.foldl act b

/-- The change of the text that an act makes. -/
def changeOf? (b : Buffer) : Act → Option Change
  | .mark _ _ => none
  | .edit e => (b.change? e).map Prod.fst

/-- Each act of a run has the property in the buffer that it is done to. -/
def Each (P : Buffer → Act → Prop) (b : Buffer) : List Act → Prop
  | [] => True
  | a :: acts => P b a ∧ (b.act a).Each P acts

instance decidableEach (P : Buffer → Act → Prop) [∀ b a, Decidable (P b a)] (b : Buffer) :
    (acts : List Act) → Decidable (b.Each P acts)
  | [] => inferInstanceAs (Decidable True)
  | a :: acts =>
    have := decidableEach P (b.act a) acts
    inferInstanceAs (Decidable (_ ∧ _))

/-- The marks of the number have ranges with the property. -/
def Places (b : Buffer) (id : MarkId) (P : Range → Prop) : Prop := ∀ m ∈ b.marks, m.id = id → P m.range

/-- If the act puts the mark of the number on, it puts it on a range with the property. -/
def Puts (id : MarkId) (P : Range → Prop) (b : Buffer) : Act → Prop
  | .mark range _ => id = ⟨b.nextMark⟩ → P range
  | .edit _ => True

instance (id : MarkId) (P : Range → Prop) [DecidablePred P] (b : Buffer) :
    (a : Act) → Decidable (b.Puts id P a)
  | .mark range _ => inferInstanceAs (Decidable (id = ⟨b.nextMark⟩ → P range))
  | .edit _ => inferInstanceAs (Decidable True)

/-- The act makes a change that is related to the range of the mark of the number. -/
def Meets (id : MarkId) (C : Change → Range → Prop) (b : Buffer) (a : Act) : Prop :=
  ∃ e ∈ b.changeOf? a, ∃ m ∈ b.marks, m.id = id ∧ C e m.range

instance (id : MarkId) (C : Change → Range → Prop) [∀ e r, Decidable (C e r)] (b : Buffer) (a : Act) :
    Decidable (b.Meets id C a) :=
  inferInstanceAs (Decidable (∃ e, e ∈ b.changeOf? a ∧ _))

variable {b : Buffer} {acts : List Act} {id : MarkId} {P : Range → Prop}

/-- An act that changes the text moves all marks along. -/
private theorem change_act {a : Act} {e : Change} (he : e ∈ b.changeOf? a) :
    e.start ≤ e.stop ∧ e.start ≤ e.newStop ∧ (b.act a).marks = b.marks.filterMap e.mark? := by
  cases a with
  | mark range info => simp [changeOf?] at he
  | edit edit =>
    obtain ⟨⟨e', cs'⟩, he', rfl⟩ := Option.map_eq_some_iff.1 he
    rcases b.edit_cases edit with ⟨hnone, -⟩ |
      ⟨change, before, old, cs, after, hchange, hsplices, hmarks, -⟩
    · rw [hnone] at he'
      simp at he'
    · obtain ⟨rfl, -⟩ := Prod.mk.inj (Option.some.inj (hchange.symm.trans he'))
      refine ⟨?_, hsplices.start_le_newStop, hmarks⟩
      rw [hsplices.start, hsplices.stop, Position.after_append]
      exact Position.le_after _ old

/-- Any other act leaves the marks where they are, or puts one on. -/
private theorem mem_marks_act {a : Act} (ha : b.changeOf? a = none) {n : Mark}
    (hn : n ∈ (b.act a).marks) :
    n ∈ b.marks ∨ n.id = ⟨b.nextMark⟩ ∧ ∃ info, a = .mark n.range info := by
  cases a with
  | mark range info =>
    rcases List.mem_append.1 hn with hold | hput
    · exact .inl hold
    · obtain rfl := List.mem_singleton.1 hput
      exact .inr ⟨rfl, info, rfl⟩
  | edit edit =>
    rcases b.edit_cases edit with ⟨-, hsame⟩ | ⟨change, before, old, cs, after, hchange, -⟩
    · exact .inl (hsame ▸ hn)
    · simp [changeOf?, hchange] at ha

/-- What a change makes of a range with the property has it too, so the act keeps it. -/
private theorem places_act {a : Act} (hb : b.Places id P) (hputs : b.Puts id P a)
    (hmoved : ∀ e ∈ b.changeOf? a, e.start ≤ e.stop → e.start ≤ e.newStop → ∀ m ∈ b.marks, m.id = id →
      ¬ e.Damages m.range → P m.range → P (e.moved m.range)) : (b.act a).Places id P := by
  intro n hn hid
  cases hchange : b.changeOf? a with
  | none =>
    rcases mem_marks_act hchange hn with hold | ⟨hnew, info, rfl⟩
    · exact hb n hold hid
    · exact hputs (hid.symm.trans hnew)
  | some e =>
    obtain ⟨hstop, hnew, hmarks⟩ := change_act hchange
    rw [hmarks] at hn
    obtain ⟨m, hm, hmn⟩ := List.mem_filterMap.1 hn
    obtain ⟨hundamaged, rfl⟩ := Change.mark?_eq_some hmn
    exact hmoved e hchange hstop hnew m hm hid hundamaged (hb m hm hid)

/-! ### The order of the ends -/

private theorem filled_act {a : Act} (hb : b.Places id Range.Filled) (hputs : b.Puts id Range.Filled a) :
    (b.act a).Places id Range.Filled :=
  places_act hb hputs fun _ _ _ hnew _ _ _ hundamaged hfilled =>
    Change.filled_moved hnew hfilled hundamaged

private theorem ordered_act {a : Act} (hb : b.Places id Range.Ordered) (hputs : b.Puts id Range.Ordered a)
    (hcuts : ¬ b.Meets id Change.Cuts a) (hpushes : ¬ b.Meets id Change.Pushes a) :
    (b.act a).Places id Range.Ordered :=
  places_act hb hputs fun e he hstop hnew m hm hid hundamaged hordered =>
    Change.ordered_moved hstop hnew hordered hundamaged (fun h => hcuts ⟨e, he, m, hm, hid, h⟩)
      fun h => hpushes ⟨e, he, m, hm, hid, h⟩

private theorem not_ordered_act {a : Act} (h : b.Meets id Change.Pushes a) :
    ¬ (b.act a).Places id Range.Ordered := by
  obtain ⟨e, he, m, hm, hid, hpushes⟩ := h
  intro hordered
  have hmark : { m with range := ⟨e.newStop, m.range.stop⟩ } ∈ (b.act a).marks := by
    rw [(change_act he).2.2]
    exact List.mem_filterMap.2 ⟨m, hm, Change.mark?_of_pushes hpushes⟩
  have hle : e.newStop ≤ m.range.stop := hordered _ hmark hid
  rw [hpushes.2.1] at hle
  exact Position.not_lt.2 hle hpushes.2.2.2

private theorem filled_run (hb : b.Places id Range.Filled) (hputs : b.Each (Puts id Range.Filled) acts) :
    (b.run acts).Places id Range.Filled := by
  induction acts generalizing b with
  | nil => exact hb
  | cons a acts ih => exact ih (filled_act hb hputs.1) hputs.2

/-- As long as no text is taken away right at an empty mark, it stays ordered all along a run just if no
text is put in right at it. -/
private theorem ordered_run_iff (hb : b.Places id Range.Ordered)
    (hputs : b.Each (Puts id Range.Ordered) acts)
    (hcuts : b.Each (fun c a => ¬ c.Meets id Change.Cuts a) acts) :
    (∀ past, past <+: acts → (b.run past).Places id Range.Ordered) ↔
      b.Each (fun c a => ¬ c.Meets id Change.Pushes a) acts := by
  induction acts generalizing b with
  | nil => exact iff_of_true (fun past hpast => List.prefix_nil.1 hpast ▸ hb) trivial
  | cons a acts ih =>
    constructor
    · intro h
      have hb' : (b.act a).Places id Range.Ordered := h [a] ⟨acts, rfl⟩
      refine ⟨fun hpushes => not_ordered_act hpushes hb', (ih hb' hputs.2 hcuts.2).1 fun past hpast => ?_⟩
      exact h (a :: past) (List.cons_prefix_cons.2 ⟨rfl, hpast⟩)
    · rintro ⟨hpushes, hrest⟩ past hpast
      have hb' := ordered_act hb hputs.1 hcuts.1 hpushes
      rcases List.prefix_cons_iff.1 hpast with rfl | ⟨past', rfl, hpast'⟩
      · exact hb
      · exact (ih hb' hputs.2 hcuts.2).2 hrest past' hpast'

private theorem changeAt_of_inside {p : Position} (h : b.Inside p) (cs : List Char) :
    b.changeAt cs p p = ⟨p, p, p.after cs⟩ := by
  have hmax : p.max p = p := if_pos (Position.le_refl p)
  rw [changeAt, clamp_of_inside h, hmax, clamp_of_inside h]

/-- A mark that is put on a filled range keeps its ends in order whatever is edited.  One that may be
empty does so, as long as no text is taken away right at it, just if no text is put in right at it while
it is empty: that moves its start behind the text and leaves its end where it is. -/
theorem ordered_of_run (b : Buffer) (acts : List Act) (id : MarkId) :
    (b.Places id Range.Filled → b.Each (Puts id Range.Filled) acts →
      (b.run acts).Places id Range.Filled) ∧
    (b.Places id Range.Ordered → b.Each (Puts id Range.Ordered) acts →
      b.Each (fun c a => ¬ c.Meets id Change.Cuts a) acts →
      ((∀ past, past <+: acts → (b.run past).Places id Range.Ordered) ↔
        b.Each (fun c a => ¬ c.Meets id Change.Pushes a) acts)) ∧
    ∀ m ∈ b.marks, m.range.start = m.range.stop → b.Inside m.range.start → ∀ text, text ≠ "" →
      ∃ n ∈ (b.replaceRange text m.range.start m.range.start).marks, n.id = m.id ∧ n.info = m.info ∧
        n.range = ⟨m.range.start.after text.toList, m.range.stop⟩ ∧ ¬ n.range.Ordered := by
  refine ⟨filled_run, ordered_run_iff, fun m hm hempty hinside text htext => ?_⟩
  have hlt : m.range.start < m.range.start.after text.toList :=
    Position.lt_after _ fun hnil => htext (String.toList_eq_nil_iff.1 hnil)
  have hchange := changeAt_of_inside hinside text.toList
  have hpushes : (b.changeAt text.toList m.range.start m.range.start).Pushes m.range := by
    rw [hchange]
    exact ⟨rfl, hempty.symm, rfl, hlt⟩
  have hmark : (b.changeAt text.toList m.range.start m.range.start).mark? m =
      some { m with range := ⟨m.range.start.after text.toList, m.range.stop⟩ } := by
    rw [Change.mark?_of_pushes hpushes, hchange]
  refine ⟨_, List.mem_filterMap.2 ⟨m, hm, hmark⟩, rfl, rfl, rfl, ?_⟩
  show ¬ m.range.start.after text.toList ≤ m.range.stop
  rw [← hempty]
  exact Position.not_le.2 hlt

/-- The mark of a link without a widget. -/
def plainLink : MarkInfo := ⟨.passageLink, none, none⟩

/-- An empty mark and a letter typed right there. -/
def typedAtMark : List Act := [.mark ⟨⟨0, 2⟩, ⟨0, 2⟩⟩ plainLink, .edit (.replace "x" ⟨0, 2⟩ ⟨0, 2⟩)]

/-- The letter turns the mark around. -/
theorem mark_turned_around :
    ((ofText "abcdef").Inside ⟨0, 2⟩ ∧ (⟨⟨0, 2⟩, ⟨0, 2⟩⟩ : Range).Ordered) ∧
      ((ofText "abcdef").run typedAtMark).marks = [⟨⟨0⟩, plainLink, ⟨⟨0, 3⟩, ⟨0, 2⟩⟩⟩] ∧
      ∃ m ∈ ((ofText "abcdef").run typedAtMark).marks, ¬ m.range.Ordered := by
  decide +kernel

/-- An empty mark and one that is not, and edits before them, inside the second one and over a line
feed. -/
def editedAround : List Act :=
  [.mark ⟨⟨0, 2⟩, ⟨0, 2⟩⟩ plainLink, .mark ⟨⟨0, 2⟩, ⟨0, 4⟩⟩ plainLink,
    .edit (.replace "x\n" ⟨0, 1⟩ ⟨0, 1⟩),
    .edit (.replace "y" ⟨1, 2⟩ ⟨1, 2⟩), .edit (.replace "" ⟨0, 2⟩ ⟨1, 0⟩)]

/-- Both marks keep their ends in order, until a text is put in at the empty one. -/
theorem ordered_of_run_edited :
    let b := (ofText "abcdef").run editedAround
    b.marks = [⟨⟨0⟩, plainLink, ⟨⟨0, 3⟩, ⟨0, 3⟩⟩⟩, ⟨⟨1⟩, plainLink, ⟨⟨0, 3⟩, ⟨0, 6⟩⟩⟩] ∧
      b.Places ⟨1⟩ Range.Filled ∧
      (∀ past, past <+: editedAround → ((ofText "abcdef").run past).Places ⟨0⟩ Range.Ordered) ∧
      ∃ n ∈ (b.replaceRange "z" ⟨0, 3⟩ ⟨0, 3⟩).marks, n.id = ⟨0⟩ ∧ n.info = plainLink ∧
        n.range = ⟨⟨0, 4⟩, ⟨0, 3⟩⟩ ∧
        ¬ n.range.Ordered := by
  intro b
  have hunmarked : ∀ id P, (ofText "abcdef").Places id P := by simp [Places, ofText]
  have hputs : (ofText "abcdef").Each (Puts ⟨1⟩ Range.Filled) editedAround ∧
      (ofText "abcdef").Each (Puts ⟨0⟩ Range.Ordered) editedAround := by decide +kernel
  have hcuts : (ofText "abcdef").Each (fun c a => ¬ c.Meets ⟨0⟩ Change.Cuts a) editedAround := by
    decide +kernel
  have hpushes : (ofText "abcdef").Each (fun c a => ¬ c.Meets ⟨0⟩ Change.Pushes a) editedAround := by
    decide +kernel
  have hmark : (⟨⟨0⟩, plainLink, ⟨⟨0, 3⟩, ⟨0, 3⟩⟩⟩ : Mark) ∈ b.marks := by decide +kernel
  obtain ⟨hfilled, -⟩ := ordered_of_run (ofText "abcdef") editedAround ⟨1⟩
  obtain ⟨-, hordered, -⟩ := ordered_of_run (ofText "abcdef") editedAround ⟨0⟩
  obtain ⟨-, -, hinsertion⟩ := ordered_of_run b [] ⟨0⟩
  exact ⟨by decide +kernel, hfilled (hunmarked _ _) hputs.1,
    (hordered (hunmarked _ _) hputs.2 hcuts).2 hpushes,
    hinsertion _ hmark rfl (by decide +kernel) "z" (by decide)⟩

end Buffer

end PassageEditor
