import PassageEditor.Proofs.Buffer.Splice

/-!
# Ranges and the text they cover

A position of a buffer is the position after some beginning of its text, so positions are ordered as those
beginnings are by their lengths (`after_lt_after_iff`).  A range covers the piece of text between its ends
(`Buffer.Covers`).  An edit that does not damage a range moves it along with its piece (`Buffer.Follows`,
`Change.Splices.follows_moved`); the piece stays the same unless the edit enters it, and then the new text
stands in its middle (`Change.Splices.covers_moved`).
-/

namespace PassageEditor

/-! ### The order of positions -/

namespace Position

theorem lt_of_le_of_lt {p q r : Position} (h : p ≤ q) (h' : q < r) : p < r := by
  simp only [le_def, lt_def] at *
  omega

theorem lt_of_lt_of_le {p q r : Position} (h : p < q) (h' : q ≤ r) : p < r := by
  simp only [le_def, lt_def] at *
  omega

theorem le_of_lt {p q : Position} (h : p < q) : p ≤ q := by
  simp only [le_def, lt_def] at *
  omega

theorem lt_irrefl (p : Position) : ¬ p < p := by
  simp [lt_def]

theorem le_max_right (p q : Position) : q ≤ p.max q := by
  unfold Position.max
  split
  · exact le_refl _
  · rename_i h
    exact le_of_lt (not_le.1 h)

theorem lt_after (p : Position) {cs : List Char} (h : cs ≠ []) : p < p.after cs := by
  obtain ⟨c, cs, rfl⟩ := List.exists_cons_of_ne_nil h
  have hadvance : p < p.advance c := by
    unfold advance
    split
    · exact .inl (Nat.lt_succ_self _)
    · exact .inr ⟨rfl, Nat.lt_succ_self _⟩
  exact lt_of_lt_of_le hadvance (le_after _ cs)

/-- Two beginnings of a text: their ends are ordered as their lengths. -/
theorem after_lt_after_iff {text x y : List Char} (hx : x <+: text) (hy : y <+: text) :
    origin.after x < origin.after y ↔ x.length < y.length := by
  rcases Nat.lt_or_ge x.length y.length with hlt | hge
  · obtain ⟨z, rfl⟩ := List.prefix_of_prefix_length_le hx hy (Nat.le_of_lt hlt)
    have hz : z ≠ [] := by
      rintro rfl
      simp at hlt
    rw [after_append]
    exact iff_of_true (lt_after _ hz) hlt
  · obtain ⟨z, rfl⟩ := List.prefix_of_prefix_length_le hy hx hge
    rw [after_append]
    refine iff_of_false (not_lt.2 (le_after _ z)) ?_
    omega

theorem after_le_after_iff {text x y : List Char} (hx : x <+: text) (hy : y <+: text) :
    origin.after x ≤ origin.after y ↔ x.length ≤ y.length := by
  rw [← not_lt, after_lt_after_iff hy hx, Nat.not_lt]

theorem eq_of_after_eq {text x y : List Char} (hx : x <+: text) (hy : y <+: text)
    (h : origin.after x = origin.after y) : x = y := by
  have hxy : x.length ≤ y.length := (after_le_after_iff hx hy).1 (h ▸ le_refl _)
  have hyx : y.length ≤ x.length := (after_le_after_iff hy hx).1 (h ▸ le_refl _)
  exact (List.prefix_of_prefix_length_le hx hy hxy).eq_of_length (Nat.le_antisymm hxy hyx)

/-- Text without a line feed stays on the line. -/
private theorem after_of_unbroken {cs : List Char} (h : '\n' ∉ cs) (p : Position) :
    p.after cs = ⟨p.line, p.ch + cs.length⟩ := by
  induction cs generalizing p with
  | nil => rfl
  | cons c cs ih =>
    rw [List.mem_cons, not_or] at h
    have hadvance : p.advance c = ⟨p.line, p.ch + 1⟩ := if_neg (Ne.symm h.1)
    have hcons : p.after (c :: cs) = (p.advance c).after cs := rfl
    rw [hcons, ih h.2, hadvance, List.length_cons]
    simp only [Position.mk.injEq, true_and]
    omega

end Position

open Position (origin)

namespace Buffer

/-! ### Positions of a buffer -/

theorem textBefore_append_textAfter {b : Buffer} {p : Position} (h : b.Inside p) :
    b.textBefore p ++ b.textAfter p = b.chars := by
  have hlines : b.lines = b.lines.take p.line ++ b.line p.line :: b.lines.drop (p.line + 1) := by
    have hline : b.line p.line = b.lines.get ⟨p.line, h.1⟩ := by simp [line, List.getElem?_eq_getElem h.1]
    have hdrop : b.line p.line :: b.lines.drop (p.line + 1) = b.lines.drop p.line := by
      rw [hline]
      exact List.getElem_cons_drop h.1
    rw [hdrop, List.take_append_drop]
  unfold textBefore textAfter chars
  conv_rhs => rw [hlines, ← List.take_append_drop p.ch (b.line p.line)]
  exact (Text.joinWith_glue _ _ _ _).symm

private theorem unbroken_line (b : Buffer) (i : Nat) : '\n' ∉ b.line i := by
  unfold line
  cases h : b.lines[i]? with
  | none => simp
  | some l => exact b.unbroken l (List.mem_of_getElem? h)

/-- A position is the one after the text before it. -/
theorem after_textBefore {b : Buffer} {p : Position} (h : b.Inside p) :
    origin.after (b.textBefore p) = p := by
  have hunbroken : ∀ l ∈ b.lines.take p.line ++ [(b.line p.line).take p.ch], '\n' ∉ l := by
    intro l hl
    rcases List.mem_append.1 hl with hl | hl
    · exact b.unbroken l (List.mem_of_mem_take hl)
    · obtain rfl := List.mem_singleton.1 hl
      exact fun hmem => b.unbroken_line p.line (List.mem_of_mem_take hmem)
  have hlines : Text.lines (b.textBefore p) = b.lines.take p.line ++ [(b.line p.line).take p.ch] :=
    Text.splitAt_joinWith (by simp) hunbroken
  rw [Position.after_origin hlines, List.length_take, List.length_take, Nat.min_eq_left h.2,
    Nat.min_eq_left (Nat.le_of_lt h.1)]

theorem textBefore_prefix {b : Buffer} {p : Position} (h : b.Inside p) : b.textBefore p <+: b.chars :=
  ⟨b.textAfter p, textBefore_append_textAfter h⟩

theorem clamp_mono (b : Buffer) {p q : Position} (h : p ≤ q) : b.clamp p ≤ b.clamp q := by
  rw [Position.le_def] at h
  unfold clamp
  split <;> split <;> rw [Position.le_def]
  · exact .inr ⟨rfl, Nat.le_refl _⟩
  · omega
  · rename_i hp hq
    rcases Nat.lt_or_ge p.line b.endPosition.line with hlt | hge
    · exact .inl hlt
    · have hline : p.line = b.endPosition.line := by omega
      have hend : b.endPosition.ch = (b.line b.endPosition.line).length := rfl
      refine .inr ⟨hline, ?_⟩
      rw [hend, hline]
      exact Nat.min_le_right _ _
  · rcases h with hlt | ⟨heq, hle⟩
    · exact .inl hlt
    · refine .inr ⟨heq, ?_⟩
      simp only [heq]
      omega

/-! ### The text that a range covers -/

/-- The range covers `piece`, with `front` before it and `rest` behind it. -/
def Spans (b : Buffer) (r : Range) (front piece rest : List Char) : Prop :=
  b.chars = front ++ (piece ++ rest) ∧ r.start = origin.after front ∧
  r.stop = origin.after (front ++ piece)

/-- The range covers a piece of the text. -/
def Covers (b : Buffer) (r : Range) (cs : List Char) : Prop :=
  ∃ before after, b.chars = before ++ (cs ++ after) ∧ r.start = origin.after before ∧
    r.stop = origin.after (before ++ cs)

theorem Covers.unique {b : Buffer} {r : Range} {cs ds : List Char} (h : b.Covers r cs)
    (h' : b.Covers r ds) :
    cs = ds := by
  obtain ⟨before, after, hchars, hstart, hstop⟩ := h
  obtain ⟨before', after', hchars', hstart', hstop'⟩ := h'
  have hbefore : before = before' :=
    Position.eq_of_after_eq ⟨_, hchars.symm⟩ ⟨_, hchars'.symm⟩ (hstart.symm.trans hstart')
  subst hbefore
  have hcs : before ++ cs <+: b.chars := ⟨after, by rw [hchars, List.append_assoc]⟩
  have hds : before ++ ds <+: b.chars := ⟨after', by rw [hchars', List.append_assoc]⟩
  have hpiece : before ++ cs = before ++ ds := Position.eq_of_after_eq hcs hds (hstop.symm.trans hstop')
  exact List.append_cancel_left hpiece

theorem Covers.start_lt_stop {b : Buffer} {r : Range} {cs : List Char} (h : b.Covers r cs)
    (hne : cs ≠ []) :
    r.start < r.stop := by
  obtain ⟨before, after, -, hstart, hstop⟩ := h
  rw [hstart, hstop, Position.after_append]
  exact Position.lt_after _ hne

/-- Buffers with the same text. -/
theorem Covers.of_chars_eq {b c : Buffer} {r : Range} {cs : List Char} (h : b.Covers r cs)
    (hc : c.chars = b.chars) :
    c.Covers r cs := by
  obtain ⟨before, after, hchars, hstart, hstop⟩ := h
  exact ⟨before, after, hc.trans hchars, hstart, hstop⟩

/-- Some characters of a line. -/
theorem covers_onLine {b : Buffer} {n c len : Nat} (hn : n < b.lines.length)
    (hc : c + len ≤ (b.line n).length) :
    b.Covers (.onLine n c len) (((b.line n).drop c).take len) := by
  have hstart : b.Inside ⟨n, c⟩ := ⟨hn, by show c ≤ (b.line n).length; omega⟩
  have hunbroken : '\n' ∉ ((b.line n).drop c).take len := fun hmem =>
    b.unbroken_line n (List.mem_of_mem_drop (List.mem_of_mem_take hmem))
  have hlength : (((b.line n).drop c).take len).length = len := by
    rw [List.length_take, List.length_drop]
    omega
  have hsplit : ∃ rest, b.textAfter ⟨n, c⟩ = ((b.line n).drop c).take len ++ rest := by
    refine ⟨Text.unlines (((b.line n).drop c).drop len :: b.lines.drop (n + 1)), ?_⟩
    have hglue : Text.joinWith '\n' _ = _ :=
      Text.joinWith_glue [] (b.lines.drop (n + 1)) (((b.line n).drop c).take len)
        (((b.line n).drop c).drop len)
    rw [List.take_append_drop] at hglue
    exact hglue
  obtain ⟨rest, hrest⟩ := hsplit
  refine ⟨b.textBefore ⟨n, c⟩, rest, ?_, (after_textBefore hstart).symm, ?_⟩
  · rw [← hrest, textBefore_append_textAfter hstart]
  · rw [Position.after_append, after_textBefore hstart, Position.after_of_unbroken hunbroken, hlength]
    rfl

/-- A piece of the text without a line feed lies on one line. -/
theorem Covers.onLine {b : Buffer} {r : Range} {cs : List Char} (h : b.Covers r cs) (hu : '\n' ∉ cs) :
    r = .onLine r.start.line r.start.ch cs.length ∧ cs <+: (b.line r.start.line).drop r.start.ch ∧
      r.start.line < b.lines.length := by
  obtain ⟨before, after, hchars, hstart, hstop⟩ := h
  obtain ⟨hinside, -, hafter⟩ := cut_after hchars
  rw [← hstart] at hinside hafter
  refine ⟨?_, ?_, hinside.1⟩
  · have hend : r.stop = ⟨r.start.line, r.start.ch + cs.length⟩ := by
      rw [hstop, Position.after_append, ← hstart, Position.after_of_unbroken hu]
    obtain ⟨start, stop⟩ := r
    simp only at hend
    rw [hend]
    rfl
  · -- the rest of the line is the text up to the first line feed
    have hfront : cs <+: b.textAfter r.start := ⟨after, hafter.symm⟩
    unfold textAfter Text.unlines at hfront
    exact Text.prefix_of_prefix_joinWith hu hfront

/-- How a range goes along where `old`, between `before` and `after`, gives way to `new`.  It covers the
characters that it covered, as far from the beginning or from the end of the text as before; only a text
that is put in between two of its characters belongs to it afterwards. -/
inductive Follows (b b' : Buffer) (before old new after : List Char) (r r' : Range) : Prop
  | ahead {front piece rest : List Char} (nonempty : piece ≠ [])
    (split : before = front ++ (piece ++ rest))
      (was : b.Spans r front piece (rest ++ (old ++ after)))
      (becomes : b'.Spans r' front piece (rest ++ (new ++ after)))
  | behind {front piece rest : List Char} (nonempty : piece ≠ [])
    (split : after = front ++ (piece ++ rest))
      (was : b.Spans r (before ++ (old ++ front)) piece rest)
      (becomes : b'.Spans r' (before ++ (new ++ front)) piece rest)
  | inside {front left right rest : List Char} (left_nonempty : left ≠ []) (right_nonempty : right ≠ [])
      (insertion : old = []) (split_before : before = front ++ left) (split_after : after = right ++ rest)
      (was : b.Spans r front (left ++ right) rest)
      (becomes : b'.Spans r' front (left ++ new ++ right) rest)

end Buffer

/-! ### Edits -/

namespace Change

/-- Between two pieces of the text the change puts `cs` in the place of `old`. -/
structure Splices (e : Change) (b b' : Buffer) (before old cs after : List Char) : Prop where
  chars : b.chars = before ++ (old ++ after)
  chars' : b'.chars = before ++ (cs ++ after)
  start : e.start = origin.after before
  stop : e.stop = origin.after (before ++ old)
  newStop : e.newStop = origin.after (before ++ cs)

/-- The place of the change is inside a range, not at its ends. -/
def Enters (e : Change) (r : Range) : Prop := r.start < e.start ∧ e.start < r.stop

instance (e : Change) (r : Range) : Decidable (e.Enters r) := inferInstanceAs (Decidable (_ ∧ _))

private theorem rebase_of_le {old n : Nat} (h : old ≤ n) (new : Nat) :
    rebase old new n = new + (n - old) := if_pos h

/-- From the end of the change on, a position moves by lines and, on the line of that end, by
characters. -/
theorem shift_of_le {e : Change} {p : Position} (h : e.stop ≤ p) :
    e.shift p =
      if p.line = e.stop.line then ⟨e.newStop.line, e.newStop.ch + (p.ch - e.stop.ch)⟩
      else ⟨e.newStop.line + (p.line - e.stop.line), p.ch⟩ := by
  rw [Position.le_def] at h
  unfold shift
  split
  · rw [rebase_of_le (by omega)]
  · rw [rebase_of_le (by omega)]

theorem shift_stop (e : Change) : e.shift e.stop = e.newStop := by
  rw [shift_of_le (Position.le_refl _), if_pos rfl, Nat.sub_self, Nat.add_zero]

/-- A position after the change is as far from its new end as it was from the old one. -/
private theorem shift_after (e : Change) (cs : List Char) :
    e.shift (e.stop.after cs) = e.newStop.after cs := by
  induction cs using List.reverseRecOn with
  | nil => exact shift_stop e
  | append_singleton cs c ih =>
    rw [Position.after_append, Position.after_append, ← ih]
    have hle := Position.le_after e.stop cs
    generalize e.stop.after cs = p at hle
    show e.shift (p.advance c) = (e.shift p).advance c
    rw [shift_of_le (Position.le_trans hle (Position.le_advance p c)), shift_of_le hle]
    rw [Position.le_def] at hle
    by_cases hc : c = '\n'
    · have hadvance : ∀ q : Position, q.advance c = ⟨q.line + 1, 0⟩ := fun q => if_pos hc
      have hne : p.line + 1 ≠ e.stop.line := by omega
      rw [hadvance, hadvance, if_neg hne]
      split
      · simp only [Position.mk.injEq, and_true]
        omega
      · simp only [Position.mk.injEq, and_true]
        omega
    · have hadvance : ∀ q : Position, q.advance c = ⟨q.line, q.ch + 1⟩ := fun q => if_neg hc
      rw [hadvance, hadvance]
      by_cases hsame : p.line = e.stop.line
      · simp only [hsame, ↓reduceIte, Position.mk.injEq, true_and]
        omega
      · simp only [hsame, ↓reduceIte]

/-- Replacing a range is such a change. -/
theorem splices_replaceRange (b : Buffer) (text : String) (start stop : Position) :
    ∃ before old after, (b.changeAt text.toList start stop).Splices b (b.replaceRange text start stop)
      before old text.toList after := by
  have hstart := b.inside_clamp start
  have hstop := b.inside_clamp (stop.max (b.clamp start))
  have hle : b.clamp start ≤ b.clamp (stop.max (b.clamp start)) := by
    have hself : b.clamp (b.clamp start) = b.clamp start := Buffer.clamp_of_inside hstart
    rw [← hself]
    refine b.clamp_mono ?_
    rw [hself]
    exact Position.le_max_right stop (b.clamp start)
  have hafter := Buffer.after_textBefore hstart
  have hafter' := Buffer.after_textBefore hstop
  have hbefore := Buffer.textBefore_prefix hstart
  have hbefore' := Buffer.textBefore_prefix hstop
  have hlength : (b.textBefore (b.clamp start)).length ≤
      (b.textBefore (b.clamp (stop.max (b.clamp start)))).length := by
    rw [← Position.after_le_after_iff hbefore hbefore', hafter, hafter']
    exact hle
  obtain ⟨old, hold⟩ := List.prefix_of_prefix_length_le hbefore hbefore' hlength
  refine ⟨b.textBefore (b.clamp start), old, b.textAfter (b.clamp (stop.max (b.clamp start))),
    ?_, ?_, hafter.symm, ?_,
    ?_⟩
  · rw [← List.append_assoc, hold, Buffer.textBefore_append_textAfter hstop]
  · rw [b.chars_replaceRange text start stop, List.append_assoc]
  · rw [hold]
    exact hafter'.symm
  · rw [Position.after_append, hafter]
    rfl

/-! ### Order -/

/-- Behind the change positions keep their order, and none moves in front of the new text. -/
theorem shift_le_shift {e : Change} {p q : Position} (hp : e.stop ≤ p) (h : p ≤ q) :
    e.shift p ≤ e.shift q := by
  rw [shift_of_le hp, shift_of_le (Position.le_trans hp h)]
  rw [Position.le_def] at hp h
  split <;> split <;> rw [Position.le_def] <;> dsimp only <;> omega

theorem newStop_le_shift {e : Change} {p : Position} (hp : e.stop ≤ p) : e.newStop ≤ e.shift p := by
  rw [shift_of_le hp]
  rw [Position.le_def] at hp
  split <;> rw [Position.le_def] <;> dsimp only <;> omega

/-- Behind the change no two positions fall together. -/
theorem shift_injective {e : Change} {p q : Position} (hp : e.stop ≤ p) (hq : e.stop ≤ q)
    (h : e.shift p = e.shift q) :
    p = q := by
  rw [shift_of_le hp, shift_of_le hq] at h
  refine Position.le_antisymm ?_ ?_ <;>
  · rw [Position.le_def] at hp hq ⊢
    split at h <;> split at h <;> simp only [Position.mk.injEq] at h <;> omega

/-- A range that is not damaged and does not start before the change starts behind it. -/
theorem stop_le_of_not_damages {e : Change} {r : Range} (hr : r.start < r.stop) (hd : ¬ e.Damages r)
    (hstart : ¬ r.start < e.start) : e.stop ≤ r.start := by
  simp only [Damages, Position.le_def, Position.lt_def] at *
  omega

/-- Two ranges that are not damaged start together after the change only if they did before. -/
theorem moved_start_injective {e : Change} (hnew : e.start ≤ e.newStop) {r s : Range}
    (hr : r.start < r.stop) (hs : s.start < s.stop) (hdr : ¬ e.Damages r) (hds : ¬ e.Damages s)
    (h : (e.moved r).start = (e.moved s).start) :
    r.start = s.start := by
  -- what starts behind the change stays behind what starts before it
  have hapart : ∀ {x y : Range}, x.start < e.start → e.stop ≤ y.start → x.start ≠ e.shift y.start := by
    intro x y hx hy heq
    have hle := Position.le_trans hnew (newStop_le_shift hy)
    rw [← heq] at hle
    exact Position.not_lt.2 hle hx
  unfold moved at h
  dsimp only at h
  by_cases hfront : r.start < e.start
  · rw [if_pos hfront] at h
    by_cases hfront' : s.start < e.start
    · rwa [if_pos hfront'] at h
    · rw [if_neg hfront'] at h
      exact absurd h (hapart hfront (stop_le_of_not_damages hs hds hfront'))
  · rw [if_neg hfront] at h
    have hbehind := stop_le_of_not_damages hr hdr hfront
    by_cases hfront' : s.start < e.start
    · rw [if_pos hfront'] at h
      exact absurd h.symm (hapart hfront' hbehind)
    · rw [if_neg hfront'] at h
      exact shift_injective hbehind (stop_le_of_not_damages hs hds hfront') h

/-- Of two ranges one after the other, neither of them damaged, each keeps its place. -/
theorem moved_stop_le_moved_start {e : Change} (hnew : e.start ≤ e.newStop) {r s : Range}
    (hr : r.start < r.stop) (hs : s.start < s.stop) (hdr : ¬ e.Damages r) (hds : ¬ e.Damages s)
    (h : r.stop ≤ s.start) :
    (e.moved r).stop ≤ (e.moved s).start := by
  have hbehind : ¬ r.stop ≤ e.start → e.stop ≤ r.stop := by
    intro hlt
    simp only [Damages, Position.le_def, Position.lt_def] at *
    omega
  unfold moved
  dsimp only
  by_cases hfront : r.stop ≤ e.start
  · rw [if_pos hfront]
    by_cases hfront' : s.start < e.start
    · rw [if_pos hfront']
      exact h
    · rw [if_neg hfront']
      exact Position.le_trans (Position.le_trans hfront hnew)
        (newStop_le_shift (stop_le_of_not_damages hs hds hfront'))
  · have hfront' : ¬ s.start < e.start := fun hlt => hfront (Position.le_trans h (Position.le_of_lt hlt))
    rw [if_neg hfront, if_neg hfront']
    exact shift_le_shift (hbehind hfront) h

namespace Splices

variable {e : Change} {b b' : Buffer} {before old cs after : List Char}

theorem begins (h : e.Splices b b' before old cs after) : before <+: b.chars := ⟨_, h.chars.symm⟩

theorem begins_old (h : e.Splices b b' before old cs after) : before ++ old <+: b.chars :=
  ⟨after, by rw [h.chars, List.append_assoc]⟩

theorem start_le_newStop (h : e.Splices b b' before old cs after) : e.start ≤ e.newStop := by
  rw [h.start, h.newStop, Position.after_append]
  exact Position.le_after _ cs

private theorem spans_front (h : e.Splices b b' before old cs after) {r : Range} {u piece w : List Char}
    (hw : before = u ++ (piece ++ w)) (hstart : r.start = origin.after u)
    (hstop : r.stop = origin.after (u ++ piece)) :
    b'.Spans r u piece (w ++ (cs ++ after)) := by
  refine ⟨?_, hstart, hstop⟩
  rw [h.chars', hw]
  simp

private theorem spans_behind (h : e.Splices b b' before old cs after) {r : Range} {piece v w : List Char}
    (hafter : after = w ++ (piece ++ v))
    (hstart : r.start = e.shift (origin.after (before ++ (old ++ w))))
    (hstop : r.stop = e.shift (origin.after (before ++ (old ++ w) ++ piece))) :
    b'.Spans r (before ++ (cs ++ w)) piece v := by
  have hshift : ∀ z, e.shift (origin.after (before ++ (old ++ z))) =
      origin.after (before ++ (cs ++ z)) := by
    intro z
    rw [← List.append_assoc, Position.after_append, ← h.stop, shift_after, h.newStop,
      ← Position.after_append,
      List.append_assoc]
  refine ⟨?_, ?_, ?_⟩
  · rw [h.chars', hafter]
    simp
  · rw [hstart, hshift]
  · rw [hstop, List.append_assoc before, List.append_assoc old, hshift,
      List.append_assoc before, List.append_assoc cs]

private theorem spans_inside (h : e.Splices b b' before [] cs after) {r : Range} {u x y v : List Char}
    (hx : before = u ++ x) (hy : after = y ++ v) (hstart : r.start = origin.after u)
    (hstop : r.stop = e.shift (origin.after (before ++ y))) : b'.Spans r u (x ++ cs ++ y) v := by
  refine ⟨?_, hstart, ?_⟩
  · rw [h.chars', hy, hx]
    simp
  · have hfrom : e.stop = origin.after before := by rw [h.stop, List.append_nil]
    rw [hstop, Position.after_append, ← hfrom, shift_after, h.newStop, ← Position.after_append, hx]
    simp

section Lengths

/-! The ends of a range and of the change are all ends of beginnings of the text, so their order is that of
lengths. -/

variable {r : Range} {u piece v : List Char} (h : e.Splices b b' before old cs after)
  (hpiece : b.chars = u ++ (piece ++ v)) (hfrom : r.start = origin.after u)
  (hto : r.stop = origin.after (u ++ piece))

include h hpiece hfrom hto

theorem damages_iff : e.Damages r ↔ 0 < old.length ∧ u.length < before.length + old.length ∧
    before.length < u.length + piece.length := by
  have hu : u <+: b.chars := ⟨_, hpiece.symm⟩
  have hup : u ++ piece <+: b.chars := ⟨v, by rw [hpiece, List.append_assoc]⟩
  unfold Damages
  rw [h.start, h.stop, hfrom, hto, Position.after_lt_after_iff h.begins h.begins_old,
    Position.after_lt_after_iff hu h.begins_old, Position.after_lt_after_iff h.begins hup,
    List.length_append,
    List.length_append, Nat.lt_add_right_iff_pos]

private theorem enters_iff :
    e.Enters r ↔ u.length < before.length ∧ before.length < u.length + piece.length := by
  have hu : u <+: b.chars := ⟨_, hpiece.symm⟩
  have hup : u ++ piece <+: b.chars := ⟨v, by rw [hpiece, List.append_assoc]⟩
  unfold Enters
  rw [h.start, hfrom, hto, Position.after_lt_after_iff hu h.begins,
    Position.after_lt_after_iff h.begins hup,
    List.length_append]

omit hto in
private theorem moved_start :
    (e.moved r).start = if u.length < before.length then r.start else e.shift r.start := by
  have hu : u <+: b.chars := ⟨_, hpiece.symm⟩
  unfold moved
  simp only [h.start, hfrom, Position.after_lt_after_iff hu h.begins]

omit hfrom in
private theorem moved_stop :
    (e.moved r).stop = if u.length + piece.length ≤ before.length then r.stop else e.shift r.stop := by
  have hup : u ++ piece <+: b.chars := ⟨v, by rw [hpiece, List.append_assoc]⟩
  unfold moved
  simp only [h.start, hto, Position.after_le_after_iff hup h.begins, List.length_append]

/-- A piece before the change stays where it is. -/
theorem spans_ahead (hfront : u.length + piece.length ≤ before.length) (hne : piece ≠ []) :
    ∃ w, before = u ++ (piece ++ w) ∧ b.Spans r u piece (w ++ (old ++ after)) ∧
      b'.Spans (e.moved r) u piece (w ++ (cs ++ after)) := by
  have hup : u ++ piece <+: b.chars := ⟨v, by rw [hpiece, List.append_assoc]⟩
  have hpos : 0 < piece.length := List.length_pos_iff.2 hne
  have hstart := h.moved_start hpiece hfrom
  have hstop := h.moved_stop hpiece hto
  rw [if_pos (by omega)] at hstart hstop
  obtain ⟨w, hw⟩ := List.prefix_of_prefix_length_le hup h.begins (by rwa [List.length_append])
  have hbefore : before = u ++ (piece ++ w) := by rw [← hw, List.append_assoc]
  refine ⟨w, hbefore, ⟨?_, hfrom, hto⟩, h.spans_front hbefore (hstart.trans hfrom) (hstop.trans hto)⟩
  rw [h.chars, hbefore]
  simp

/-- A piece behind the change stays as far from the end of the text. -/
theorem spans_beyond (hbehind : before.length + old.length ≤ u.length) (hne : piece ≠ []) :
    ∃ w, after = w ++ (piece ++ v) ∧ b.Spans r (before ++ (old ++ w)) piece v ∧
      b'.Spans (e.moved r) (before ++ (cs ++ w)) piece v := by
  have hpos : 0 < piece.length := List.length_pos_iff.2 hne
  have hstart := h.moved_start hpiece hfrom
  have hstop := h.moved_stop hpiece hto
  rw [if_neg (by omega), hfrom] at hstart
  rw [if_neg (by omega), hto] at hstop
  obtain ⟨w, hw⟩ :=
    List.prefix_of_prefix_length_le h.begins_old ⟨_, hpiece.symm⟩ (by rwa [List.length_append])
  rw [List.append_assoc] at hw
  subst hw
  have hafter : after = w ++ (piece ++ v) := by
    have hchars := hpiece.symm.trans h.chars
    rw [List.append_assoc before, List.append_cancel_left_eq, List.append_assoc old,
      List.append_cancel_left_eq] at hchars
    exact hchars.symm
  exact ⟨w, hafter, ⟨hpiece, hfrom, hto⟩, h.spans_behind hafter hstart hstop⟩

private theorem follows_front (hfront : u.length + piece.length ≤ before.length) (hne : piece ≠ []) :
    b.Follows b' before old cs after r (e.moved r) := by
  obtain ⟨w, hbefore, hwas, hbecomes⟩ := h.spans_ahead hpiece hfrom hto hfront hne
  exact .ahead hne hbefore hwas hbecomes

private theorem follows_behind (hbehind : before.length + old.length ≤ u.length) (hne : piece ≠ []) :
    b.Follows b' before old cs after r (e.moved r) := by
  obtain ⟨w, hafter, hwas, hbecomes⟩ := h.spans_beyond hpiece hfrom hto hbehind hne
  exact .behind hne hafter hwas hbecomes

private theorem follows_inside (hold : old = []) (hinside : u.length < before.length)
    (hover : before.length < u.length + piece.length) :
    b.Follows b' before old cs after r (e.moved r) := by
  subst hold
  have hup : u ++ piece <+: b.chars := ⟨v, by rw [hpiece, List.append_assoc]⟩
  have hstart := h.moved_start hpiece hfrom
  have hstop := h.moved_stop hpiece hto
  rw [if_pos hinside, hfrom] at hstart
  rw [if_neg (by omega), hto] at hstop
  obtain ⟨x, hx⟩ := List.prefix_of_prefix_length_le ⟨_, hpiece.symm⟩ h.begins (Nat.le_of_lt hinside)
  obtain ⟨y, hy⟩ := List.prefix_of_prefix_length_le h.begins hup (by rw [List.length_append]; omega)
  have hxy : piece = x ++ y := by
    rw [← hx, List.append_assoc, List.append_cancel_left_eq] at hy
    exact hy.symm
  have hafter : after = y ++ v := by
    have hchars := hpiece.symm.trans h.chars
    rw [← List.append_assoc, ← hy, List.append_assoc, List.append_cancel_left_eq] at hchars
    exact hchars.symm
  have hx0 : x ≠ [] := by
    rintro rfl
    rw [← hx, List.append_nil] at hinside
    omega
  have hy0 : y ≠ [] := by
    rintro rfl
    rw [← List.length_append, ← hy, List.append_nil] at hover
    omega
  exact .inside hx0 hy0 rfl hx.symm hafter ⟨hxy ▸ hpiece, hfrom, hxy ▸ hto⟩
    (h.spans_inside hx.symm hafter hstart (by rw [hy]; exact hstop))

end Lengths

/-- An edit that does not damage a range that is not empty stays out of it or takes place strictly inside
it, where nothing is taken away then; either way the range follows. -/
theorem follows_moved (h : e.Splices b b' before old cs after) {r : Range} {piece : List Char}
    (hr : b.Covers r piece) (hne : piece ≠ []) (hd : ¬ e.Damages r) :
    b.Follows b' before old cs after r (e.moved r) := by
  obtain ⟨u, v, hpiece, hfrom, hto⟩ := hr
  rw [h.damages_iff hpiece hfrom hto] at hd
  rcases Nat.lt_or_ge before.length (u.length + piece.length) with hover | hfront
  · rcases Nat.lt_or_ge u.length before.length with hinside | hbehind
    · have hold : old = [] := List.eq_nil_of_length_eq_zero (by omega)
      exact h.follows_inside hpiece hfrom hto hold hinside hover
    · exact h.follows_behind hpiece hfrom hto (by omega) hne
  · exact h.follows_front hpiece hfrom hto hfront hne

/-- The piece that a range covers stays the same unless the edit enters it; then the new text stands in
its middle. -/
theorem covers_moved (h : e.Splices b b' before old cs after) {r : Range} {piece : List Char}
    (hr : b.Covers r piece) (hne : piece ≠ []) (hd : ¬ e.Damages r) :
    ¬ e.Enters r ∧ b'.Covers (e.moved r) piece ∨
      e.Enters r ∧ ∃ x y, piece = x ++ y ∧ x ≠ [] ∧ y ≠ [] ∧ b'.Covers (e.moved r) (x ++ cs ++ y) := by
  cases h.follows_moved hr hne hd with
  | @ahead u p w hp hbefore hspans hspans' =>
    obtain rfl := hr.unique ⟨u, _, hspans⟩
    refine .inl ⟨?_, u, _, hspans'⟩
    rw [h.enters_iff hspans.1 hspans.2.1 hspans.2.2, hbefore, List.length_append, List.length_append]
    omega
  | @behind w p v hp hafter hspans hspans' =>
    obtain rfl := hr.unique ⟨_, v, hspans⟩
    refine .inl ⟨?_, _, v, hspans'⟩
    rw [h.enters_iff hspans.1 hspans.2.1 hspans.2.2, List.length_append]
    omega
  | @inside u x y v hx hy hold hbefore hafter hspans hspans' =>
    obtain rfl := hr.unique ⟨u, v, hspans⟩
    have hx0 : 0 < x.length := List.length_pos_iff.2 hx
    have hy0 : 0 < y.length := List.length_pos_iff.2 hy
    refine .inr ⟨?_, x, y, rfl, hx, hy, u, v, hspans'⟩
    rw [h.enters_iff hspans.1 hspans.2.1 hspans.2.2, hbefore, List.length_append, List.length_append]
    omega

end Splices

end Change

end PassageEditor
