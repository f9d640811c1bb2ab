import PassageEditor.Proofs.Buffer.Marks

/-!
# Marks follow their text

A replacement of a range takes away the marks that lose a character to it.  The others keep what they are
and go along with their characters, and none of them overtakes another (`Buffer.tracks_replaceRange`).
-/

namespace PassageEditor

open Position (origin)

namespace Buffer

/-- A range inside the text that is not empty. -/
def Holds (b : Buffer) (r : Range) : Prop := b.Inside r.start ∧ b.Inside r.stop ∧ r.start < r.stop

instance (b : Buffer) (p : Position) : Decidable (b.Inside p) := inferInstanceAs (Decidable (_ ∧ _))

instance (b : Buffer) (r : Range) : Decidable (b.Holds r) := inferInstanceAs (Decidable (_ ∧ _))

theorem Holds.exists_spans {b : Buffer} {r : Range} (h : b.Holds r) :
    ∃ front piece rest, piece ≠ [] ∧ b.Spans r front piece rest := by
  obtain ⟨hstart, hstop, hlt⟩ := h
  have hfront := after_textBefore hstart
  have hback := after_textBefore hstop
  have hprefix := textBefore_prefix hstart
  have hprefix' := textBefore_prefix hstop
  have hlength : (b.textBefore r.start).length < (b.textBefore r.stop).length := by
    rw [← Position.after_lt_after_iff hprefix hprefix', hfront, hback]
    exact hlt
  obtain ⟨piece, hpiece⟩ := List.prefix_of_prefix_length_le hprefix hprefix' (Nat.le_of_lt hlength)
  refine ⟨b.textBefore r.start, piece, b.textAfter r.stop, ?_, ?_, hfront.symm, ?_⟩
  · rintro rfl
    rw [← hpiece, List.append_nil] at hlength
    exact Nat.lt_irrefl _ hlength
  · rw [← List.append_assoc, hpiece, textBefore_append_textAfter hstop]
  · rw [hpiece, hback]

theorem Spans.holds {b : Buffer} {r : Range} {front piece rest : List Char}
    (h : b.Spans r front piece rest) (hne : piece ≠ []) : b.Holds r := by
  obtain ⟨hchars, hstart, hstop⟩ := h
  refine ⟨?_, ?_, Covers.start_lt_stop ⟨front, rest, hchars, hstart, hstop⟩ hne⟩
  · rw [hstart]
    exact (cut_after hchars).1
  · rw [hstop]
    exact (cut_after (hchars.trans (List.append_assoc front piece rest).symm)).1

/-- A range that goes along with its characters does not become empty. -/
private theorem Follows.holds {b b' : Buffer} {before old new after : List Char} {r r' : Range}
    (h : b.Follows b' before old new after r r') : b'.Holds r' := by
  cases h with
  | ahead hne _ _ becomes => exact becomes.holds hne
  | behind hne _ _ becomes => exact becomes.holds hne
  | inside hleft _ _ _ _ _ becomes => exact becomes.holds (by simp [hleft])

/-- A character of the range is one of `old`, which stands behind `before`. -/
def Loses (b : Buffer) (r : Range) (before old : List Char) : Prop :=
  ∃ front piece rest, b.Spans r front piece rest ∧
    ∃ i, (front.length ≤ i ∧ i < front.length + piece.length) ∧ before.length ≤ i ∧
      i < before.length + old.length

/-- What becomes of the marks where `old`, between `before` and `after`, gives way to `new`. -/
structure Tracks (b b' : Buffer) (before old new after : List Char)
    (follow : Mark → Option Mark) : Prop where
  chars : b.chars = before ++ (old ++ after)
  chars' : b'.chars = before ++ (new ++ after)
  /-- No mark is put on. -/
  marks : b'.marks = b.marks.filterMap follow
  /-- A mark goes exactly if it loses a character. -/
  lost : ∀ m ∈ b.marks, follow m = none ↔ b.Loses m.range before old
  /-- The others stay what they are and go along with their characters. -/
  kept : ∀ m ∈ b.marks, ∀ n, follow m = some n →
    n.id = m.id ∧ n.info = m.info ∧ b'.Holds n.range ∧ b.Follows b' before old new after m.range n.range
  /-- The order of those that stay is the same. -/
  order : ∀ m ∈ b.marks, ∀ n ∈ b.marks, ∀ m' n', follow m = some m' → follow n = some n' →
    (m'.range.start < n'.range.start ↔ m.range.start < n.range.start)

end Buffer

namespace Change

variable {e : Change} {b b' : Buffer} {before old cs after : List Char}

private theorem Splices.damages_iff_loses (h : e.Splices b b' before old cs after) {r : Range}
    (hr : b.Holds r) :
    e.Damages r ↔ b.Loses r before old := by
  constructor
  · intro hd
    obtain ⟨front, piece, rest, hne, hspans⟩ := hr.exists_spans
    have hpos : 0 < piece.length := List.length_pos_iff.2 hne
    rw [h.damages_iff hspans.1 hspans.2.1 hspans.2.2] at hd
    exact ⟨front, piece, rest, hspans, max front.length before.length, by omega, by omega⟩
  · rintro ⟨front, piece, rest, hspans, i, hi, hi'⟩
    rw [h.damages_iff hspans.1 hspans.2.1 hspans.2.2]
    omega

private theorem moved_start_le_moved_start (hnew : e.start ≤ e.newStop) {r s : Range}
    (hr : r.start < r.stop) (hs : s.start < s.stop) (hdr : ¬ e.Damages r) (hds : ¬ e.Damages s)
    (h : r.start ≤ s.start) :
    (e.moved r).start ≤ (e.moved s).start := by
  unfold moved
  dsimp only
  by_cases hfront' : s.start < e.start
  · have hfront := Position.lt_of_le_of_lt h hfront'
    rw [if_pos hfront, if_pos hfront']
    exact h
  · have hbehind' := stop_le_of_not_damages hs hds hfront'
    rw [if_neg hfront']
    by_cases hfront : r.start < e.start
    · rw [if_pos hfront]
      exact Position.le_trans (Position.le_of_lt hfront)
        (Position.le_trans hnew (newStop_le_shift hbehind'))
    · rw [if_neg hfront]
      exact shift_le_shift (stop_le_of_not_damages hr hdr hfront) h

/-- Of two ranges that are not damaged the one that starts first does so afterwards. -/
private theorem moved_start_lt_iff (hnew : e.start ≤ e.newStop) {r s : Range} (hr : r.start < r.stop)
    (hs : s.start < s.stop) (hdr : ¬ e.Damages r) (hds : ¬ e.Damages s) :
    (e.moved r).start < (e.moved s).start ↔ r.start < s.start := by
  constructor
  · intro h
    by_contra hle
    exact Position.not_lt.2 (moved_start_le_moved_start hnew hs hr hds hdr (Position.not_lt.1 hle)) h
  · intro h
    by_contra hle
    have hle' := moved_start_le_moved_start hnew hr hs hdr hds (Position.le_of_lt h)
    have heq := Position.le_antisymm hle' (Position.not_lt.1 hle)
    rw [moved_start_injective hnew hr hs hdr hds heq] at h
    exact Position.lt_irrefl _ h

private theorem mark?_eq_none_iff {m : Mark} : e.mark? m = none ↔ e.Damages m.range := by
  unfold mark?
  split <;> simp_all

/-- A replacement of text between two pieces of the buffer tracks the marks that it moves along. -/
private theorem Splices.tracks (h : e.Splices b b' before old cs after)
    (hmarks : b'.marks = b.marks.filterMap e.mark?) (hb : ∀ m ∈ b.marks, b.Holds m.range) :
    b.Tracks b' before old cs after e.mark? where
  chars := h.chars
  chars' := h.chars'
  marks := hmarks
  lost m hm := mark?_eq_none_iff.trans (h.damages_iff_loses (hb m hm))
  kept m hm n hn := by
    obtain ⟨hundamaged, rfl⟩ := mark?_eq_some hn
    obtain ⟨front, piece, rest, hne, hspans⟩ := (hb m hm).exists_spans
    have hfollows := h.follows_moved ⟨front, rest, hspans⟩ hne hundamaged
    exact ⟨rfl, rfl, hfollows.holds, hfollows⟩
  order m hm n hn m' n' hm' hn' := by
    obtain ⟨hundamaged, rfl⟩ := mark?_eq_some hm'
    obtain ⟨hundamaged', rfl⟩ := mark?_eq_some hn'
    exact moved_start_lt_iff h.start_le_newStop (hb m hm).2.2 (hb n hn).2.2 hundamaged hundamaged'

end Change

namespace Buffer

/-- Replacing the text between two positions, wherever they are: the ends are moved into the text, and the
marks follow what happens between them. -/
theorem tracks_replaceRange {b : Buffer} (hb : ∀ m ∈ b.marks, b.Holds m.range) (text : String)
    (start stop : Position) :
    ∃ before old after follow, b.clamp start = origin.after before ∧
      b.clamp (stop.max (b.clamp start)) = origin.after (before ++ old) ∧
      b.Tracks (b.replaceRange text start stop) before old text.toList after follow := by
  obtain ⟨before, old, after, h⟩ := Change.splices_replaceRange b text start stop
  exact ⟨before, old, after, _, h.start, h.stop, h.tracks rfl hb⟩

/-- Two lines with a mark at the end of the first, a mark that reaches over the line feed, and one on the
second. -/
def threeMarks : Buffer :=
  let info : MarkInfo := ⟨.placeholder, none, none⟩
  let b := ((ofText "abcd\nefgh").addMark ⟨⟨0, 1⟩, ⟨0, 3⟩⟩ info).2
  let b := (b.addMark ⟨⟨0, 3⟩, ⟨1, 1⟩⟩ info).2
  (b.addMark ⟨⟨1, 2⟩, ⟨1, 4⟩⟩ info).2

/-- A text of two lines that is put in where two of the marks touch, and far behind the end of the
text. -/
theorem tracks_threeMarks :
    (∀ m ∈ threeMarks.marks, threeMarks.Holds m.range) ∧
      (threeMarks.replaceRange "x\ny" ⟨0, 3⟩ ⟨0, 3⟩).marks.map (·.range) =
        [⟨⟨0, 1⟩, ⟨0, 3⟩⟩, ⟨⟨1, 1⟩, ⟨2, 1⟩⟩, ⟨⟨2, 2⟩, ⟨2, 4⟩⟩] ∧
      (∃ before old after follow, threeMarks.clamp ⟨0, 3⟩ = origin.after before ∧
        threeMarks.clamp (Position.max ⟨0, 3⟩ (threeMarks.clamp ⟨0, 3⟩)) = origin.after (before ++ old) ∧
        threeMarks.Tracks (threeMarks.replaceRange "x\ny" ⟨0, 3⟩ ⟨0, 3⟩)
          before old "x\ny".toList after follow) ∧
      (threeMarks.replaceRange "" ⟨1, 3⟩ ⟨9, 9⟩).marks.map (·.range) =
        [⟨⟨0, 1⟩, ⟨0, 3⟩⟩, ⟨⟨0, 3⟩, ⟨1, 1⟩⟩] ∧
      ∃ before old after follow, threeMarks.clamp ⟨1, 3⟩ = origin.after before ∧
        threeMarks.clamp (Position.max ⟨9, 9⟩ (threeMarks.clamp ⟨1, 3⟩)) = origin.after (before ++ old) ∧
        threeMarks.Tracks (threeMarks.replaceRange "" ⟨1, 3⟩ ⟨9, 9⟩) before old "".toList after follow :=
  have hb : ∀ m ∈ threeMarks.marks, threeMarks.Holds m.range := by decide +kernel
  ⟨hb, by decide +kernel, tracks_replaceRange hb "x\ny" ⟨0, 3⟩ ⟨0, 3⟩, by decide +kernel,
    tracks_replaceRange hb "" ⟨1, 3⟩ ⟨9, 9⟩⟩

end Buffer

end PassageEditor
