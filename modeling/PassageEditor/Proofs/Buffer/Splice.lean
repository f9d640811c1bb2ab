import Mathlib.Data.List.Induction
import PassageEditor.Buffer.Edit
import PassageEditor.Proofs.Text.Lines

/-!
# Edits as edits of the text

A position inside a buffer cuts its text in two (`textBefore`, `textAfter`), and an edit of the lines is
an edit of the text between two such cuts (`chars_replaceRange`).  The position of a character cuts the
text just before it (`cut_after`).  Setting a text replaces what lies between the longest common beginning
and the longest common end of what remains (`Buffer.Differ`, `difference?_cases`), and so sets it
(`text_setText`).
-/

namespace PassageEditor

/-! ### Moving on -/

namespace Position

theorem after_append (p : Position) (cs ds : List Char) : p.after (cs ++ ds) = (p.after cs).after ds :=
  List.foldl_append

theorem le_advance (p : Position) (c : Char) : p ≤ p.advance c := by
  unfold advance
  split
  · exact .inl (Nat.lt_succ_self _)
  · exact .inr ⟨rfl, Nat.le_succ _⟩

theorem le_after (p : Position) (cs : List Char) : p ≤ p.after cs := by
  induction cs generalizing p with
  | nil => exact le_refl p
  | cons c cs ih => exact le_trans (le_advance p c) (ih (p.advance c))

/-- The position after some characters: as many lines down as they have line feeds, at the end of the last
line. -/
theorem after_origin {cs x : List Char} {as : List (List Char)} (h : Text.lines cs = as ++ [x]) :
    origin.after cs = ⟨as.length, x.length⟩ := by
  induction cs using List.reverseRecOn generalizing as x with
  | nil =>
    have : as = [] ∧ x = [] := by
      cases as with
      | nil => simpa [Text.lines, Text.splitAt, eq_comm] using h
      | cons a as => simp [Text.lines, Text.splitAt] at h
    simp [this, origin, after]
  | append_singleton cs c ih =>
    obtain ⟨as', x', hcs⟩ := Text.exists_splitAt_eq_append '\n' cs
    rw [after_append, ih hcs]
    by_cases hc : c = '\n'
    · have hsingle : Text.splitAt '\n' [c] = [] :: [[]] := by simp [Text.splitAt, hc]
      have hlines := (Text.splitAt_append hcs hsingle).symm.trans h
      rw [List.append_nil, List.append_cons] at hlines
      obtain ⟨rfl, hx⟩ := List.append_inj' hlines rfl
      obtain rfl := List.singleton_inj.1 hx
      simp [after, advance, hc]
    · have hsingle : Text.splitAt '\n' [c] = [c] :: [] := by simp [Text.splitAt, hc]
      have hlines := (Text.splitAt_append hcs hsingle).symm.trans h
      obtain ⟨rfl, hx⟩ := List.append_inj' hlines rfl
      obtain rfl := List.singleton_inj.1 hx
      simp [after, advance, hc]

end Position

namespace Buffer

/-! ### Cutting the text at a position -/

/-- The text up to a position. -/
def textBefore (b : Buffer) (p : Position) : List Char :=
  Text.unlines (b.lines.take p.line ++ [(b.line p.line).take p.ch])

/-- The text from a position on. -/
def textAfter (b : Buffer) (p : Position) : List Char :=
  Text.unlines ((b.line p.line).drop p.ch :: b.lines.drop (p.line + 1))

/-- Whether a position is one of the text. -/
def Inside (b : Buffer) (p : Position) : Prop := p.line < b.lines.length ∧ p.ch ≤ (b.line p.line).length

/-- Where a position is moved to depends on the lines alone. -/
theorem clamp_congr {b c : Buffer} (h : b.lines = c.lines) : b.clamp = c.clamp := by
  funext p
  unfold clamp endPosition line
  rw [h]

theorem clamp_of_inside {b : Buffer} {p : Position} (h : b.Inside p) : b.clamp p = p := by
  obtain ⟨hl, hc⟩ := h
  have : ¬ b.endPosition.line < p.line := by
    simp only [endPosition]
    omega
  rw [clamp, if_neg this, Nat.min_eq_left hc]

theorem inside_clamp (b : Buffer) (p : Position) : b.Inside (b.clamp p) := by
  have hpos : 0 < b.lines.length := List.length_pos_iff.2 b.nonempty
  unfold clamp
  split
  · exact ⟨Nat.sub_lt hpos Nat.one_pos, Nat.le_refl _⟩
  · rename_i h
    simp only [endPosition] at h
    exact ⟨by show p.line < _; omega, Nat.min_le_right _ _⟩

private theorem lines_chars (b : Buffer) : Text.lines b.chars = b.lines :=
  Text.splitAt_joinWith b.nonempty b.unbroken

theorem lines_text (b : Buffer) : Text.lines b.text.toList = b.lines := by
  rw [text, String.toList_ofList, lines_chars]

/-- What the lines become is what the text becomes. -/
private theorem unlines_splicedLines (b : Buffer) (cs : List Char) (start stop : Position) :
    Text.unlines (b.splicedLines cs start stop) = b.textBefore start ++ cs ++ b.textAfter stop := by
  unfold Text.unlines splicedLines Text.lines textBefore textAfter
  rw [Text.joinWith_joined _ _ (Text.splitAt_ne_nil _ _), Text.joinWith_splitAt,
    Text.joinWith_glue, Text.joinWith_glue]
  rfl

/-- Replacing a range replaces the text between two cuts. -/
theorem chars_replaceRange (b : Buffer) (text : String) (start stop : Position) :
    (b.replaceRange text start stop).chars =
      b.textBefore (b.clamp start) ++ text.toList ++ b.textAfter (b.clamp (stop.max (b.clamp start))) :=
  b.unlines_splicedLines text.toList (b.clamp start) (b.clamp (stop.max (b.clamp start)))

/-- Walking over the characters before a cut leads to the position of the cut. -/
theorem cut_after {b : Buffer} {before after : List Char} (h : b.chars = before ++ after) :
    let p := Position.origin.after before
    b.Inside p ∧ b.textBefore p = before ∧ b.textAfter p = after := by
  obtain ⟨as, x, ha⟩ := Text.exists_splitAt_eq_append '\n' before
  obtain ⟨y, bs, hb⟩ := Text.exists_splitAt_eq_cons '\n' after
  have hlines : b.lines = as ++ (x ++ y) :: bs := by
    rw [← lines_chars, h, Text.lines, Text.splitAt_append ha hb]
  have hline : b.line as.length = x ++ y := by simp [line, hlines]
  intro p
  have hp : p = ⟨as.length, x.length⟩ := Position.after_origin ha
  rw [hp]
  refine ⟨⟨by simp [hlines], by simp [hline]⟩, ?_, ?_⟩
  · simp only [textBefore, hline, hlines, List.take_left, Text.unlines]
    rw [← ha, Text.joinWith_splitAt]
  · have hdrop : b.lines.drop (as.length + 1) = bs := by
      rw [hlines, List.append_cons, List.drop_left' (by simp)]
    simp only [textAfter, hline, hdrop, List.drop_left, Text.unlines]
    rw [← hb, Text.joinWith_splitAt]

/-! ### Setting the whole text -/

private theorem take_commonPrefix (as bs : List Char) :
    as.take (commonPrefix as bs) = bs.take (commonPrefix as bs) := by
  induction as generalizing bs with
  | nil => simp [commonPrefix]
  | cons a as ih =>
    cases bs with
    | nil => simp [commonPrefix]
    | cons b bs =>
      unfold commonPrefix
      split
      · rename_i h
        rw [List.take_succ_cons, List.take_succ_cons, ih, h]
      · rfl

private theorem commonPrefix_le (as bs : List Char) :
    commonPrefix as bs ≤ as.length ∧ commonPrefix as bs ≤ bs.length := by
  induction as generalizing bs with
  | nil => simp [commonPrefix]
  | cons a as ih =>
    cases bs with
    | nil => simp [commonPrefix]
    | cons b bs =>
      have := ih bs
      unfold commonPrefix
      split
      · simp only [List.length_cons]
        omega
      · simp

private theorem prefix_take_commonPrefix {cs as bs : List Char} (ha : cs <+: as) (hb : cs <+: bs) :
    cs <+: as.take (commonPrefix as bs) := by
  induction cs generalizing as bs with
  | nil => exact List.nil_prefix
  | cons c cs ih =>
    obtain ⟨as, rfl⟩ := ha
    obtain ⟨bs, rfl⟩ := hb
    rw [List.cons_append, List.cons_append, commonPrefix, if_pos rfl,
      List.take_succ_cons, List.cons_prefix_cons]
    exact ⟨rfl, ih (List.prefix_append _ _) (List.prefix_append _ _)⟩

/-- Two cuts of the text are where a replacement between them starts and stops. -/
private theorem clamp_between {b : Buffer} {before old after : List Char}
    (h : b.chars = before ++ old ++ after) :
    b.clamp (Position.origin.after before) = Position.origin.after before ∧
      b.clamp ((Position.origin.after (before ++ old)).max (Position.origin.after before)) =
        Position.origin.after (before ++ old) := by
  obtain ⟨hin, -⟩ := cut_after (h.trans (List.append_assoc before old after))
  obtain ⟨hin', -⟩ := cut_after h
  have hle : Position.origin.after before ≤ Position.origin.after (before ++ old) := by
    rw [Position.after_append]
    exact Position.le_after _ _
  have hmax : (Position.origin.after (before ++ old)).max (Position.origin.after before) =
      Position.origin.after (before ++ old) := by
    unfold Position.max
    split
    · exact Position.le_antisymm hle ‹_›
    · rfl
  rw [clamp_of_inside hin, hmax, clamp_of_inside hin']
  exact ⟨rfl, rfl⟩

/-- Replacing what lies between two cuts by a text. -/
theorem chars_replace_between {b : Buffer} {before old after : List Char}
    (h : b.chars = before ++ old ++ after) (new : List Char) :
    (b.replaceRange (String.ofList new) (Position.origin.after before)
      (Position.origin.after (before ++ old))).chars = before ++ new ++ after := by
  obtain ⟨-, hbefore, -⟩ := cut_after (h.trans (List.append_assoc before old after))
  obtain ⟨-, -, hafter⟩ := cut_after h
  obtain ⟨hstart, hstop⟩ := clamp_between h
  rw [chars_replaceRange, hstart, hstop, hbefore, hafter, String.toList_ofList]

/-- How a text differs from another: both begin with `front`, the longest beginning that they share, and
what is left of them ends with `back`, the longest end that is left to both. -/
structure Differ (cs ds front old new back : List Char) : Prop where
  left : cs = front ++ (old ++ back)
  right : ds = front ++ (new ++ back)
  longest_front : ∀ xs, xs <+: cs → xs <+: ds → xs <+: front
  longest_back : ∀ xs, xs <:+ old ++ back → xs <:+ new ++ back → xs <:+ back

/-- The common end of two texts is the common beginning of the reversed ones. -/
private theorem exists_commonSuffix (as bs : List Char) :
    let stop := commonPrefix as.reverse bs.reverse
    ∃ back, as = as.take (as.length - stop) ++ back ∧ bs = bs.take (bs.length - stop) ++ back ∧
      ∀ xs, xs <:+ as → xs <:+ bs → xs <:+ back := by
  intro stop
  have hback : as.drop (as.length - stop) = bs.drop (bs.length - stop) := by
    have hrev := congrArg List.reverse (take_commonPrefix as.reverse bs.reverse)
    rwa [List.reverse_take, List.reverse_take, List.reverse_reverse,
      List.reverse_reverse, List.length_reverse,
      List.length_reverse] at hrev
  refine ⟨as.drop (as.length - stop), (List.take_append_drop _ _).symm, ?_, ?_⟩
  · rw [hback, List.take_append_drop]
  · intro xs ha hb
    have hlongest := prefix_take_commonPrefix (List.reverse_prefix.2 ha) (List.reverse_prefix.2 hb)
    rwa [← List.reverse_suffix, List.reverse_reverse, List.reverse_take, List.reverse_reverse,
      List.length_reverse] at hlongest

/-- The lengths of the common beginning and of the common end of what remains tell how two texts
differ. -/
theorem exists_differ (cs ds : List Char) :
    let start := commonPrefix cs ds
    let stop := commonPrefix (cs.drop start).reverse (ds.drop start).reverse
    ∃ back, Differ cs ds (cs.take start) ((cs.drop start).take (cs.length - start - stop))
      ((ds.drop start).take (ds.length - start - stop)) back := by
  intro start stop
  have hstart : cs.take start = ds.take start := take_commonPrefix cs ds
  obtain ⟨back, hcs, hds, hlongest⟩ := exists_commonSuffix (cs.drop start) (ds.drop start)
  rw [List.length_drop] at hcs hds
  refine ⟨back, ?_, ?_, ?_, ?_⟩
  · rw [← hcs, List.take_append_drop]
  · rw [hstart, ← hds, List.take_append_drop]
  · exact fun xs => prefix_take_commonPrefix
  · rw [← hcs, ← hds]
    exact hlongest

theorem Differ.unique {cs ds front old new back front' old' new' back' : List Char}
    (h : Differ cs ds front old new back) (h' : Differ cs ds front' old' new' back') :
    front = front' ∧ old = old' ∧ new = new' ∧ back = back' := by
  have hfront : front = front' := by
    refine (h'.longest_front front ⟨_, h.left.symm⟩ ⟨_, h.right.symm⟩).eq_of_length_le ?_
    exact (h.longest_front front' ⟨_, h'.left.symm⟩ ⟨_, h'.right.symm⟩).length_le
  subst hfront
  have hleft := List.append_cancel_left (h.left.symm.trans h'.left)
  have hright := List.append_cancel_left (h.right.symm.trans h'.right)
  have hback : back = back' := by
    refine (h'.longest_back back ⟨old, hleft⟩ ⟨new, hright⟩).eq_of_length_le ?_
    exact (h.longest_back back' ⟨old', hleft.symm⟩ ⟨new', hright.symm⟩).length_le
  subst hback
  exact ⟨rfl, List.append_cancel_right hleft, List.append_cancel_right hright, rfl⟩

/-- A text differs from itself in nothing, and all of it is the common beginning. -/
theorem Differ.of_same {cs front old new back : List Char} (h : Differ cs cs front old new back) :
    front = cs ∧ old = [] ∧ new = [] ∧ back = [] := by
  have hall : front = cs := by
    refine List.IsPrefix.eq_of_length_le ⟨_, h.left.symm⟩ ?_
    exact (h.longest_front cs List.prefix_rfl List.prefix_rfl).length_le
  obtain ⟨rfl, rfl⟩ : old = [] ∧ back = [] := by simpa [hall] using h.left
  exact ⟨hall, rfl, by simpa [hall] using h.right, rfl⟩

/-- For a new text nothing has to be done, or what is old gives way to what is new. -/
theorem difference?_cases (b : Buffer) (text : String) :
    ∃ front old new back, Differ b.chars text.toList front old new back ∧
      (b.chars = text.toList ∧ b.difference? text = none ∨
        b.difference? text =
          some (String.ofList new, Position.origin.after front,
            Position.origin.after (front ++ old))) := by
  obtain ⟨back, hdiffer⟩ := exists_differ b.chars text.toList
  refine ⟨_, _, _, back, hdiffer, ?_⟩
  unfold difference?
  by_cases hsame : b.chars = text.toList
  · exact .inl ⟨hsame, if_pos hsame⟩
  · refine .inr ?_
    simp only [hsame, ↓reduceIte, positionAt]
    congr 4
    rw [← List.take_add]
    congr 1
    have hle := commonPrefix_le (b.chars.drop (commonPrefix b.chars text.toList)).reverse
      (text.toList.drop (commonPrefix b.chars text.toList)).reverse
    have hle' := commonPrefix_le b.chars text.toList
    rw [List.length_reverse, List.length_drop] at hle
    omega

theorem setText_cases (b : Buffer) (text : String) :
    ∃ front old new back, Differ b.chars text.toList front old new back ∧
      (b.chars = text.toList ∧ b.setText text = b ∨
        b.setText text =
          b.replaceRange (String.ofList new) (Position.origin.after front)
            (Position.origin.after (front ++ old))) := by
  obtain ⟨front, old, new, back, hdiffer, h⟩ := b.difference?_cases text
  refine ⟨front, old, new, back, hdiffer, ?_⟩
  unfold setText
  rcases h with ⟨hsame, h⟩ | h
  · rw [h]
    exact .inl ⟨hsame, rfl⟩
  · rw [h]
    exact .inr rfl

theorem text_setText (b : Buffer) (text : String) : (b.setText text).text = text := by
  suffices h : (b.setText text).chars = text.toList by rw [Buffer.text, h, String.ofList_toList]
  obtain ⟨front, old, new, back, hdiffer, ⟨hsame, heq⟩ | heq⟩ := b.setText_cases text
  · rw [heq, hsame]
  · have hold := hdiffer.left
    rw [← List.append_assoc] at hold
    rw [heq, chars_replace_between hold, hdiffer.right, List.append_assoc]

/-! ### Edits within a line

What is put between two columns of a line takes the place of the text between them and leaves the rest of
the line, and all other lines, as they are.  A text without a line feed changes that line alone. -/

section OnLine

variable {b : Buffer} {text : String} {l ch start stop : Nat} {line : List Char}

private theorem line_of_getElem? (h : b.lines[l]? = some line) : b.line l = line := by
  rw [Buffer.line, h, Option.getD_some]

/-- On a line, a column past its end counts as the end. -/
private theorem clamp_of_getElem? (h : b.lines[l]? = some line) (ch : Nat) :
    b.clamp ⟨l, ch⟩ = ⟨l, min ch line.length⟩ := by
  have hlast : ¬ b.endPosition.line < l := by
    have hlt := (List.getElem?_eq_some_iff.1 h).1
    simp only [endPosition]
    omega
  rw [clamp, if_neg hlast, line_of_getElem? h]

theorem lines_replaceRange_between (text : String) (hline : b.lines[l]? = some line)
    (hle : start ≤ stop) :
    (b.replaceRange text ⟨l, start⟩ ⟨l, stop⟩).lines =
      b.lines.take l ++ (Text.lines (line.take start ++ text.toList ++ line.drop stop) ++
        b.lines.drop (l + 1)) := by
  have hmax : (⟨l, stop⟩ : Position).max ⟨l, min start line.length⟩ = ⟨l, stop⟩ := by
    unfold Position.max
    split
    · rename_i hback
      rw [Position.le_def] at hback
      dsimp only at hback
      rw [Position.mk.injEq]
      omega
    · rfl
  show b.splicedLines text.toList (b.clamp ⟨l, start⟩)
    (b.clamp ((⟨l, stop⟩ : Position).max (b.clamp ⟨l, start⟩))) = _
  rw [clamp_of_getElem? hline, hmax, clamp_of_getElem? hline]
  unfold splicedLines
  dsimp only
  rw [line_of_getElem? hline, ← List.take_eq_take_min, ← List.drop_eq_drop_min]

theorem lines_replaceRange_onLine (hline : b.lines[l]? = some line) (hle : start ≤ stop)
    (htext : '\n' ∉ text.toList) :
    (b.replaceRange text ⟨l, start⟩ ⟨l, stop⟩).lines =
      b.lines.set l (line.take start ++ text.toList ++ line.drop stop) := by
  have hunbroken : '\n' ∉ line.take start ++ text.toList ++ line.drop stop := by
    have hmem : '\n' ∉ line := b.unbroken line (List.mem_of_getElem? hline)
    simp only [List.mem_append, not_or]
    exact ⟨⟨fun h => hmem (List.mem_of_mem_take h), htext⟩, fun h => hmem (List.mem_of_mem_drop h)⟩
  rw [lines_replaceRange_between text hline hle, Text.lines, Text.splitAt_of_not_mem hunbroken,
    List.set_eq_take_append_cons_drop, if_pos (List.getElem?_eq_some_iff.1 hline).1]
  rfl

end OnLine

end Buffer

end PassageEditor
