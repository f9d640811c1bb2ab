import PassageEditor.Text.Line

/-!
# Columns of byte offsets

A column is sent to the byte at which its character begins, and that byte is sent back to the column
(`charColumn?_byteOffset`), so an offset has just the column whose characters come before it
(`charColumn?_eq_some_iff`).  Hence the two ways to tell a place of a line agree in everything, and a
range of bytes and a range of columns have the same text (`samePlaces`).
-/

namespace PassageEditor.Text

variable {line cs : List Char} {b b' c c' : Nat}

private theorem byteLength_append (cs ds : List Char) :
    byteLength (cs ++ ds) = byteLength cs + byteLength ds := by
  induction cs with
  | nil => simp [byteLength]
  | cons c cs ih => rw [List.cons_append, byteLength, byteLength, ih, Nat.add_assoc]

private theorem byteLength_eq_utf8ByteSize (cs : List Char) :
    byteLength cs = (String.ofList cs).utf8ByteSize := by
  induction cs with
  | nil => rfl
  | cons c cs ih => rw [byteLength, ih, String.ofList_cons, String.utf8ByteSize_append,
    String.utf8ByteSize_singleton]

/-! ### Offsets of columns -/

/-- A column and what stands from there on: the bytes before the one are those of the whole without the
other. -/
private theorem byteOffset_add_byteLength_drop (line : List Char) (c : Nat) :
    byteOffset line c + byteLength (line.drop c) = byteLength line := by
  rw [byteOffset, ← byteLength_append, List.take_append_drop]

private theorem byteOffset_le_byteLength (line : List Char) (c : Nat) :
    byteOffset line c ≤ byteLength line :=
  byteOffset_add_byteLength_drop line c ▸ Nat.le_add_right _ _

/-- Past the end of the line a column counts as the end. -/
private theorem byteOffset_min (line : List Char) (c : Nat) :
    byteOffset line (min c line.length) = byteOffset line c := by
  rw [byteOffset, byteOffset, ← List.take_eq_take_min]

/-- From one column to a later one there are the bytes of the characters between them. -/
private theorem byteOffset_of_le (line : List Char) (h : c ≤ c') :
    byteOffset line c' = byteOffset line c + byteLength ((line.drop c).take (c' - c)) := by
  rw [byteOffset, byteOffset, ← byteLength_append, ← List.take_add, Nat.add_sub_cancel' h]

private theorem byteOffset_mono (line : List Char) (h : c ≤ c') :
    byteOffset line c ≤ byteOffset line c' :=
  byteOffset_of_le line h ▸ Nat.le_add_right _ _

private theorem byteLength_pos (hne : cs ≠ []) : 0 < byteLength cs := by
  obtain ⟨d, ds, rfl⟩ := List.exists_cons_of_ne_nil hne
  exact Nat.lt_of_lt_of_le d.utf8Size_pos (Nat.le_add_right _ _)

private theorem byteOffset_lt (h : c < c') (hc : c < line.length) :
    byteOffset line c < byteOffset line c' := by
  rw [byteOffset_of_le line (Nat.le_of_lt h)]
  refine Nat.lt_add_of_pos_right (byteLength_pos fun hnil => ?_)
  have hlength := congrArg List.length hnil
  rw [List.length_take, List.length_drop, List.length_nil] at hlength
  omega

/-! ### Columns of offsets -/

/-- The bytes of the first characters lead behind them. -/
private theorem columnOf?_byteLength (cs ds : List Char) :
    columnOf? (cs ++ ds) (byteLength cs) = some cs.length := by
  induction cs with
  | nil => cases ds <;> rfl
  | cons c cs ih =>
    obtain ⟨size, hsize⟩ : ∃ size, c.utf8Size = size + 1 := Nat.exists_eq_add_one.2 c.utf8Size_pos
    have hbytes : byteLength (c :: cs) = byteLength cs + size + 1 := by
      rw [byteLength, hsize]
      omega
    have hrest : byteLength cs + size + 1 - c.utf8Size = byteLength cs := by omega
    rw [hbytes, List.cons_append, columnOf?, if_pos (by omega), hrest, ih,
      Option.map_some, List.length_cons]

/-- Walking over the characters ends at a column only if their bytes come out even there. -/
private theorem byteOffset_of_columnOf? (h : columnOf? cs b = some c) :
    c ≤ cs.length ∧ byteOffset cs c = b := by
  fun_induction columnOf? cs b generalizing c with
  | case1 cs =>
    obtain rfl := Option.some.inj h
    exact ⟨Nat.zero_le _, rfl⟩
  | case2 => simp at h
  | case3 d cs b hfits ih =>
    obtain ⟨c, hc, rfl⟩ := Option.map_eq_some_iff.1 h
    obtain ⟨hle, hoffset⟩ := ih hc
    refine ⟨Nat.succ_le_succ hle, ?_⟩
    rw [byteOffset, List.take_succ_cons, byteLength, ← byteOffset, hoffset]
    omega
  | case4 => simp at h

theorem charColumn?_byteOffset {line : List Char} {column : Nat} (h : column ≤ line.length) :
    charColumn? line (byteOffset line column) = some column := by
  have hcolumn := columnOf?_byteLength (line.take column) (line.drop column)
  rw [List.take_append_drop, List.length_take, Nat.min_eq_left h] at hcolumn
  rw [charColumn?, Nat.min_eq_left (byteOffset_le_byteLength line column), byteOffset, hcolumn]

/-- An offset that is moved into the line has the column whose characters come before it. -/
theorem charColumn?_eq_some_iff :
    charColumn? line b = some c ↔ c ≤ line.length ∧ byteOffset line c = min b (byteLength line) := by
  refine ⟨byteOffset_of_columnOf?, fun ⟨hle, hoffset⟩ => ?_⟩
  have hcolumn := charColumn?_byteOffset hle
  rwa [charColumn?, Nat.min_eq_left (byteOffset_le_byteLength line c), hoffset] at hcolumn

private theorem charColumn?_mono (hle : b ≤ b') (hc : charColumn? line b = some c)
    (hc' : charColumn? line b' = some c') :
    c ≤ c' := by
  obtain ⟨hin, hoffset⟩ := charColumn?_eq_some_iff.1 hc
  obtain ⟨hin', hoffset'⟩ := charColumn?_eq_some_iff.1 hc'
  refine Nat.not_lt.1 fun hlt => ?_
  have hback := byteOffset_lt hlt (Nat.lt_of_lt_of_le hlt hin)
  omega

/-! ### Places of a line -/

/-- The boundaries between characters are the offsets of the columns. -/
private theorem isValid_iff_exists_byteOffset {line : String} :
    (⟨b⟩ : String.Pos.Raw).IsValid line ↔ ∃ c, c ≤ line.length ∧ byteOffset line.toList c = b := by
  rw [String.Pos.Raw.isValid_iff_exists_take_toList]
  constructor
  · rintro ⟨c, hc⟩
    refine ⟨min c line.length, Nat.min_le_right _ _, ?_⟩
    rw [← String.length_toList, byteOffset_min, byteOffset, byteLength_eq_utf8ByteSize, ← hc]
  · rintro ⟨c, -, rfl⟩
    exact ⟨c, byteLength_eq_utf8ByteSize _⟩

/-- The bytes of a piece of a text, behind those of what stands before it. -/
private theorem extract_between (front piece back : List Char) :
    (String.ofList (front ++ (piece ++ back))).toByteArray.extract (byteLength front)
      (byteLength front + byteLength piece) = (String.ofList piece).toByteArray := by
  rw [String.ofList_append, String.ofList_append, String.toByteArray_append, String.toByteArray_append,
    byteLength_eq_utf8ByteSize, byteLength_eq_utf8ByteSize, ← String.size_toByteArray,
    ← String.size_toByteArray]
  exact (ByteArray.extract_append_size_add (i := 0)).trans (ByteArray.extract_append_eq_left rfl)

/-- The bytes from one column to a later one are those of the characters between them. -/
private theorem extract_byteOffset (line : String) (h : c ≤ c') :
    line.toByteArray.extract (byteOffset line.toList c) (byteOffset line.toList c') =
      (String.ofList ((line.toList.drop c).take (c' - c))).toByteArray := by
  have hsplit : line = String.ofList (line.toList.take c ++
      ((line.toList.drop c).take (c' - c) ++ (line.toList.drop c).drop (c' - c))) := by
    rw [List.take_append_drop, List.take_append_drop, String.ofList_toList]
  rw [byteOffset_of_le line.toList h, byteOffset,
    ← extract_between _ _ ((line.toList.drop c).drop (c' - c)), ← hsplit]

/-- Columns and byte offsets of a line as two ways to tell a place in it. -/
structure SamePlaces (line : String) : Prop where
  /-- An offset, cut to the length of the line, has a column unless it lies inside a character. -/
  column_iff : ∀ b, (charColumn? line.toList b).isSome ↔
    (⟨min b line.utf8ByteSize⟩ : String.Pos.Raw).IsValid line
  /-- A boundary between characters is sent to its column and back. -/
  offset_column : ∀ b, (⟨b⟩ : String.Pos.Raw).IsValid line →
    ∃ c, charColumn? line.toList b = some c ∧ byteOffset line.toList c = b
  /-- A column is sent to its offset and back, or to the end of the line if it lies behind that. -/
  column_offset : ∀ c, charColumn? line.toList (byteOffset line.toList c) = some (min c line.length)
  column_mono : ∀ b b' c c', b ≤ b' → charColumn? line.toList b = some c →
    charColumn? line.toList b' = some c' →
    c ≤ c'
  offset_mono : ∀ c c', c ≤ c' → byteOffset line.toList c ≤ byteOffset line.toList c'
  /-- A range of bytes between two boundaries has the characters of the range of their columns. -/
  same_text : ∀ b b', (⟨b⟩ : String.Pos.Raw).IsValid line →
    (⟨b'⟩ : String.Pos.Raw).IsValid line → b ≤ b' →
    ∃ c c', charColumn? line.toList b = some c ∧ charColumn? line.toList b' = some c' ∧
      line.toByteArray.extract b b' = (String.ofList ((line.toList.drop c).take (c' - c))).toByteArray

theorem samePlaces (line : String) : SamePlaces line where
  column_iff b := by
    rw [isValid_iff_exists_byteOffset, Option.isSome_iff_exists]
    refine exists_congr fun c => ?_
    rw [charColumn?_eq_some_iff, String.length_toList, byteLength_eq_utf8ByteSize, String.ofList_toList]
  offset_column b hb := by
    obtain ⟨c, hc, rfl⟩ := isValid_iff_exists_byteOffset.1 hb
    exact ⟨c, charColumn?_byteOffset (by rwa [String.length_toList]), rfl⟩
  column_offset c := by
    rw [← byteOffset_min, charColumn?_byteOffset (Nat.min_le_right _ _), String.length_toList]
  column_mono _ _ _ _ := charColumn?_mono
  offset_mono _ _ := byteOffset_mono line.toList
  same_text b b' hb hb' hle := by
    obtain ⟨c, hc, rfl⟩ := isValid_iff_exists_byteOffset.1 hb
    obtain ⟨c', hc', rfl⟩ := isValid_iff_exists_byteOffset.1 hb'
    rw [← String.length_toList] at hc hc'
    have hcolumn := charColumn?_byteOffset hc
    have hcolumn' := charColumn?_byteOffset hc'
    exact ⟨c, c', hcolumn, hcolumn', extract_byteOffset line (charColumn?_mono hle hcolumn hcolumn')⟩

/-- A line of characters with two, four and one bytes. -/
example : charColumn? "é🚀x".toList 2 = some 1 ∧ charColumn? "é🚀x".toList 3 = none ∧
    byteOffset "é🚀x".toList 2 = 6 := by
  decide

end PassageEditor.Text
