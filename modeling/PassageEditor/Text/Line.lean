/-!
# Lines and columns of a text

A text is cut at its line feeds.  Cutting and joining are inverse on lists of lines that hold no line
feed.  A place on a line is a column, or an offset into the bytes of the line.
-/

namespace PassageEditor.Text

/-- Cuts a text at every `sep`; the pieces do not hold it. -/
def splitAt (sep : Char) : List Char → List (List Char)
  | [] => [[]]
  | c :: cs =>
    if c = sep then [] :: splitAt sep cs
    else match splitAt sep cs with
      | [] => [[c]]
      | piece :: pieces => (c :: piece) :: pieces

/-- Joins the pieces with `sep` between them. -/
def joinWith (sep : Char) : List (List Char) → List Char
  | [] => []
  | [piece] => piece
  | piece :: pieces => piece ++ sep :: joinWith sep pieces

/-- The lines of a text. -/
def lines (cs : List Char) : List (List Char) := splitAt '\n' cs

/-- The text of some lines. -/
def unlines (ls : List (List Char)) : List Char := joinWith '\n' ls

theorem splitAt_ne_nil (sep : Char) (cs : List Char) : splitAt sep cs ≠ [] := by
  cases cs with
  | nil => simp [splitAt]
  | cons c cs =>
    unfold splitAt
    split
    · simp
    · split <;> simp

theorem not_mem_of_mem_splitAt {sep : Char} {cs piece : List Char} (h : piece ∈ splitAt sep cs) :
    sep ∉ piece := by
  induction cs generalizing piece with
  | nil =>
    obtain rfl := List.mem_singleton.1 h
    simp
  | cons c cs ih =>
    unfold splitAt at h
    split at h
    · rcases List.mem_cons.1 h with rfl | h
      · simp
      · exact ih h
    · rename_i hc
      split at h
      · obtain rfl := List.mem_singleton.1 h
        simpa using Ne.symm hc
      · rename_i p ps hs
        rw [hs] at ih
        rcases List.mem_cons.1 h with rfl | h
        · simpa [Ne.symm hc] using ih (List.mem_cons_self)
        · exact ih (List.mem_cons_of_mem p h)

theorem joinWith_splitAt (sep : Char) (cs : List Char) : joinWith sep (splitAt sep cs) = cs := by
  induction cs with
  | nil => rfl
  | cons c cs ih =>
    unfold splitAt
    split
    · rename_i h
      subst h
      cases hs : splitAt c cs with
      | nil => exact absurd hs (splitAt_ne_nil c cs)
      | cons p ps =>
        rw [hs] at ih
        simp [joinWith, ih]
    · split
      · rename_i hs
        exact absurd hs (splitAt_ne_nil sep cs)
      · rename_i p ps hs
        rw [hs] at ih
        cases ps with
        | nil => simpa [joinWith] using ih
        | cons q qs => simpa [joinWith] using ih

/-! ### Columns

Between a column, which counts characters, and an offset into the UTF-8 form of a line.  An offset inside
a character has no column. -/

/-- The number of bytes of the UTF-8 form. -/
def byteLength : List Char → Nat
  | [] => 0
  | c :: cs => c.utf8Size + byteLength cs

/-- The column of a byte offset that is not past the end. -/
def columnOf? : List Char → Nat → Option Nat
  | _, 0 => some 0
  | [], _ + 1 => none
  | c :: cs, b + 1 => if c.utf8Size ≤ b + 1 then (columnOf? cs (b + 1 - c.utf8Size)).map (· + 1) else none

/-- The column of a byte offset, which is first cut to the length of the line; none inside a character. -/
def charColumn? (line : List Char) (byte : Nat) : Option Nat :=
  columnOf? line (min byte (byteLength line))

/-- The byte offset of a column, which is first cut to the length of the line. -/
def byteOffset (line : List Char) (column : Nat) : Nat :=
  byteLength (line.take column)

end PassageEditor.Text
