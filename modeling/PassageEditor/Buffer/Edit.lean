import PassageEditor.Buffer.Basic

/-!
# Editing the buffer

Every change of the text replaces a range by a new text.  Marks move with it: a mark that loses a
character is dropped, a mark before the change stays, a mark after it moves along.  Text put in at the
start of a mark moves the mark, and text put in at its end stays outside.

Where a mark moves to is counted in machine words, from the end of what is taken away.  For an end of a
mark that lies in front of it the difference falls below zero: a build that checks its arithmetic stops
there (`rebase?` and what is made of it, up to `Buffer.replaceRange?` and `Buffer.setText?`), and one that
does not wraps around (`rebase`, `Buffer.replaceRange`, `Buffer.setText`).
-/

namespace PassageEditor

namespace Position

/-- The position after one more character. -/
def advance (p : Position) (c : Char) : Position :=
  if c = '\n' then ⟨p.line + 1, 0⟩ else ⟨p.line, p.ch + 1⟩

/-- The position after the characters `cs` put in at `p`. -/
def after (p : Position) (cs : List Char) : Position := cs.foldl advance p

end Position

/-- A change of the text: the range that goes and the position after what comes in its place. -/
structure Change where
  start : Position
  stop : Position
  newStop : Position
  deriving DecidableEq, Repr

namespace Change

/-- As many values a machine word has. -/
def wordSize : Nat := UInt64.size

/-- What `n` becomes where `old` becomes `new`, wrapping around where `n` lies in front of `old`. -/
def rebase (old new n : Nat) : Nat :=
  if old ≤ n then new + (n - old) else (new + (wordSize + n - old)) % wordSize

/-- Where a position at or after the end of the replaced range moves to. -/
def shift (e : Change) (p : Position) : Position :=
  if p.line = e.stop.line then ⟨e.newStop.line, rebase e.stop.ch e.newStop.ch p.ch⟩
  else ⟨rebase e.stop.line e.newStop.line p.line, p.ch⟩

/-- Whether the change takes a character away from the range. -/
def Damages (e : Change) (r : Range) : Prop :=
  e.start < e.stop ∧ r.start < e.stop ∧ e.start < r.stop

instance (e : Change) (r : Range) : Decidable (e.Damages r) := inferInstanceAs (Decidable (_ ∧ _ ∧ _))

/-- Where a range that is not damaged moves to. -/
def moved (e : Change) (r : Range) : Range :=
  ⟨if r.start < e.start then r.start else e.shift r.start,
    if r.stop ≤ e.start then r.stop else e.shift r.stop⟩

/-- A mark after the change, if it is still there. -/
def mark? (e : Change) (m : Mark) : Option Mark :=
  if e.Damages m.range then none else some { m with range := e.moved m.range }

end Change

namespace Buffer

/-- The change made by replacing the text between two positions.  The start is moved into the text, and so
is the end, which is at least the start. -/
def changeAt (b : Buffer) (cs : List Char) (start stop : Position) : Change :=
  let start := b.clamp start
  ⟨start, b.clamp (stop.max start), start.after cs⟩

/-- The lines after the text between two positions inside the buffer is replaced. -/
def splicedLines (b : Buffer) (cs : List Char) (start stop : Position) : List (List Char) :=
  b.lines.take start.line ++
    (Text.lines ((b.line start.line).take start.ch ++ cs ++ (b.line stop.line).drop stop.ch) ++
      b.lines.drop (stop.line + 1))

private theorem splicedLines_ne_nil (b : Buffer) (cs : List Char) (start stop : Position) :
    b.splicedLines cs start stop ≠ [] := by
  simp [splicedLines, Text.lines, Text.splitAt_ne_nil]

private theorem unbroken_splicedLines (b : Buffer) (cs : List Char) (start stop : Position) :
    ∀ line ∈ b.splicedLines cs start stop, '\n' ∉ line := by
  intro line h
  unfold splicedLines at h
  rcases List.mem_append.1 h with h | h
  · exact b.unbroken line (List.mem_of_mem_take h)
  · rcases List.mem_append.1 h with h | h
    · exact Text.not_mem_of_mem_splitAt h
    · exact b.unbroken line (List.mem_of_mem_drop h)

/-- Replaces the text between two positions; the cursor ends up after the new text. -/
def replaceRange (b : Buffer) (text : String) (start stop : Position) : Buffer :=
  let change := b.changeAt text.toList start stop
  { b with
    lines := b.splicedLines text.toList change.start change.stop
    nonempty := b.splicedLines_ne_nil _ _ _
    unbroken := b.unbroken_splicedLines _ _ _
    marks := b.marks.filterMap change.mark?
    selections := [.cursor change.newStop]
    selected := List.cons_ne_nil _ _ }

/-- Puts a text in at the cursor. -/
def typeText (b : Buffer) (text : String) : Buffer :=
  b.replaceRange text b.cursor b.cursor

/-! ### Setting the whole text -/

/-- The length of the longest common beginning. -/
def commonPrefix : List Char → List Char → Nat
  | a :: as, b :: bs => if a = b then commonPrefix as bs + 1 else 0
  | _, _ => 0

/-- The position of a character of the text. -/
def positionAt (b : Buffer) (offset : Nat) : Position :=
  Position.origin.after (b.chars.take offset)

/-- What to put in and where for the buffer to have a new text, if it is another: what lies between the
longest common beginning and the longest common end of what remains. -/
def difference? (b : Buffer) (text : String) : Option (String × Position × Position) :=
  let old := b.chars
  let new := text.toList
  if old = new then none
  else
    let start := commonPrefix old new
    let stop := commonPrefix (old.drop start).reverse (new.drop start).reverse
    let inserted := (new.drop start).take (new.length - start - stop)
    some (String.ofList inserted, b.positionAt start, b.positionAt (old.length - stop))

/-- Gives the buffer a new text by replacing only what differs, so that marks outside of it survive. -/
def setText (b : Buffer) (text : String) : Buffer :=
  match b.difference? text with
  | none => b
  | some (inserted, start, stop) => b.replaceRange inserted start stop

end Buffer

end PassageEditor
