import PassageEditor.Story.Id
import PassageEditor.Text.Line
import PassageEditor.Text.Position

/-!
# The editing buffer

The text of a passage while it is edited, as a list of lines, with the selections and the marks on it.
There is a line even where the text is empty, no line holds a line feed, and something is always selected,
be it a cursor.  A mark covers a range and may be tied to a widget; marks are numbered in the order of
their creation.
-/

namespace PassageEditor

/-- The number of a mark in its buffer. -/
structure MarkId where
  value : Nat
  deriving DecidableEq, Repr

/-- The number of a widget in its event hub. -/
structure WidgetId where
  value : Nat
  deriving DecidableEq, Repr

inductive MarkClass
  | placeholder
  | passageLink
  deriving DecidableEq, Repr

def MarkClass.name : MarkClass → String
  | placeholder => "placeholder"
  | passageLink => "passage-link"

/-- What a mark is, apart from where it stands. -/
structure MarkInfo where
  cls : MarkClass
  passage : Option PassageId
  widget : Option WidgetId
  deriving DecidableEq, Repr

structure Mark where
  id : MarkId
  info : MarkInfo
  range : Range
  deriving DecidableEq, Repr

/-- A list of suggestions shown over a range of the text. -/
structure Hints where
  range : Range
  labels : List String
  deriving DecidableEq, Repr

structure Buffer where
  lines : List (List Char)
  nonempty : lines ≠ []
  unbroken : ∀ line ∈ lines, '\n' ∉ line
  selections : List Selection
  selected : selections ≠ []
  /-- In the order of creation. -/
  marks : List Mark
  nextMark : Nat
  /-- The names of the syntax modes defined so far. -/
  modes : List String
  hints : Option Hints
  /-- The built-in commands run so far. -/
  executed : List String
  deriving DecidableEq

namespace Buffer

def ofText (text : String) : Buffer :=
  ⟨Text.lines text.toList, Text.splitAt_ne_nil _ _, fun _ h => Text.not_mem_of_mem_splitAt h,
    [Selection.cursor .origin], List.cons_ne_nil _ _, [], 0, [], none, []⟩

/-- The whole text as characters, a line feed between two lines. -/
def chars (b : Buffer) : List Char := Text.unlines b.lines

def text (b : Buffer) : String := String.ofList b.chars

/-- The characters of a line; none past the last line. -/
def line (b : Buffer) (i : Nat) : List Char := b.lines[i]?.getD []

/-- The position after the last character. -/
def endPosition (b : Buffer) : Position :=
  ⟨b.lines.length - 1, (b.line (b.lines.length - 1)).length⟩

/-- The nearest position inside the text: past the last line the end, past the end of a line its end. -/
def clamp (b : Buffer) (p : Position) : Position :=
  if b.endPosition.line < p.line then b.endPosition else ⟨p.line, min p.ch (b.line p.line).length⟩

/-- Where the cursor is: the head of the first selection. -/
def cursor (b : Buffer) : Position :=
  (b.selections.head?.map (·.head)).getD .origin

/-- The text of a line between two columns. -/
def lineRange (b : Buffer) (i start stop : Nat) : List Char :=
  ((b.line i).drop start).take (stop - start)

/-! ### Selections -/

/-- Selects a range, also one outside the text. -/
def selectOnly (b : Buffer) (s : Selection) : Buffer :=
  { b with selections := [s], selected := List.cons_ne_nil _ _ }

def setCursor (b : Buffer) (p : Position) : Buffer := b.selectOnly (.cursor p)

/-- Selects the ranges, each end moved into the text; an empty list changes nothing. -/
def setSelections (b : Buffer) (ranges : List Selection) : Buffer :=
  if h : ranges = [] then b
  else
    { b with
      selections := ranges.map fun s => ⟨b.clamp s.anchor, b.clamp s.head⟩
      selected := mt List.map_eq_nil_iff.1 h }

def select (b : Buffer) (anchor head : Position) : Buffer :=
  b.setSelections [⟨anchor, head⟩]

/-! ### Marks -/

def addMark (b : Buffer) (range : Range) (info : MarkInfo) : MarkId × Buffer :=
  (⟨b.nextMark⟩, { b with marks := b.marks ++ [⟨⟨b.nextMark⟩, info, range⟩], nextMark := b.nextMark + 1 })

def findMark? (b : Buffer) (id : MarkId) : Option Mark :=
  b.marks.find? (·.id = id)

/-- Whether the mark was there is the first component. -/
def clearMark (b : Buffer) (id : MarkId) : Bool × Buffer :=
  ((b.findMark? id).isSome, { b with marks := b.marks.filter (·.id ≠ id) })

/-- By start, and by number where two marks start together. -/
def markBefore (m n : Mark) : Bool :=
  m.range.start < n.range.start || (m.range.start = n.range.start && m.id.value ≤ n.id.value)

/-- The marks in document order. -/
def orderedMarks (b : Buffer) : List Mark :=
  b.marks.mergeSort markBefore

/-! ### Modes and hints -/

def defineMode (b : Buffer) (name : String) : Buffer :=
  { b with modes := name :: b.modes.filter (· ≠ name) }

def showHints (b : Buffer) (hints : Hints) : Buffer :=
  { b with hints := some hints }

def closeHints (b : Buffer) : Buffer :=
  { b with hints := none }

/-! ### Built-in commands -/

/-- Why a built-in command could not run. -/
inductive CommandError
  | unknown (name : String)
  deriving DecidableEq, Repr

def CommandError.message : CommandError → String
  | unknown name => "unknown editor command: " ++ name

/-- What the command of a name selects. -/
def builtin? (b : Buffer) (name : String) : Option Selection :=
  match name with
  | "selectAll" => some ⟨.origin, b.endPosition⟩
  | "goDocStart" => some (.cursor .origin)
  | "goDocEnd" => some (.cursor b.endPosition)
  | _ => none

def execCommand (b : Buffer) (name : String) : Except CommandError Buffer :=
  match b.builtin? name with
  | none => .error (.unknown name)
  | some selection => .ok { b.selectOnly selection with executed := b.executed ++ [name] }

end Buffer

end PassageEditor
