import PassageEditor.Event.Hub
import PassageEditor.Story.Basic
import PassageEditor.Text.Class

/-!
# Links and placeholders of a text

A recogniser tells whether a match begins at the front of a list of characters, and how long it is.
Scanning a line takes the first place with a match, goes on after its end, and so gives the matches from
left to right without overlap.
-/

namespace PassageEditor.Markup

/-- A match on a line: its column, its length, and what the recogniser made of it. -/
structure Found (α : Type) where
  column : Nat
  length : Nat
  value : α
  deriving DecidableEq, Repr

/-- Scans the characters from column `column` on, of which the first `skip` belong to a match already
taken. -/
def scanFrom {α : Type} (recognise : List Char → Option (α × Nat)) :
    (skip column : Nat) → List Char → List (Found α)
  | _, _, [] => []
  | skip + 1, column, _ :: cs => scanFrom recognise skip (column + 1) cs
  | 0, column, c :: cs =>
    match recognise (c :: cs) with
    | none => scanFrom recognise 0 (column + 1) cs
    | some (value, length) => ⟨column, length, value⟩ :: scanFrom recognise (length - 1) (column + 1) cs

def scanLine {α : Type} (recognise : List Char → Option (α × Nat)) (line : List Char) : List (Found α) :=
  scanFrom recognise 0 0 line

/-- Scans lines numbered from `number` on, and keeps what `keep` makes of a match and its line number. -/
def scanLines {α β : Type} (recognise : List Char → Option (α × Nat)) (keep : Nat → Found α → Option β) :
    (number : Nat) → List (List Char) → List β
  | _, [] => []
  | number, line :: rest =>
    (scanLine recognise line).filterMap (keep number) ++ scanLines recognise keep (number + 1) rest

/-! ### Finding a separator -/

/-- Whether `cs` begins with `mark`. -/
def startsWith (mark cs : List Char) : Bool := mark.isPrefixOf cs

/-- The place of the first occurrence of `mark`. -/
def indexOf? (mark : List Char) : List Char → Option Nat
  | [] => if mark.isEmpty then some 0 else none
  | c :: cs => if startsWith mark (c :: cs) then some 0 else (indexOf? mark cs).map (· + 1)

/-- The place of the last occurrence of `mark`. -/
def lastIndexOf? (mark : List Char) : List Char → Option Nat
  | [] => if mark.isEmpty then some 0 else none
  | c :: cs =>
    match lastIndexOf? mark cs with
    | some i => some (i + 1)
    | none => if startsWith mark (c :: cs) then some 0 else none

/-! ### Passage links

A link is written `[[target]]` or `[[text->target]]`.  Between the brackets stands a text without a
closing bracket; its target is what follows the last arrow that has text on both sides, or all of it. -/

/-- The part after the last arrow that has text on both sides, looked for behind at least one
character. -/
def afterArrow? : List Char → Option (List Char)
  | [] => none
  | c :: cs =>
    match afterArrow? cs with
    | some target => some target
    | none =>
      match c, cs with
      | _, '-' :: '>' :: d :: ds => some (d :: ds)
      | _, _ => none

/-- The name of the passage that the text between the brackets points to. -/
def linkTarget (content : List Char) : List Char :=
  (afterArrow? content).getD content

/-- A link at the front of the characters, and its length. -/
def linkAt? : List Char → Option (List Char × Nat)
  | '[' :: '[' :: cs =>
    let content := cs.takeWhile (· ≠ ']')
    if content ≠ [] ∧ startsWith [']', ']'] (cs.drop content.length) then
      some (linkTarget content, content.length + 4)
    else none
  | _ => none

/-- What tells one link from another: its target and where it starts. -/
structure LinkKey where
  passage : PassageId
  start : Position
  deriving DecidableEq, Repr

/-- By target, then by line, then by column. -/
def LinkKey.le (a b : LinkKey) : Bool :=
  a.passage.value < b.passage.value || (a.passage.value = b.passage.value && a.start ≤ b.start)

structure Link where
  key : LinkKey
  range : Range
  deriving DecidableEq, Repr

/-- The links of the lines whose target is the name of a passage, in document order. -/
def scanLinks (lines : List (List Char)) (story : Story) : List Link :=
  scanLines linkAt? (fun number found =>
    (story.findNamed? (String.ofList found.value)).map fun r =>
      ⟨⟨r.passage.id, ⟨number, found.column⟩⟩, .onLine number found.column found.length⟩) 0 lines

/-- The listeners of a link. -/
def linkListeners (widget : WidgetId) (passage : PassageId) (designated : Modifier) :
    List (EventKind × Reaction) :=
  [(.mouseEnter, .hover widget true),
   (.mouseLeave, .hover widget false),
   (.keyDown, .arm widget designated true),
   (.keyUp, .arm widget designated false),
   (.click, .openOnClick widget designated passage)]

/-! ### Placeholders

A placeholder is a dollar sign and, in braces, a number, a colon and a label; the number is a run of
decimal digits of any script, and the label any text without a closing brace.  The tabulator key goes from
one placeholder to the next. -/

structure Placeholder where
  range : Range
  index : String
  label : String
  deriving DecidableEq, Repr

/-- A placeholder at the front of the characters: number, label, and its length. -/
def placeholderAt? : List Char → Option ((List Char × List Char) × Nat)
  | '$' :: '\x7b' :: cs =>
    let index := cs.takeWhile Text.isDecimalDigit
    match cs.drop index.length with
    | ':' :: rest =>
      let label := rest.takeWhile (· ≠ '\x7d')
      if index ≠ [] ∧ label ≠ [] ∧ label.length < rest.length then
        some ((index, label), index.length + label.length + 4)
      else none
    | _ => none
  | _ => none

/-- The placeholders of the lines in document order. -/
def scanPlaceholders (lines : List (List Char)) : List Placeholder :=
  scanLines placeholderAt? (fun number found =>
    some ⟨.onLine number found.column found.length,
      String.ofList found.value.1, String.ofList found.value.2⟩) 0 lines

/-- The listeners of a placeholder. -/
def placeholderListeners (widget : WidgetId) (range : Range) : List (EventKind × Reaction) :=
  [(.click, .selectOnClick widget range), (.beforeSelection, .followSelection widget range)]

/-- The first range that starts at or after the cursor, or else the first of all. -/
def nextRange? (ranges : List Range) (cursor : Position) : Option Range :=
  (ranges.find? fun r => cursor ≤ r.start).or ranges.head?

/-- The last range that ends before the cursor, or else the last of all. -/
def previousRange? (ranges : List Range) (cursor : Position) : Option Range :=
  (ranges.reverse.find? fun r => r.stop < cursor).or ranges.getLast?

end PassageEditor.Markup
