import PassageEditor.Json.Reader.Number
import PassageEditor.Json.Reader.Quoted

/-!
# Reading lists, objects and any value

Lists and objects that are read into a value may be nested 127 deep.
-/

namespace PassageEditor.Json.Reader

/-- Reads what is between two brackets.  The closing bracket is looked for in any case; the first error
counts. -/
def enclosed {α : Type} (body : Reader α) (close : Reader Unit) : Reader α := do
  if (← get).depth ≤ 1 then failNext (.faulty .recursionLimit)
  else fun c =>
    match (do skip; body : Reader α).run { c with depth := c.depth - 1 } with
    | (.ok a, c) => (close *> pure a : Reader α).run { c with depth := c.depth + 1 }
    | (.error e, c) => (.error e, (close.run { c with depth := c.depth + 1 }).2)

/-- The end of a list. -/
def closeList : Reader Unit := do
  match ← need .list with
  | ']' => skip
  | ',' =>
    skip
    match ← peekPast with
    | some ']' => failNext (.faulty .trailingComma)
    | _ => failNext (.faulty .trailingCharacters)
  | _ => failNext (.faulty .trailingCharacters)

def closeObject : Reader Unit := do
  match ← need .object with
  | '\x7d' => skip
  | ',' => failNext (.faulty .trailingComma)
  | _ => failNext (.faulty .trailingCharacters)

/-- Whether the list has another item, to which reading then moves. -/
def hasItem (first : Bool) : Reader Bool := do
  match ← need .list with
  | ']' => return false
  | c =>
    if first then return true
    else if c = ',' then
      skip
      match ← need .value with
      | ']' => failNext (.faulty .trailingComma)
      | _ => return true
    else failNext (.faulty .expectedListCommaOrEnd)

/-- Whether the object has another member, to whose key reading then moves. -/
def hasMember (first : Bool) : Reader Bool := do
  match ← need .object with
  | '\x7d' => return false
  | c =>
    if first then
      if c = '"' then return true else failNext (.faulty .keyMustBeText)
    else if c = ',' then
      skip
      match ← need .value with
      | '"' => return true
      | '\x7d' => failNext (.faulty .trailingComma)
      | _ => failNext (.faulty .keyMustBeText)
    else failNext (.faulty .expectedObjectCommaOrEnd)

/-- The colon between a key and its value. -/
def colon : Reader Unit := do
  match ← need .object with
  | ':' => skip
  | _ => failNext (.faulty .expectedColon)

/-- The items of a list, at most `fuel` of them. -/
def items {α : Type} (item : Reader α) : (fuel : Nat) → (first : Bool) → Reader (List α)
  | 0, _ => return []
  | fuel + 1, first => do
    if ← hasItem first then
      let a ← item
      return a :: (← items item fuel false)
    else return []

/-- Folds over the members of an object, at most `fuel` of them; `member` gets the key. -/
def members {α : Type} (member : α → String → Reader α) : (fuel : Nat) → (first : Bool) → α → Reader α
  | 0, _, a => return a
  | fuel + 1, first, a => do
    if ← hasMember first then
      let key ← quotedText
      members member fuel false (← member a key)
    else return a

/-- A bound on the number of items that the rest of the text can hold. -/
def bound : Reader Nat := do return (← rest).length + 1

/-! ### Any value -/

/-- A value of any form, nested at most `fuel` deep. -/
def valueWithin : (fuel : Nat) → Reader Value
  | 0 => failNext (.faulty .recursionLimit)
  | fuel + 1 => do
    match ← need .value with
    | 'n' => skip; ident ['u', 'l', 'l']; return .null
    | 't' => skip; ident ['r', 'u', 'e']; return .bool true
    | 'f' => skip; ident ['a', 'l', 's', 'e']; return .bool false
    | '-' => skip; return .number (← number false)
    | '"' => return .text (← quotedText)
    | '[' => return .list (← located (enclosed (do items (valueWithin fuel) (← bound) true) closeList))
    | '\x7b' =>
      let pairs ← located (enclosed (do
        members (fun pairs key => do colon; return (key, ← valueWithin fuel) :: pairs)
          (← bound) true []) closeObject)
      return .object pairs.reverse
    | c => if c.isDigit then return .number (← number true) else failNext (.faulty .expectedValue)

def value : Reader Value := valueWithin 128

/-- Fails because the value that comes next has not the expected form. -/
def unexpected {α : Type} (expected : String) : Reader α := located do
  match ← peek with
  | some 'n' => skip; ident ['u', 'l', 'l']; mismatch (wrongType Value.null.describe expected)
  | some 't' => skip; ident ['r', 'u', 'e']; mismatch (wrongType (Value.bool true).describe expected)
  | some 'f' =>
    skip; ident ['a', 'l', 's', 'e']; mismatch (wrongType (Value.bool false).describe expected)
  | some '-' => skip; mismatch (wrongType (← number false).describe expected)
  | some '"' => mismatch (wrongType (Value.text (← quotedText)).describe expected)
  | some '[' => mismatch (wrongType (Value.list []).describe expected)
  | some '\x7b' => mismatch (wrongType (Value.object []).describe expected)
  | some c =>
    if c.isDigit then mismatch (wrongType (← number true).describe expected)
    else failNext (.faulty .expectedValue)
  | none => failNext (.faulty .expectedValue)

end PassageEditor.Json.Reader
