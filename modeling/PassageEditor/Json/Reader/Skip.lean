import PassageEditor.Json.Reader.Structure

/-!
# Skipping values

A value that is not wanted is skipped however deep its nesting.  Its numbers and texts need only have the
form of numbers and texts, and may be out of range.
-/

namespace PassageEditor.Json.Reader

/-- The escapes that are a single character after the backslash. -/
def isShortEscape (c : Char) : Bool :=
  ['"', '\\', '/', 'b', 'f', 'n', 'r', 't'].contains c

/-- Skips the rest of a text; its escapes need not make characters. -/
def skipText : (fuel : Nat) → Reader Unit
  | 0 => fail (.ended .text)
  | fuel + 1 => do
    match ← peek with
    | none => fail (.ended .text)
    | some '"' => skip
    | some '\\' =>
      skip
      match ← next with
      | none => fail (.ended .text)
      | some 'u' => let _ ← hexEscape
      | some c => if !isShortEscape c then fail (.faulty .invalidEscape)
      skipText fuel
    | some c => if c.toNat < 32 then fail (.faulty .controlCharacter) else do skip; skipText fuel

/-- Skips the exponent of a number, of which the `e` comes next. -/
def skipExponent : Reader Unit := do
  skip
  let sign ← peek
  if sign = some '+' || sign = some '-' then skip
  match ← next with
  | some c => if c.isDigit then let _ ← digits else fail (.faulty .invalidNumber)
  | none => fail (.faulty .invalidNumber)

/-- Skips what may follow the whole part of a number. -/
def skipFraction : Reader Unit := do
  match ← peek with
  | some '.' =>
    skip
    if (← digits).isEmpty then failNext (.faulty .invalidNumber)
    match ← peek with
    | some 'e' | some 'E' => skipExponent
    | _ => return
  | some 'e' | some 'E' => skipExponent
  | _ => return

/-- Skips a number without its sign. -/
def skipNumber : Reader Unit := do
  match ← next with
  | some '0' =>
    match ← peek with
    | some c => if c.isDigit then failNext (.faulty .invalidNumber) else skipFraction
    | none => return
  | some c => if c.isDigit then do let _ ← digits; skipFraction else fail (.faulty .invalidNumber)
  | none => fail (.faulty .invalidNumber)

/-- Skips the key of a member and the colon. -/
def skipKey : Reader Unit := do
  match ← need .object with
  | '"' => skip; skipText ((← rest).length + 1)
  | _ => failNext (.faulty .keyMustBeText)
  colon

/-- What is still to be skipped: a value, the items of a list, or the members of an object. -/
inductive Skipping
  | value
  | moreItems
  | moreMembers

/-- Skips a value however deep its nesting; each step takes at least one character off, so `fuel` steps
are enough. -/
def skipSteps : (fuel : Nat) → List Skipping → Reader Unit
  | _, [] => return
  | 0, _ => return
  | fuel + 1, .value :: stack => do
    match ← need .value with
    | 'n' => skip; ident ['u', 'l', 'l']; skipSteps fuel stack
    | 't' => skip; ident ['r', 'u', 'e']; skipSteps fuel stack
    | 'f' => skip; ident ['a', 'l', 's', 'e']; skipSteps fuel stack
    | '-' => skip; skipNumber; skipSteps fuel stack
    | '"' => skip; skipText ((← rest).length + 1); skipSteps fuel stack
    | '[' =>
      skip
      if (← need .list) = ']' then do skip; skipSteps fuel stack
      else skipSteps fuel (.value :: .moreItems :: stack)
    | '\x7b' =>
      skip
      if (← need .object) = '\x7d' then do skip; skipSteps fuel stack
      else do skipKey; skipSteps fuel (.value :: .moreMembers :: stack)
    | c => if c.isDigit then do skipNumber; skipSteps fuel stack else failNext (.faulty .expectedValue)
  | fuel + 1, .moreItems :: stack => do
    match ← need .list with
    | ',' => skip; skipSteps fuel (.value :: .moreItems :: stack)
    | ']' => skip; skipSteps fuel stack
    | _ => failNext (.faulty .expectedListCommaOrEnd)
  | fuel + 1, .moreMembers :: stack => do
    match ← need .object with
    | ',' => skip; skipKey; skipSteps fuel (.value :: .moreMembers :: stack)
    | '\x7d' => skip; skipSteps fuel stack
    | _ => failNext (.faulty .expectedObjectCommaOrEnd)

def skipValue : Reader Unit := do
  skipSteps (2 * (← rest).length + 2) [.value]

end PassageEditor.Json.Reader
