import PassageEditor.Json.Reader.Structure

/-!
# Reading scalars of a wanted form

Texts, truth values and numbers of the form that is asked for, what may be null, lists of one form, and
names out of a few.
-/

namespace PassageEditor.Json.Reader

def text (expected : String) : Reader String := located do
  match ← need .value with
  | '"' => quotedText
  | _ => unexpected expected

def bool : Reader Bool := located do
  match ← need .value with
  | 't' => skip; ident ['r', 'u', 'e']; return true
  | 'f' => skip; ident ['a', 'l', 's', 'e']; return false
  | _ => unexpected "a boolean"

/-- A number that `convert` accepts. -/
def numberAs {α : Type} (expected : String) (convert : Number → Except String α) : Reader α := located do
  match ← need .value with
  | '-' => skip; ofExcept (convert (← number false))
  | c => if c.isDigit then do ofExcept (convert (← number true)) else unexpected expected

/-- A whole number of 64 bits without sign. -/
def unsigned64 : Reader Nat :=
  numberAs "u64" fun
    | .unsigned n => .ok n
    | .negative n => .error (wrongValue (Number.negative n).describe "u64")
    | .float x => .error (wrongType (Number.float x).describe "u64")

/-- Any number, as a floating-point number. -/
def float : Reader Float :=
  numberAs "f64" fun
    | .unsigned n => .ok n.toUInt64.toFloat
    | .negative n => .ok (-n.toUInt64.toFloat)
    | .float x => .ok x

def optional {α : Type} (r : Reader α) : Reader (Option α) := do
  match ← peekPast with
  | some 'n' => skip; ident ['u', 'l', 'l']; return none
  | _ => return some (← r)

def list {α : Type} (item : Reader α) : Reader (List α) := located do
  match ← need .value with
  | '[' => enclosed (do items item (← bound) true) closeList
  | _ => unexpected "a sequence"

/-- One of some names, given as a text or as an object with the name as its only key and null as its
value. -/
def oneOf {α : Type} (named : List (String × α)) : Reader α := do
  match ← need .value with
  | '"' => name
  | '\x7b' =>
    if (← get).depth ≤ 1 then failNext (.faulty .recursionLimit)
    else
      skip
      let a ← name
      colon
      located do
        match ← need .value with
        | 'n' => skip; ident ['u', 'l', 'l']
        | _ => unexpected "unit"
      match ← peekPast with
      | some '\x7d' => skip; return a
      | some _ => fail (.faulty .expectedValue)
      | none => fail (.ended .object)
  | _ => failNext (.faulty .expectedValue)
where
  name : Reader α := located do
    let s ← text "variant identifier"
    match named.lookup s with
    | some a => return a
    | none => mismatch (unknownVariant s (named.map (·.1)))

end PassageEditor.Json.Reader
