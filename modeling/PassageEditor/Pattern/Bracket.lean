import PassageEditor.Pattern.Escape

/-!
# Bracketed classes

Sets in square brackets: characters, ranges, escapes and named classes, inner brackets, and the operations
between sets, which are taken from left to right.
-/

namespace PassageEditor.Pattern

/-- The classes with names in brackets and colons. -/
def namedClass? (name : List Char) : Option CharSet :=
  let lower := CharSet.range 'a' 'z'
  let upper := CharSet.range 'A' 'Z'
  let digit := CharSet.range '0' '9'
  match String.ofList name with
  | "alnum" => some (.union (.union lower upper) digit)
  | "alpha" => some (.union lower upper)
  | "ascii" => some (.range '\x00' '\x7f')
  | "blank" => some (.union (.single '\t') (.single ' '))
  | "cntrl" => some (.union (.range '\x00' '\x1f') (.single '\x7f'))
  | "digit" => some digit
  | "graph" => some (.range '!' '~')
  | "lower" => some lower
  | "print" => some (.range ' ' '~')
  | "punct" =>
    some (.union (.union (.range '!' '/') (.range ':' '@'))
      (.union (.range '[' '\x60') (.range '\x7b' '~')))
  | "space" => some (.union (.range '\t' '\r') (.single ' '))
  | "upper" => some upper
  | "word" => some (.union (.union lower upper) (.union digit (.single '_')))
  | "xdigit" => some (.union (.union (.range 'a' 'f') (.range 'A' 'F')) digit)
  | _ => none

/-- A named class, of which the characters after the opening bracket are given. -/
def colonClass? (f : Flags) : List Char → Option (CharSet × List Char)
  | ':' :: cs =>
    let negated := cs.head? = some '^'
    let cs := if negated then cs.tail else cs
    let name := cs.takeWhile (· ≠ ':')
    match cs.drop name.length with
    | ':' :: ']' :: rest => (namedClass? name).map fun s => (f.finish negated s, rest)
    | _ => none
  | _ => none

inductive SetOp
  | inter
  | diff
  | symDiff
  deriving DecidableEq, Repr

/-- An operation on two sets, each closed under case first where that is ignored. -/
def SetOp.apply (f : Flags) (op : SetOp) (a b : CharSet) : CharSet :=
  let a := f.finish false a
  let b := f.finish false b
  match op with
  | inter => .inter a b
  | diff => .diff a b
  | symDiff => .union (.diff a b) (.diff b a)

/-- An open bracket: whether it is negated, the operation that waits for its right side, and the set so
far. -/
structure OpenClass where
  negated : Bool
  waiting : Option (CharSet × SetOp)
  items : CharSet

/-- The set of what is inside the brackets. -/
def OpenClass.joined (f : Flags) (o : OpenClass) : CharSet :=
  match o.waiting with
  | none => o.items
  | some (left, op) => op.apply f left o.items

def OpenClass.add (o : OpenClass) (s : CharSet) : OpenClass := { o with items := .union o.items s }

/-- Takes hyphens at the front of a class as themselves. -/
def leadingHyphens (f : Flags) (items : CharSet) : (fuel : Nat) → List Char → CharSet × List Char
  | 0, cs => (items, cs)
  | fuel + 1, cs =>
    match cs with
    | '-' :: rest => leadingHyphens f (.union items (.single '-')) fuel (f.past rest)
    | _ => (items, cs)

/-- Opens a bracket, of which the characters after it are given. -/
def openClass? (f : Flags) (cs : List Char) : Option (OpenClass × List Char) :=
  let cs := f.past cs
  let negated := cs.head? = some '^'
  let cs := if negated then f.past cs.tail else cs
  let (items, rest) := leadingHyphens f .empty cs.length cs
  match rest with
  | [] => none
  | ']' :: more =>
    if items = .empty then
      let more := f.past more
      if more.isEmpty then none else some (⟨negated, none, .single ']'⟩, more)
    else some (⟨negated, none, items⟩, rest)
  | _ => some (⟨negated, none, items⟩, rest)

/-- A character or an escape inside brackets. -/
def classItem? (f : Flags) : List Char → Option (Primitive × List Char)
  | [] => none
  | '\\' :: cs => escape? f cs
  | c :: cs => some (.literal c false, cs)

/-- The character of a literal inside brackets; without Unicode it must be an ASCII character. -/
def classLiteral? (f : Flags) : Primitive → Option Char
  | .literal c _ => if f.unicode || c.toNat < 128 then some c else none
  | _ => none

/-- An item of a class: a range, a character or a set. -/
def classRange? (f : Flags) (cs : List Char) : Option (CharSet × List Char) := do
  let (first, rest) ← classItem? f cs
  match f.past rest with
  | [] => none
  | '-' :: more =>
    let more := f.past more
    if more.head? = some ']' || more.head? = some '-' then
      return (← one first, '-' :: more)
    else
      let (last, rest) ← classItem? f more
      let low ← classLiteral? f first
      let high ← classLiteral? f last
      if low ≤ high then return (.range low high, rest) else none
  | rest => return (← one first, rest)
where
  one : Primitive → Option CharSet
    | .set s => some s
    | p => (classLiteral? f p).map .single

/-- Reads a class to its last closing bracket, the innermost open bracket first in the stack; each step
takes a character off, so `fuel` steps are enough. -/
def classSteps (f : Flags) : (fuel : Nat) → List OpenClass → List Char → Option (CharSet × List Char)
  | 0, _, _ => none
  | _, [], _ => none
  | fuel + 1, o :: stack, cs =>
    match f.past cs with
    | [] => none
    | '[' :: rest =>
      match colonClass? f rest with
      | some (s, rest) => classSteps f fuel (o.add s :: stack) rest
      | none => do
        let (inner, rest) ← openClass? f rest
        classSteps f fuel (inner :: o :: stack) rest
    | ']' :: rest =>
      let s := f.finish o.negated (o.joined f)
      match stack with
      | [] => some (s, rest)
      | outer :: stack => classSteps f fuel (outer.add s :: stack) rest
    | '&' :: '&' :: rest =>
      classSteps f fuel (⟨o.negated, some (o.joined f, .inter), .empty⟩ :: stack) rest
    | '-' :: '-' :: rest =>
      classSteps f fuel (⟨o.negated, some (o.joined f, .diff), .empty⟩ :: stack) rest
    | '~' :: '~' :: rest =>
      classSteps f fuel (⟨o.negated, some (o.joined f, .symDiff), .empty⟩ :: stack) rest
    | rest => do
      let (s, rest) ← classRange? f rest
      classSteps f fuel (o.add s :: stack) rest

/-- A set as an expression; without Unicode it may hold ASCII characters only. -/
def setRegex? (f : Flags) (s : CharSet) : Option Regex :=
  if f.unicode then some (.set s)
  else if s.isByteSafe then some (.set (.inter s (.property .ascii)))
  else none

/-- The class after an opening bracket. -/
def class? (f : Flags) (cs : List Char) : Option (Regex × List Char) := do
  let (o, rest) ← openClass? f cs
  let (s, rest) ← classSteps f (rest.length + 1) [o] rest
  return (← setRegex? f s, rest)

end PassageEditor.Pattern
