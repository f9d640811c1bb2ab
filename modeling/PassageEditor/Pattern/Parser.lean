import PassageEditor.Pattern.Group

/-!
# Reading patterns

Patterns are written with groups, alternatives, repetitions, bracketed classes with set operations,
escapes, and flags that can be switched inside the pattern.  There are no look-around assertions and no
references back to a group.  A text that breaks a rule is no pattern; which rule it breaks does not
matter.
-/

namespace PassageEditor.Pattern

/-- What is being read: the flags, the open groups, innermost first, and the names of groups so far. -/
structure Reading where
  flags : Flags
  group : OpenGroup
  stack : List OpenGroup
  names : List (List Char)

def Reading.add (r : Reading) (x : Regex) : Reading := { r with group := r.group.add x }

/-- Opens a group in which `flags` hold. -/
def Reading.enter (r : Reading) (flags : Flags) : Reading :=
  { r with flags := flags, group := ⟨none, [], r.flags⟩, stack := r.group :: r.stack }

/-- What follows an opening parenthesis. -/
def group? (r : Reading) (cs : List Char) : Option (Reading × List Char) :=
  match r.flags.past cs with
  | '?' :: 'P' :: '<' :: rest => named rest
  | '?' :: '<' :: rest => if rest.head? = some '=' || rest.head? = some '!' then none else named rest
  | '?' :: '=' :: _ => none
  | '?' :: '!' :: _ => none
  | '?' :: rest => do
    let (flags, seen, rest) ← flags? r.flags true [] rest
    match rest with
    | ')' :: rest =>
      if seen.isEmpty then none
      else
        return ({ r with flags := flags, group := { r.group with parts := none :: r.group.parts } }, rest)
    | _ => return (r.enter flags, rest.tail)
  | rest => some (r.enter r.flags, rest)
where
  named (cs : List Char) : Option (Reading × List Char) := do
    let (name, rest) ← groupName? cs
    if r.names.contains name then none
    else return ({ r.enter r.flags with names := name :: r.names }, rest)

/-- Closes the innermost group. -/
def Reading.leave? (r : Reading) : Option Reading :=
  match r.stack with
  | [] => none
  | outer :: stack =>
    some { r with flags := r.group.outer, group := outer.add r.group.regex, stack := stack }

/-- Reads a pattern; each step takes a character off, so `fuel` steps are enough. -/
def steps : (fuel : Nat) → Reading → List Char → Option Regex
  | 0, _, _ => none
  | fuel + 1, r, cs =>
    match r.flags.past cs with
    | [] => if r.stack.isEmpty then some r.group.regex else none
    | '(' :: rest => do
      let (r, rest) ← group? r rest
      steps fuel r rest
    | ')' :: rest => do steps fuel (← r.leave?) rest
    | '|' :: rest => steps fuel { r with group := ⟨some r.group.regex, [], r.group.outer⟩ } rest
    | '[' :: rest => do
      let (x, rest) ← class? r.flags rest
      steps fuel (r.add x) rest
    | '?' :: rest => do steps fuel { r with group := ← r.group.repeated? 0 (some 1) } (dropLazy rest)
    | '*' :: rest => do steps fuel { r with group := ← r.group.repeated? 0 none } (dropLazy rest)
    | '+' :: rest => do steps fuel { r with group := ← r.group.repeated? 1 none } (dropLazy rest)
    | '\x7b' :: rest => do
      let (least, most, rest) ← bounds? r.flags rest
      steps fuel { r with group := ← r.group.repeated? least most } (dropLazy (r.flags.past rest))
    | '\\' :: rest => do
      let (p, rest) ← escape? r.flags rest
      steps fuel (r.add (← primitive? r.flags p)) rest
    | '.' :: rest => do steps fuel (r.add (← dot? r.flags)) rest
    | '^' :: rest => steps fuel (r.add (.anchor (lineStart r.flags))) rest
    | '$' :: rest => steps fuel (r.add (.anchor (lineEnd r.flags))) rest
    | c :: rest => do steps fuel (r.add (← literal? r.flags c false)) rest

/-- The largest pattern that is accepted, by its weight. -/
def weightLimit : Nat := 327680

/-- The expression that a pattern stands for; `none` if the text is no pattern or too large. -/
def compile? (pattern : String) : Option Regex := do
  let cs := pattern.toList
  let r ← steps (cs.length + 1) ⟨.default, ⟨none, [], .default⟩, [], []⟩ cs
  if r.weight ≤ weightLimit then some r else none

end PassageEditor.Pattern
