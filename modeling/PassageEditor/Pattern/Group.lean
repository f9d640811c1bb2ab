import PassageEditor.Pattern.Bracket

/-!
# Groups and repetitions

What a group holds while it is read, and the parts of a pattern that change it: flags, names, bounds of a
repetition, and single characters.
-/

namespace PassageEditor.Pattern

/-- Changes one flag by its letter. -/
def Flags.set? (f : Flags) (on : Bool) : Char → Option Flags
  | 'i' => some { f with ignoreCase := on }
  | 'm' => some { f with multiLine := on }
  | 's' => some { f with dotAll := on }
  | 'u' => some { f with unicode := on }
  | 'x' => some { f with spaced := on }
  | 'R' => some { f with crlf := on }
  -- greediness does not change whether a pattern matches
  | 'U' => some f
  | _ => none

/-- Reads flags up to a colon or a closing parenthesis; `seen` are the letters read so far. -/
def flags? (f : Flags) (on : Bool) (seen : List Char) : List Char → Option (Flags × List Char × List Char)
  | [] => none
  | c :: cs =>
    if c = ':' || c = ')' then
      if seen.head? = some '-' then none else some (f, seen, c :: cs)
    else if seen.contains c then none
    else if c = '-' then flags? f false (c :: seen) cs
    else
      match f.set? on c with
      | none => none
      | some f => flags? f on (c :: seen) cs

/-- A part of a sequence; `none` is a change of flags. -/
abbrev Part := Option Regex

/-- An open group: the alternatives before the current one, its parts so far, last one first, and the
flags outside the group. -/
structure OpenGroup where
  before : Option Regex
  parts : List Part
  outer : Flags

def sequence (parts : List Part) : Regex :=
  parts.foldl (fun r part => match part with
    | none => r
    | some p => match r with
      | .empty => p
      | r => .seq p r) .empty

/-- The group as one expression. -/
def OpenGroup.regex (g : OpenGroup) : Regex :=
  match g.before with
  | none => sequence g.parts
  | some r => .alt r (sequence g.parts)

def OpenGroup.add (g : OpenGroup) (r : Regex) : OpenGroup := { g with parts := some r :: g.parts }

/-- Whether a character may stand in the name of a group. -/
def isNameChar (first : Bool) (c : Char) : Bool :=
  c = '_' ||
    (if first then Text.isAlphabetic c else c = '.' || c = '[' || c = ']' || Text.isAlphanumeric c)

/-- The name of a group, up to its closing angle bracket. -/
def groupName? (cs : List Char) : Option (List Char × List Char) :=
  let name := cs.takeWhile (· ≠ '>')
  match cs.drop name.length, name with
  | '>' :: rest, c :: more =>
    if isNameChar true c && more.all (isNameChar false) then some (name, rest) else none
  | _, _ => none

/-- The numbers of a repetition in braces take blanks around them. -/
def decimal? (f : Flags) (cs : List Char) : Option (Nat × List Char) :=
  let cs := cs.dropWhile Text.isWhiteSpace
  let (ds, rest) := run cs.length cs
  let n := Text.ofDigits ds
  if ds.isEmpty || UInt32.size ≤ n then none else some (n, f.past (rest.dropWhile Text.isWhiteSpace))
where
  run : Nat → List Char → List Char × List Char
    | 0, cs => ([], cs)
    | fuel + 1, cs =>
      match cs with
      | c :: rest =>
        if c.isDigit then let (ds, rest) := run fuel (f.past rest); (c :: ds, rest) else ([], cs)
      | [] => ([], [])

/-- The bounds of a repetition, after its opening brace. -/
def bounds? (f : Flags) (cs : List Char) : Option (Nat × Option Nat × List Char) := do
  let (least, rest) ← decimal? f (f.past cs)
  match rest with
  | '\x7d' :: rest => return (least, some least, rest)
  | ',' :: rest =>
    match f.past rest with
    | '\x7d' :: rest => return (least, none, rest)
    | rest =>
      let (most, rest) ← decimal? f rest
      match rest with
      | '\x7d' :: rest => if least ≤ most then return (least, some most, rest) else none
      | _ => none
  | _ => none

/-- Repeats the last part of a group. -/
def OpenGroup.repeated? (g : OpenGroup) (least : Nat) (most : Option Nat) : Option OpenGroup :=
  match g.parts with
  | some r :: rest => some { g with parts := some (.repeated r least most) :: rest }
  | _ => none

/-- Drops the mark of a repetition that prefers few rounds. -/
def dropLazy (cs : List Char) : List Char :=
  if cs.head? = some '?' then cs.tail else cs

/-- A single character as an expression. -/
def literal? (f : Flags) (c : Char) (byte : Bool) : Option Regex :=
  if !f.unicode && byte && 128 ≤ c.toNat then none else some (.set (f.finish false (.single c)))

def primitive? (f : Flags) : Primitive → Option Regex
  | .literal c byte => literal? f c byte
  | .set s => setRegex? f s
  | .anchor a => some (.anchor a)

/-- Any character but the end of a line, or any character at all. -/
def dot? (f : Flags) : Option Regex :=
  if !f.unicode then none
  else if f.dotAll then some (.set (.property .any))
  else if f.crlf then some (.set (.negate (.union (.single '\n') (.single '\r'))))
  else some (.set (.negate (.single '\n')))

def lineStart (f : Flags) : Anchor := if f.multiLine then .lineStart f.crlf else .textStart

def lineEnd (f : Flags) : Anchor := if f.multiLine then .lineEnd f.crlf else .textEnd

end PassageEditor.Pattern
