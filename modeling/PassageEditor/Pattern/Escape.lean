import PassageEditor.Pattern.Basic
import PassageEditor.Text.CodePoint

/-!
# Escapes

What the characters after a backslash stand for: a character by its number, a set of characters, an
assertion, or a sign that stands for itself.
-/

namespace PassageEditor.Pattern

/-- What an escape or a single character stands for. -/
inductive Primitive
  /-- A character; `byte` if it is written as a byte in hexadecimal. -/
  | literal (c : Char) (byte : Bool)
  | set (s : CharSet)
  | anchor (a : Anchor)

/-- The character with a code point, if there is one. -/
def charOf? (n : Nat) : Option Char :=
  if n.isValidChar then some (Char.ofNat n) else none

/-- Takes `count` digits, blanks between them skipped. -/
def takeDigits (f : Flags) : (count : Nat) → List Char → Option (List Char × List Char)
  | 0, cs => some ([], cs)
  | _ + 1, [] => none
  | count + 1, c :: cs => do
    let _ ← Text.hexValue? c
    let (ds, rest) ← takeDigits f count (f.past cs)
    return (c :: ds, rest)

/-- Takes the characters up to a closing brace, blanks between them skipped; at most `fuel` characters. -/
def takeBraced (f : Flags) : (fuel : Nat) → List Char → Option (List Char × List Char)
  | _, [] => none
  | 0, _ => none
  | fuel + 1, c :: cs =>
    if c = '\x7d' then some ([], cs)
    else (takeBraced f fuel (f.past cs)).map fun p => (c :: p.1, p.2)

/-- The character of a hexadecimal escape with `count` digits or any number of them in braces. -/
def hexEscape? (f : Flags) (count : Nat) (cs : List Char) : Option (Primitive × List Char) :=
  match f.past cs with
  | '\x7b' :: cs => do
    let (ds, rest) ← takeBraced f cs.length (f.past cs)
    if ds.isEmpty then none
    else return (.literal (← charOf? (← Text.ofHex? ds)) (count == 2), f.past rest)
  | cs => do
    let (ds, rest) ← takeDigits f count cs
    return (.literal (← charOf? (← Text.ofHex? ds)) (count == 2), f.past rest)

/-- A set, closed under case where that is ignored, and then complemented if it is negated. -/
def Flags.finish (f : Flags) (negated : Bool) (s : CharSet) : CharSet :=
  let s := if f.ignoreCase then (if f.unicode then .folded s else .foldedAscii s) else s
  if negated then .negate s else s

/-- Splits at the first occurrence of a separator. -/
def splitAtMark (mark : List Char) : List Char → Option (List Char × List Char)
  | [] => none
  | c :: cs =>
    if mark.isPrefixOf (c :: cs) then some ([], (c :: cs).drop mark.length)
    else (splitAtMark mark cs).map fun p => (c :: p.1, p.2)

/-- The set with a property given by name, or by name and value. -/
def propertySet? (f : Flags) (negated : Bool) (name : List Char) : Option CharSet :=
  match splitAtMark ['!', '='] name with
  | some p => (valued? p).map fun q => f.finish (!negated) (.property q)
  | none =>
    match (splitAtMark [':'] name).or (splitAtMark ['='] name) with
    | some p => (valued? p).map fun q => f.finish negated (.property q)
    | none =>
      (Text.Property.ofName? (Text.Property.normalName name)).map fun q => f.finish negated (.property q)
where
  valued? (p : List Char × List Char) : Option Text.Property :=
    Text.Property.ofValue? (Text.Property.normalName p.1) (Text.Property.normalName p.2)

/-- The set of a property escape, after its letter. -/
def propertyEscape? (f : Flags) (negated : Bool) (cs : List Char) : Option (Primitive × List Char) :=
  if !f.unicode then none
  else
    match f.past cs with
    | [] => none
    | '\x7b' :: cs => do
      let (name, rest) ← takeBraced f cs.length (f.past cs)
      return (.set (← propertySet? f negated name), rest)
    | c :: cs => do
      if c = '\\' then none
      else return (.set (← propertySet? f negated [c]), f.past cs)

/-- The digits, blanks or word characters. -/
def classSet (f : Flags) (letter : Char) : CharSet :=
  if f.unicode then
    if letter = 'd' then .property (.category ["nd"])
    else if letter = 's' then .property .whiteSpace
    else .property .word
  else
    let digit := CharSet.range '0' '9'
    if letter = 'd' then digit
    else if letter = 's' then .union (.range '\t' '\r') (.single ' ')
    else .union (.union (.range 'a' 'z') (.range 'A' 'Z')) (.union digit (.single '_'))

/-- Characters that stand for themselves after a backslash. -/
def isEscapable (c : Char) : Bool :=
  c.toNat < 128 && !c.isAlphanum && c ≠ '<' && c ≠ '>'

/-- The names of the special word boundaries. -/
def specialBoundary? (ascii : Bool) (name : List Char) : Option Anchor :=
  match String.ofList name with
  | "start" => some (.wordStart ascii)
  | "end" => some (.wordEnd ascii)
  | "start-half" => some (.wordStartHalf ascii)
  | "end-half" => some (.wordEndHalf ascii)
  | _ => none

/-- A word boundary, with its kind in braces if what follows can be one. -/
def boundary? (f : Flags) (cs : List Char) : Option (Primitive × List Char) :=
  match cs with
  | '\x7b' :: inner =>
    match f.past inner with
    | [] => none
    | c :: rest =>
      if c.isAlpha || c = '-' then do
        let (name, rest) ← takeBraced f (rest.length + 1) (c :: rest)
        return (.anchor (← specialBoundary? (!f.unicode) name), rest)
      else some (.anchor (.wordBoundary (!f.unicode)), cs)
  | _ => some (.anchor (.wordBoundary (!f.unicode)), cs)

/-- What the characters after a backslash stand for. -/
def escape? (f : Flags) : List Char → Option (Primitive × List Char)
  | [] => none
  | c :: cs =>
    let ascii := !f.unicode
    match c with
    | 'x' => hexEscape? f 2 cs
    | 'u' => hexEscape? f 4 cs
    | 'U' => hexEscape? f 8 cs
    | 'p' => propertyEscape? f false cs
    | 'P' => propertyEscape? f true cs
    | 'd' | 's' | 'w' => some (.set (classSet f c), cs)
    | 'D' | 'S' | 'W' => some (.set (.negate (classSet f c.toLower)), cs)
    | 'a' => some (.literal '\x07' false, cs)
    | 'f' => some (.literal '\x0c' false, cs)
    | 't' => some (.literal '\t' false, cs)
    | 'n' => some (.literal '\n' false, cs)
    | 'r' => some (.literal '\r' false, cs)
    | 'v' => some (.literal '\x0b' false, cs)
    | 'A' => some (.anchor .textStart, cs)
    | 'z' => some (.anchor .textEnd, cs)
    | 'b' => boundary? f cs
    | 'B' => some (.anchor (.notWordBoundary ascii), cs)
    | '<' => some (.anchor (.wordStart ascii), cs)
    | '>' => some (.anchor (.wordEnd ascii), cs)
    | c => if isEscapable c then some (.literal c false, cs) else none

end PassageEditor.Pattern
