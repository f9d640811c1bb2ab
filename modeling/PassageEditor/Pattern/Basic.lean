import PassageEditor.Pattern.CharSet

/-!
# Patterns

Regular expressions over characters, with assertions about the characters around a place.  A pattern is
matched by taking, for each character, the expressions that are left to be matched after it; a search
starts anew at every place.
-/

namespace PassageEditor.Pattern

/-- What an assertion asks of the characters before and after a place.  Words are those of all scripts, or
of ASCII alone. -/
inductive Anchor
  | textStart
  | textEnd
  | lineStart (crlf : Bool)
  | lineEnd (crlf : Bool)
  | wordBoundary (ascii : Bool)
  | notWordBoundary (ascii : Bool)
  | wordStart (ascii : Bool)
  | wordEnd (ascii : Bool)
  | wordStartHalf (ascii : Bool)
  | wordEndHalf (ascii : Bool)
  deriving DecidableEq, Repr

def isAsciiWord (c : Char) : Bool := c.isAlphanum || c = '_'

/-- Whether there is a character and it belongs to a word. -/
def inWord (ascii : Bool) : Option Char → Bool
  | none => false
  | some c => if ascii then isAsciiWord c else Text.isWord c

def Anchor.holds (before after : Option Char) : Anchor → Bool
  | textStart => before.isNone
  | textEnd => after.isNone
  | lineStart false => before.isNone || before = some '\n'
  | lineStart true => before.isNone || before = some '\n' || (before = some '\r' && after ≠ some '\n')
  | lineEnd false => after.isNone || after = some '\n'
  | lineEnd true => after.isNone || after = some '\r' || (after = some '\n' && before ≠ some '\r')
  | wordBoundary ascii => inWord ascii before != inWord ascii after
  | notWordBoundary ascii => inWord ascii before == inWord ascii after
  | wordStart ascii => !inWord ascii before && inWord ascii after
  | wordEnd ascii => inWord ascii before && !inWord ascii after
  | wordStartHalf ascii => !inWord ascii before
  | wordEndHalf ascii => !inWord ascii after

inductive Regex
  | empty
  | set (s : CharSet)
  | anchor (a : Anchor)
  | seq (a b : Regex)
  | alt (a b : Regex)
  /-- At least `least` times, and at most `most` times if that is given. -/
  | repeated (r : Regex) (least : Nat) (most : Option Nat)
  deriving DecidableEq, Repr

namespace Regex

/-- Whether it matches the empty text between two characters. -/
def nullable (before after : Option Char) : Regex → Bool
  | empty => true
  | set _ => false
  | anchor a => a.holds before after
  | seq a b => a.nullable before after && b.nullable before after
  | alt a b => a.nullable before after || b.nullable before after
  | repeated r least _ => least == 0 || r.nullable before after

/-- `a` and then `b`. -/
def followedBy (b : Regex) : Regex → Regex
  | empty => b
  | a => .seq a b

/-- What may be left to match after the character `c`, which comes after `before`. -/
def after (before : Option Char) (c : Char) : Regex → List Regex
  | empty => []
  | set s => if s.contains c then [empty] else []
  | anchor _ => []
  | seq a b =>
    (a.after before c).map (followedBy b) ++ (if a.nullable before (some c) then b.after before c else [])
  | alt a b => a.after before c ++ b.after before c
  | repeated r least most =>
    if most = some 0 then []
    else
      let fewer := most.map (· - 1)
      (r.after before c).map (followedBy (repeated r (least - 1) fewer)) ++
        -- rounds that match nothing here count towards the least number
        (if 1 < least && r.nullable before (some c) then
          (r.after before c).map (followedBy (repeated r 0 fewer)) else [])

/-- Whether one of `states`, or the expression started at this or a later place, matches. -/
def search (r : Regex) : (before : Option Char) → (states : List Regex) → List Char → Bool
  | before, states, [] => (r :: states).any (nullable before none)
  | before, states, c :: cs =>
    (r :: states).any (nullable before (some c)) ||
      search r (some c) ((r :: states).flatMap (after before c)).eraseDups cs

/-- Whether a part of the text matches. -/
def isMatch (r : Regex) (s : String) : Bool := search r none [] s.toList

/-- An estimate of how much an expression takes up when compiled. -/
def weight : Regex → Nat
  | empty => 1
  | set s => s.weight
  | anchor _ => 1
  | seq a b | alt a b => a.weight + b.weight
  | repeated r least most => r.weight * max 1 (max least (most.getD least))

end Regex

/-! ### Flags

Flags say how the rest of a pattern is read and what its characters match.  They can be switched inside
the pattern. -/

structure Flags where
  ignoreCase : Bool
  multiLine : Bool
  dotAll : Bool
  unicode : Bool
  /-- Blanks and comments in the pattern are skipped. -/
  spaced : Bool
  crlf : Bool
  deriving DecidableEq, Repr

def Flags.default : Flags := ⟨false, false, false, true, false, false⟩

/-- Skips blanks and comments. -/
def dropBlanks : (comment : Bool) → List Char → List Char
  | _, [] => []
  | true, c :: cs => dropBlanks (c ≠ '\n') cs
  | false, c :: cs =>
    if Text.isWhiteSpace c then dropBlanks false cs
    else if c = '#' then dropBlanks true cs
    else c :: cs

/-- The characters past blanks and comments, where those are skipped. -/
def Flags.past (f : Flags) (cs : List Char) : List Char :=
  if f.spaced then dropBlanks false cs else cs

end PassageEditor.Pattern
