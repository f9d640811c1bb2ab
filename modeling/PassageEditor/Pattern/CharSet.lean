import PassageEditor.Text.CaseMap
import PassageEditor.Text.Category

/-!
# Sets of characters

The classes of a pattern: spans of characters and named properties, combined by the set operations, and
closed under a change of case where case is ignored.
-/

namespace PassageEditor.Pattern

open Text

inductive CharSet
  | span (s : Span)
  | property (p : Property)
  | empty
  | union (a b : CharSet)
  | inter (a b : CharSet)
  | diff (a b : CharSet)
  | negate (a : CharSet)
  /-- The characters that simple case folding identifies with one of the set. -/
  | folded (a : CharSet)
  /-- The same for the letters A to Z only. -/
  | foldedAscii (a : CharSet)
  deriving DecidableEq, Repr

/-- The characters that simple case folding identifies with `c`, itself included. -/
def caseOrbit (c : Char) : List Char :=
  let base := shifted foldShifts c
  base :: foldShifts.filterMap (·.preimage? base)

namespace CharSet

def single (c : Char) : CharSet := .span ⟨c.toNat, c.toNat, 1⟩

def range (first last : Char) : CharSet := .span ⟨first.toNat, last.toNat, 1⟩

def contains : CharSet → Char → Bool
  | .span s, c => s.contains c
  | .property p, c => p.holds c
  | .empty, _ => false
  | .union a b, c => a.contains c || b.contains c
  | .inter a b, c => a.contains c && b.contains c
  | .diff a b, c => a.contains c && !b.contains c
  | .negate a, c => !a.contains c
  | .folded a, c => (caseOrbit c).any fun d => a.contains d
  | .foldedAscii a, c => a.contains c || a.contains c.toLower || a.contains c.toUpper

/-- Whether it holds none of the characters from 128 to 255. -/
def isByteSafe (s : CharSet) : Bool :=
  (List.range 128).all fun i => !s.contains (Char.ofNat (128 + i))

/-- An estimate of how much a set takes up when compiled. -/
def weight : CharSet → Nat
  | .span _ => 1
  | .property p =>
    match p with
    | .word | .derived _ => 1500
    | .category ["nd"] => 130
    | .whiteSpace | .ascii | .any => 20
    | _ => 600
  | .empty => 1
  | .union a b | .inter a b | .diff a b => a.weight + b.weight
  | .negate a | .folded a | .foldedAscii a => a.weight

end CharSet

end PassageEditor.Pattern
