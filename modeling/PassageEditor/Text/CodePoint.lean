/-!
# Characters by their code points

A character class is given as a list of spans, each an arithmetic progression of code points, and a case
map as a list of shifts, each a span together with the place it is moved to.  The digits of ASCII are
worth their distance from zero.
-/

namespace PassageEditor.Text

/-- The code points `first`, `first + step`, and so on up to `last`. -/
structure Span where
  first : Nat
  last : Nat
  step : Nat
  deriving DecidableEq, Repr

def Span.contains (s : Span) (c : Char) : Bool :=
  s.first ≤ c.toNat && c.toNat ≤ s.last && (c.toNat - s.first) % s.step == 0

/-- Whether one of the spans has the character. -/
def inSpans (spans : List Span) (c : Char) : Bool :=
  spans.any (·.contains c)

/-- A span whose code points are moved, in order, to the code points from `image` on. -/
structure Shift where
  first : Nat
  last : Nat
  step : Nat
  image : Nat
  deriving DecidableEq, Repr

def Shift.image? (s : Shift) (c : Char) : Option Char :=
  if Span.contains ⟨s.first, s.last, s.step⟩ c then some (Char.ofNat (s.image + (c.toNat - s.first)))
  else none

/-- The character that a shift sends to `c`, if there is one. -/
def Shift.preimage? (s : Shift) (c : Char) : Option Char :=
  if Span.contains ⟨s.image, s.image + (s.last - s.first), s.step⟩ c then
    some (Char.ofNat (s.first + (c.toNat - s.image)))
  else none

/-- The image of a character under the first shift that moves it; other characters stay. -/
def shifted (shifts : List Shift) (c : Char) : Char :=
  (shifts.findSome? (·.image? c)).getD c

/-! ### Digits

The numbers that decimal and hexadecimal digits of ASCII write, the highest digit first. -/

/-- The value of a decimal digit. -/
def digitValue (c : Char) : Nat := c.toNat - '0'.toNat

def ofDigits (cs : List Char) : Nat := cs.foldl (fun n c => 10 * n + digitValue c) 0

/-- The value of a hexadecimal digit of either case. -/
def hexValue? (c : Char) : Option Nat :=
  if c.isDigit then some (digitValue c)
  else if 'a' ≤ c ∧ c ≤ 'f' then some (c.toNat - 'a'.toNat + 10)
  else if 'A' ≤ c ∧ c ≤ 'F' then some (c.toNat - 'A'.toNat + 10)
  else none

/-- The number that hexadecimal digits write after those of `n`; `none` if another character is among
them. -/
def ofHexAfter? (n : Nat) : List Char → Option Nat
  | [] => some n
  | c :: cs => (hexValue? c).bind fun d => ofHexAfter? (16 * n + d) cs

def ofHex? (cs : List Char) : Option Nat := ofHexAfter? 0 cs

end PassageEditor.Text
