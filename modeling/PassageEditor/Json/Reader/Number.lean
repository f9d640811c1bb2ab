import PassageEditor.Json.Reader.Basic
import PassageEditor.Json.Value
import PassageEditor.Text.CodePoint

/-!
# Reading numbers

A whole number that fits into 64 bits is kept whole.  Any other number is floating-point: the digits that
fit into 64 bits, times a power of ten.
-/

namespace PassageEditor.Json.Reader

/-- The whole number with the given digits after those of `n`, as far as it stays below `2 ^ 64`; the
digits left over are the second component. -/
def accumulate (n : Nat) : List Char → Nat × List Char
  | [] => (n, [])
  | d :: ds =>
    let m := 10 * n + Text.digitValue d
    if m < UInt64.size then accumulate m ds else (n, d :: ds)

/-- `significand * 10 ^ exponent` in floating point: a power of ten at a time, none above `10 ^ 308`. -/
def scaled (positive : Bool) (significand : Nat) (exponent : Int) : Reader Float :=
  let rec go : Nat → Float → Int → Option Float
    | 0, x, _ => some x
    | fuel + 1, x, e =>
      if e.natAbs ≤ 308 then
        let power := Float.ofScientific 1 false e.natAbs
        if 0 ≤ e then (if (x * power).isInf then none else some (x * power)) else some (x / power)
      else if x == 0.0 then some x
      else if 0 ≤ e then none
      else go fuel (x / Float.ofScientific 1 false 308) (e + 308)
  match go (exponent.natAbs / 308 + 1) significand.toUInt64.toFloat exponent with
  | none => fail (.faulty .numberOutOfRange)
  | some x => return if positive then x else -x

/-- The part from an `e` on. -/
def exponentPart (positive : Bool) (significand : Nat) (start : Int) : Reader Float := do
  skip
  let sign ← peek
  if sign = some '+' || sign = some '-' then skip
  match ← next with
  | none => fail (.ended .value)
  | some c =>
    if !c.isDigit then fail (.faulty .invalidNumber)
    else
      let cs ← rest
      let more := cs.takeWhile Char.isDigit
      let e := Text.ofDigits (c :: more)
      if UInt32.size ≤ 2 * e then
        -- the digits up to the one that is too much are read before the number is refused
        if significand ≠ 0 && sign ≠ some '-' then
          setRest (cs.drop 9)
          fail (.faulty .numberOutOfRange)
        else
          setRest (cs.drop more.length)
          return if positive then 0.0 else -0.0
      else
        setRest (cs.drop more.length)
        scaled positive significand (if sign = some '-' then start - e else start + e)

/-- What follows the digits of a floating-point number. -/
def afterDigits (positive : Bool) (significand : Nat) (exponent : Int) : Reader Float := do
  match ← peek with
  | some 'e' | some 'E' => exponentPart positive significand exponent
  | _ => scaled positive significand exponent

/-- The part from the point on.  Digits that no longer fit into 64 bits are dropped. -/
def fractionPart (positive : Bool) (significand : Nat) (start : Int) : Reader Float := do
  skip
  let ds ← digits
  let (significand, dropped) := accumulate significand ds
  let used := ds.length - dropped.length
  if ds.isEmpty then
    match ← peek with
    | some _ => failNext (.faulty .invalidNumber)
    | none => failNext (.ended .value)
  else afterDigits positive significand (start - used)

/-- A number without its sign. -/
def number (positive : Bool) : Reader Number := do
  match ← next with
  | none => fail (.ended .value)
  | some c =>
    if !c.isDigit then fail (.faulty .invalidNumber)
    else
      let following ← peek
      if c = '0' && (following.map Char.isDigit).getD false then failNext (.faulty .invalidNumber)
      else
        let (significand, dropped) := accumulate 0 (c :: (← digits))
        let exponent : Int := dropped.length
        match ← peek with
        | some '.' => return .float (← fractionPart positive significand exponent)
        | some 'e' | some 'E' => return .float (← exponentPart positive significand exponent)
        | _ =>
          if !dropped.isEmpty then return .float (← scaled positive significand exponent)
          else if positive then return .unsigned significand
          else if significand = 0 || UInt64.size < 2 * significand then
            return .float (-significand.toUInt64.toFloat)
          else return .negative significand

end PassageEditor.Json.Reader
