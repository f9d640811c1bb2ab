/-!
# Decimal texts of binary numbers

The exact value of a binary floating-point number, its decimal text with a fixed number of places, and the
shortest decimal that stands for it.  A finite number is a sign and `mantissa * 2 ^ exponent`.
-/

namespace PassageEditor.Decimal

/-! ### Fixed decimals

Rounding is to the nearest decimal, and a tie goes to the even one. -/

/-- The sign and the exact magnitude `mantissa * 2 ^ exponent` of a finite number. -/
structure Binary where
  negative : Bool
  mantissa : Nat
  exponent : Int
  deriving DecidableEq, Repr

/-- The first bit of a mantissa, which the 64-bit pattern leaves out; below it stand 52 bits of the
fraction. -/
def hiddenBit : Nat := Nat.pow 2 52

/-- The parts of a 64-bit pattern, the all-ones exponent of infinities and NaN left aside. -/
def Binary.ofBits (bits : Nat) : Binary :=
  let negative := bits / hiddenBit / 2048 == 1
  let field := bits / hiddenBit % 2048
  let fraction := bits % hiddenBit
  if field = 0 then ⟨negative, fraction, -1074⟩
  else ⟨negative, hiddenBit + fraction, (field : Int) - 1075⟩

def Binary.ofFloat (x : Float) : Binary :=
  Binary.ofBits x.toBits.toNat

/-- The quotient rounded to the nearest natural number; a tie goes to the even neighbour. -/
def roundDiv (num den : Nat) : Nat :=
  let q := num / den
  let r := num % den
  if 2 * r < den then q
  else if den < 2 * r then q + 1
  else if q % 2 = 0 then q else q + 1

/-- `mantissa * 2 ^ exponent * scale`, rounded. -/
def Binary.scaled (b : Binary) (scale : Nat) : Nat :=
  if 0 ≤ b.exponent then b.mantissa * Nat.pow 2 b.exponent.toNat * scale
  else roundDiv (b.mantissa * scale) (Nat.pow 2 (-b.exponent).toNat)

/-- The decimal digits of a number, at least `width` of them. -/
def padded (width n : Nat) : List Char :=
  let digits := Nat.toDigits 10 n
  List.replicate (width - digits.length) '0' ++ digits

/-- The text of a finite number with `places` digits after the point. -/
def Binary.fixed (b : Binary) (places : Nat) : String :=
  let scale := Nat.pow 10 places
  let n := b.scaled scale
  let whole := Nat.toDigits 10 (n / scale)
  String.ofList ((if b.negative then ['-'] else []) ++ whole ++ '.' :: padded places (n % scale))

def fixed (places : Nat) (x : Float) : String :=
  (Binary.ofFloat x).fixed places

/-! ### Shortest decimals

The decimal of fewest digits that lies in the interval of reals rounding to a given binary number, and
among those of that length the one nearest to it.  How it is laid out is decided apart from the digits. -/

/-- A fraction of two natural numbers. -/
structure Ratio where
  num : Nat
  den : Nat

namespace Ratio

def le (a b : Ratio) : Bool := a.num * b.den ≤ b.num * a.den

def lt (a b : Ratio) : Bool := a.num * b.den < b.num * a.den

/-- `n * 2 ^ k`. -/
def scale2 (n : Nat) (k : Int) : Ratio :=
  if 0 ≤ k then ⟨n * Nat.pow 2 k.toNat, 1⟩ else ⟨n, Nat.pow 2 (-k).toNat⟩

/-- `n * 10 ^ k`. -/
def scale10 (n : Nat) (k : Int) : Ratio :=
  if 0 ≤ k then ⟨n * Nat.pow 10 k.toNat, 1⟩ else ⟨n, Nat.pow 10 (-k).toNat⟩

/-- The whole part of `a / b`. -/
def floorDiv (a b : Ratio) : Nat := a.num * b.den / (a.den * b.num)

end Ratio

/-- A decimal number: `digits * 10 ^ exponent`. -/
structure Scaled where
  digits : Nat
  exponent : Int
  deriving DecidableEq, Repr

/-- The interval of reals that round to a number: its ends, and whether they belong to it. -/
def Binary.interval (b : Binary) : Ratio × Ratio × Bool :=
  let low : Ratio :=
    if b.mantissa = hiddenBit ∧ b.exponent ≠ -1074 then .scale2 (4 * b.mantissa - 1) (b.exponent - 2)
    else .scale2 (2 * b.mantissa - 1) (b.exponent - 1)
  (low, .scale2 (2 * b.mantissa + 1) (b.exponent - 1), b.mantissa % 2 == 0)

/-- Whether a decimal rounds to the number. -/
def Binary.reads (b : Binary) (d : Scaled) : Bool :=
  let (low, high, closed) := b.interval
  let x := Ratio.scale10 d.digits d.exponent
  if closed then low.le x && x.le high else low.lt x && x.lt high

/-- The best decimal among the multiples of `10 ^ exponent`, if one of the two next to the number rounds
to it. -/
def Binary.onGrid? (b : Binary) (exponent : Int) : Option Scaled :=
  let v := Ratio.scale2 b.mantissa b.exponent
  let step := Ratio.scale10 1 exponent
  let q := v.floorDiv step
  let below : Scaled := ⟨q, exponent⟩
  let above : Scaled := ⟨q + 1, exponent⟩
  match b.reads below, b.reads above with
  | false, false => none
  | true, false => some below
  | false, true => some above
  | true, true =>
    -- twice the number against the sum of its two neighbours
    let twice : Ratio := ⟨2 * v.num, v.den⟩
    let sum : Ratio := .scale10 (2 * q + 1) exponent
    if twice.lt sum then some below
    else if sum.lt twice then some above
    else if q % 2 = 0 then some below else some above

/-- The exponent of the first decimal digit of a positive number. -/
def Binary.magnitude (b : Binary) : Int :=
  let v := Ratio.scale2 b.mantissa b.exponent
  let guess := ((Nat.log2 b.mantissa : Int) + b.exponent) * 30103 / 100000
  if (Ratio.scale10 1 (guess + 1)).le v then guess + 1
  else if (Ratio.scale10 1 guess).le v then guess
  else guess - 1

/-- The shortest decimal that rounds to a positive number. -/
def Binary.shortest (b : Binary) : Scaled :=
  let top := b.magnitude
  ((List.range 17).findSome? fun (n : Nat) => b.onGrid? (top - n)).getD ⟨b.mantissa, b.exponent⟩

/-- Takes the zeros off the end of the digits. -/
def Scaled.trimmed (d : Scaled) : (fuel : Nat) → Scaled
  | 0 => d
  | fuel + 1 => if d.digits % 10 = 0 then Scaled.trimmed ⟨d.digits / 10, d.exponent + 1⟩ fuel else d

/-- How a decimal is laid out: the least and the greatest exponent of a first digit that is written
without an exponent, and the least number of digits of an exponent. -/
structure Layout where
  least : Int
  greatest : Int
  exponentDigits : Nat

/-- The text of a positive decimal. -/
def Layout.text (l : Layout) (d : Scaled) : String :=
  let d := d.trimmed 20
  let ds := Nat.toDigits 10 d.digits
  let top : Int := d.exponent + ds.length - 1
  let body :=
    if l.least ≤ top ∧ top ≤ l.greatest then
      if 0 ≤ d.exponent then ds ++ List.replicate d.exponent.toNat '0' ++ ['.', '0']
      else if 0 ≤ top then ds.take (top.toNat + 1) ++ '.' :: ds.drop (top.toNat + 1)
      else ['0', '.'] ++ List.replicate (-top - 1).toNat '0' ++ ds
    else
      let sign := if top < 0 then '-' else '+'
      let fraction := if ds.length = 1 then [] else '.' :: ds.drop 1
      ds.take 1 ++ fraction ++ ['e', sign] ++ padded l.exponentDigits top.natAbs
  String.ofList body

/-- The text of a finite number. -/
def Layout.ofFloat (l : Layout) (x : Float) : String :=
  let b := Binary.ofFloat x
  let body := if b.mantissa = 0 then "0.0" else l.text b.shortest
  if b.negative then "-" ++ body else body

end PassageEditor.Decimal
