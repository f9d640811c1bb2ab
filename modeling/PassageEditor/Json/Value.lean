import PassageEditor.Decimal
import PassageEditor.Text.Conversion

/-!
# JSON values

A value as it was read, its members in the order of the text.  Numbers keep apart the whole numbers that
fit into 64 bits; all others are floating-point numbers.
-/

namespace PassageEditor.Json

inductive Number
  | unsigned (n : Nat)
  /-- The whole number below zero with this magnitude. -/
  | negative (n : Nat)
  | float (x : Float)

inductive Value
  | null
  | bool (b : Bool)
  | number (n : Number)
  | text (s : String)
  | list (items : List Value)
  | object (members : List (String × Value))

/-- Numbers in messages: an exponent only below -5 or above 15, signed and of two digits at least. -/
def numberLayout : Decimal.Layout := ⟨-5, 15, 2⟩

/-- What a number is called in messages. -/
def Number.describe : Number → String
  | unsigned n => s!"integer \x60{n}\x60"
  | negative n => s!"integer \x60-{n}\x60"
  | float x => s!"floating point \x60{numberLayout.ofFloat x}\x60"

/-- What a value is called in messages. -/
def Value.describe : Value → String
  | null => "null"
  | bool b => s!"boolean \x60{b}\x60"
  | number n => n.describe
  | text s => "string " ++ Text.quoted s
  | list _ => "sequence"
  | object _ => "map"

/-! ### Messages -/

def wrongType (found expected : String) : String :=
  s!"invalid type: {found}, expected {expected}"

def wrongValue (found expected : String) : String :=
  s!"invalid value: {found}, expected {expected}"

def wrongLength (length : Nat) (expected : String) : String :=
  s!"invalid length {length}, expected {expected}"

def missingField (name : String) : String := s!"missing field \x60{name}\x60"

def duplicateField (name : String) : String := s!"duplicate field \x60{name}\x60"

/-- A list of choices, each in backticks. -/
def choices : List String → String
  | [] => "there are no variants"
  | [a] => s!"expected \x60{a}\x60"
  | [a, b] => s!"expected \x60{a}\x60 or \x60{b}\x60"
  | names => "expected one of " ++ String.intercalate ", " (names.map fun n => s!"\x60{n}\x60")

def unknownVariant (name : String) (names : List String) : String :=
  s!"unknown variant \x60{name}\x60, {choices names}"

end PassageEditor.Json
