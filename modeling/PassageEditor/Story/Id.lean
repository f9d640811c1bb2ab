import PassageEditor.Text.CodePoint

/-!
# Identifiers

Passages and stories are named by 128-bit numbers.  They are written as 32 lower-case hexadecimal digits
in groups of 8, 4, 4, 4 and 12, with hyphens between the groups.
-/

namespace PassageEditor

structure PassageId where
  value : Nat
  deriving DecidableEq, Repr, Inhabited

structure StoryId where
  value : Nat
  deriving DecidableEq, Repr, Inhabited

namespace Id

/-- The lowest `count` hexadecimal digits of `n`, highest first. -/
def hexDigits : (count n : Nat) → List Char
  | 0, _ => []
  | count + 1, n => hexDigits count (n / 16) ++ [Nat.digitChar (n % 16)]

/-- Puts hyphens between groups of the given sizes. -/
def grouped : List Nat → List Char → List Char
  | [], cs => cs
  | [_], cs => cs
  | size :: sizes, cs => cs.take size ++ '-' :: grouped sizes (cs.drop size)

def text (n : Nat) : String :=
  String.ofList (grouped [8, 4, 4, 4, 12] (hexDigits 32 n))

/-- Takes the hyphens out of a text in groups of the given sizes; anything else is refused. -/
def ungrouped? : List Nat → List Char → Option (List Char)
  | [], cs => if cs.isEmpty then some [] else none
  | [size], cs => if cs.length = size then some cs else none
  | size :: sizes, cs =>
    match cs.drop size with
    | '-' :: rest => (ungrouped? sizes rest).map (cs.take size ++ ·)
    | _ => none

def ofGrouped? (cs : List Char) : Option Nat := (ungrouped? [8, 4, 4, 4, 12] cs).bind Text.ofHex?

/-- Reads 32 digits without hyphens, or in groups. -/
def ofPlain? (cs : List Char) : Option Nat :=
  if cs.length = 32 then Text.ofHex? cs else ofGrouped? cs

/-- Reads an identifier: plain or grouped digits, grouped digits in braces, or grouped digits after
`urn:uuid:`. -/
def ofText? (s : String) : Option Nat :=
  match s.toList with
  | 'u' :: 'r' :: 'n' :: ':' :: 'u' :: 'u' :: 'i' :: 'd' :: ':' :: cs => ofGrouped? cs
  | '\x7b' :: cs => if cs.getLast? = some '\x7d' then ofGrouped? cs.dropLast else none
  | cs => ofPlain? cs

end Id

end PassageEditor
