import PassageEditor.Json.Reader.Basic
import PassageEditor.Text.CodePoint

/-!
# Reading texts

Texts in double quotes, with escapes after a backslash.  Two escapes that are halves of one character make
that character.
-/

namespace PassageEditor.Json.Reader

/-- The number written by four hexadecimal digits. -/
def hexEscape : Reader Nat := do
  let cs ← rest
  if Text.byteLength (cs.take 4) < 4 then
    setRest []
    fail (.ended .text)
  else
    setRest (cs.drop 4)
    match Text.ofHex? (cs.take 4) with
    | some n => return n
    | none => fail (.faulty .invalidEscape)

/-- The next character of an escape that must be `expected`. -/
def escapeMark (expected : Char) : Reader Unit := do
  match ← peek with
  | none => fail (.ended .text)
  | some c =>
    skip
    if c ≠ expected then fail (.faulty .unexpectedEndOfEscape)

/-- The character of a `\u` escape; two surrogates make one character. -/
def unicodeEscape : Reader Char := do
  let high ← hexEscape
  if 0xDC00 ≤ high && high ≤ 0xDFFF then fail (.faulty .loneSurrogate)
  else if high < 0xD800 || 0xDBFF < high then return Char.ofNat high
  else
    escapeMark '\\'
    escapeMark 'u'
    let low ← hexEscape
    if low < 0xDC00 || 0xDFFF < low then fail (.faulty .loneSurrogate)
    else return Char.ofNat ((high - 0xD800) * 1024 + (low - 0xDC00) + 0x10000)

/-- The character after a backslash. -/
def escape : Reader Char := do
  match ← next with
  | none => fail (.ended .text)
  | some '"' => return '"'
  | some '\\' => return '\\'
  | some '/' => return '/'
  | some 'b' => return '\x08'
  | some 'f' => return '\x0c'
  | some 'n' => return '\n'
  | some 'r' => return '\r'
  | some 't' => return '\t'
  | some 'u' => unicodeEscape
  | some _ => fail (.faulty .invalidEscape)

/-- The characters up to the closing quote, at most `fuel` of them. -/
def textBody : (fuel : Nat) → Reader (List Char)
  | 0 => fail (.ended .text)
  | fuel + 1 => do
    match ← peek with
    | none => fail (.ended .text)
    | some '"' => skip; return []
    | some '\\' => skip; let c ← escape; return c :: (← textBody fuel)
    | some c =>
      skip
      if c.toNat < 32 then fail (.faulty .controlCharacter) else return c :: (← textBody fuel)

/-- A text whose opening quote comes next. -/
def quotedText : Reader String := do
  skip
  return String.ofList (← textBody ((← rest).length + 1))

end PassageEditor.Json.Reader
