import PassageEditor.Text.CaseMap
import PassageEditor.Text.Class

/-!
# Converting a text

Full lower-casing of a text, trimming, and how a text is shown inside quotes.
-/

namespace PassageEditor.Text

/-! ### Lower case

Two characters need more than the one-to-one map: a capital I with a dot becomes two characters, and a
capital sigma becomes a final sigma at the end of a word. -/

/-- Whether, after case-ignorable characters, a cased one follows. -/
def casedFollows (cs : List Char) : Bool :=
  match cs.dropWhile isCaseIgnorable with
  | [] => false
  | c :: _ => isCased c

/-- The lower case of `c`, which stands between `before` (nearest character first) and `after`. -/
def lowerChar (before : List Char) (c : Char) (after : List Char) : List Char :=
  if c = 'Σ' then [if casedFollows before && !casedFollows after then 'ς' else 'σ']
  else if c = 'İ' then ['i', '\u0307']
  else [shifted lowerShifts c]

/-- The lower case of `cs`, given the characters before it, nearest first. -/
def lowerAfter (before : List Char) : List Char → List Char
  | [] => []
  | c :: cs => lowerChar before c cs ++ lowerAfter (c :: before) cs

def lower (s : String) : String :=
  String.ofList (lowerAfter [] s.toList)

/-- Lower case for the letters A to Z only. -/
def lowerAscii (s : String) : String :=
  String.ofList (s.toList.map Char.toLower)

/-! ### Trimming -/

/-- The characters without white space at the front. -/
def trimLeft (cs : List Char) : List Char :=
  cs.dropWhile isWhiteSpace

/-- The text without white space at both ends. -/
def trim (s : String) : String :=
  String.ofList (trimLeft (trimLeft s.toList).reverse).reverse

/-! ### Quoting

A text inside double quotes in messages: quotes, backslashes and the common controls with a backslash, and
whatever has no shape of its own, or attaches to the character before it, by its code point. -/

/-- Characters with a shape: letters, marks, numbers, punctuation and symbols, and the plain space. -/
def isPrintable (c : Char) : Bool :=
  c = ' ' || isLetter c || isMark c || isNumeric c ||
    [connectorPunctuation, dashPunctuation, openPunctuation, closePunctuation, initialPunctuation,
      finalPunctuation, otherPunctuation, mathSymbols, currencySymbols, modifierSymbols,
      otherSymbols].any (inSpans · c)

def quotedChar (c : Char) : List Char :=
  match c with
  | '"' => ['\\', '"']
  | '\\' => ['\\', '\\']
  | '\n' => ['\\', 'n']
  | '\r' => ['\\', 'r']
  | '\t' => ['\\', 't']
  | '\x00' => ['\\', '0']
  | c =>
    if c.toNat < 127 && 32 ≤ c.toNat then [c]
    else if isPrintable c && !isExtender c then [c]
    else ['\\', 'u', '\x7b'] ++ Nat.toDigits 16 c.toNat ++ ['\x7d']

def quoted (s : String) : String :=
  String.ofList ('"' :: s.toList.flatMap quotedChar ++ ['"'])

end PassageEditor.Text
