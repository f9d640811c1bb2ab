import PassageEditor.Text.Category.Alphanumeric
import PassageEditor.Text.Category.Mark
import PassageEditor.Text.Category.Punctuation
import PassageEditor.Text.Category.Symbol
import PassageEditor.Text.Property

/-!
# Character classes

The classes that the editor asks about, over all of Unicode: letters and numbers for words, white space
for trimming, decimal digits for placeholder numbers, the two classes that decide how a sigma is
lower-cased, what attaches to another character, and what identifiers are made of.
-/

namespace PassageEditor.Text

def isLetter (c : Char) : Bool :=
  inSpans lowercaseLetters c || inSpans uppercaseLetters c || inSpans otherLetters c ||
    inSpans modifierLetters c || inSpans titlecaseLetters c

/-- The property Alphabetic: letters, letter numbers and a few marks and symbols. -/
def isAlphabetic (c : Char) : Bool :=
  isLetter c || inSpans letterNumbers c || inSpans otherAlphabetic c

/-- A number of any kind: decimal digits, letter numbers, fractions and superscripts. -/
def isNumeric (c : Char) : Bool :=
  inSpans decimalDigits c || inSpans letterNumbers c || inSpans otherNumbers c

def isAlphanumeric (c : Char) : Bool :=
  isAlphabetic c || isNumeric c

def isDecimalDigit (c : Char) : Bool :=
  inSpans decimalDigits c

def isWhiteSpace (c : Char) : Bool :=
  inSpans whiteSpace c

def isMark (c : Char) : Bool :=
  inSpans nonspacingMarks c || inSpans spacingMarks c || inSpans enclosingMarks c

def isUppercase (c : Char) : Bool :=
  inSpans uppercaseLetters c || inSpans otherUppercase c

def isLowercase (c : Char) : Bool :=
  inSpans lowercaseLetters c || inSpans otherLowercase c

/-- Upper, lower or title case. -/
def isCased (c : Char) : Bool :=
  isLowercase c || isUppercase c || inSpans titlecaseLetters c

/-- Characters that a word may hold between cased letters without ending, such as an apostrophe. -/
def isCaseIgnorable (c : Char) : Bool :=
  inSpans wordMiddles c || inSpans nonspacingMarks c || inSpans enclosingMarks c || inSpans formats c ||
    inSpans modifierLetters c || inSpans modifierSymbols c

/-- Characters that attach to the one before them. -/
def isExtender (c : Char) : Bool :=
  inSpans nonspacingMarks c || inSpans enclosingMarks c || inSpans otherExtenders c

/-! ### Identifiers

The characters that an identifier may start with and those that it may go on with.  An identifier is
stable if it remains one when its compatibility characters are replaced by plain ones. -/

/-- The property Other_ID_Start. -/
def otherIdentifierStarts : List Span :=
  [⟨6277, 6278, 1⟩, ⟨8472, 8472, 1⟩, ⟨8494, 8494, 1⟩, ⟨12443, 12444, 1⟩]

/-- The property Other_ID_Continue. -/
def otherIdentifierParts : List Span :=
  [⟨183, 183, 1⟩, ⟨903, 903, 1⟩, ⟨4969, 4977, 1⟩, ⟨6618, 6618, 1⟩, ⟨8204, 8205, 1⟩, ⟨12539, 12539, 1⟩,
   ⟨65381, 65381, 1⟩]

/-- Parts of identifiers that are not parts of stable ones. -/
def unstableParts : List Span :=
  [⟨890, 890, 1⟩, ⟨12443, 12444, 1⟩, ⟨64606, 64611, 1⟩, ⟨65018, 65019, 1⟩, ⟨65136, 65150, 2⟩]

/-- Characters that stable identifiers may go on but not start with, because of what replaces them. -/
def unstableStarts : List Span :=
  [⟨3635, 3635, 1⟩, ⟨3763, 3763, 1⟩, ⟨65438, 65439, 1⟩]

/-- The property ID_Start: letters and letter numbers, apart from the vertical tilde. -/
def isIdentifierStart (c : Char) : Bool :=
  (isLetter c || inSpans letterNumbers c || inSpans otherIdentifierStarts c) && c ≠ '\u2e2f'

/-- The property ID_Continue: also marks, decimal digits and connectors. -/
def isIdentifierPart (c : Char) : Bool :=
  isIdentifierStart c || inSpans nonspacingMarks c || inSpans spacingMarks c || isDecimalDigit c ||
    inSpans connectorPunctuation c || inSpans otherIdentifierParts c

/-- The property XID_Start. -/
def isStableStart (c : Char) : Bool :=
  isIdentifierStart c && !inSpans unstableParts c && !inSpans unstableStarts c

/-- The property XID_Continue. -/
def isStablePart (c : Char) : Bool :=
  isIdentifierPart c && !inSpans unstableParts c

end PassageEditor.Text
