import PassageEditor.Text.Class
import PassageEditor.Text.CodePoint
import PassageEditor.Text.Script

/-!
# Named properties of characters

The properties that a pattern can ask for by name: general categories and groups of them, a few derived
properties, and scripts.  Names are compared without case, blanks, hyphens, underscores and a leading
`is`.
-/

namespace PassageEditor.Text

/-- The general categories of assigned code points. -/
def categories : List (String × List Span) :=
  [("lu", uppercaseLetters), ("ll", lowercaseLetters), ("lt", titlecaseLetters), ("lm", modifierLetters),
   ("lo", otherLetters), ("mn", nonspacingMarks), ("mc", spacingMarks), ("me", enclosingMarks),
   ("nd", decimalDigits), ("nl", letterNumbers), ("no", otherNumbers), ("pc", connectorPunctuation),
   ("pd", dashPunctuation), ("ps", openPunctuation), ("pe", closePunctuation), ("pi", initialPunctuation),
   ("pf", finalPunctuation), ("po", otherPunctuation), ("sm", mathSymbols), ("sc", currencySymbols),
   ("sk", modifierSymbols), ("so", otherSymbols), ("zs", spaceSeparators), ("zl", lineSeparators),
   ("zp", paragraphSeparators), ("cc", controls), ("cf", formats), ("co", privateUse)]

/-- The short name of the category of a code point; `cn` for one that is not assigned. -/
def category (c : Char) : String :=
  ((categories.find? fun p => inSpans p.2 c).map (·.1)).getD "cn"

/-- Long names of categories and groups, with their short names. -/
def categoryAliases : List (String × String) :=
  [("letter", "l"), ("uppercaseletter", "lu"), ("lowercaseletter", "ll"), ("titlecaseletter", "lt"),
   ("casedletter", "lc"), ("modifierletter", "lm"), ("otherletter", "lo"), ("mark", "m"),
   ("combiningmark", "m"), ("nonspacingmark", "mn"), ("spacingmark", "mc"), ("enclosingmark", "me"),
   ("number", "n"), ("decimalnumber", "nd"), ("digit", "nd"), ("letternumber", "nl"),
   ("othernumber", "no"), ("punctuation", "p"), ("punct", "p"), ("connectorpunctuation", "pc"),
   ("dashpunctuation", "pd"), ("openpunctuation", "ps"), ("closepunctuation", "pe"),
   ("initialpunctuation", "pi"), ("finalpunctuation", "pf"), ("otherpunctuation", "po"),
   ("symbol", "s"), ("mathsymbol", "sm"), ("currencysymbol", "sc"), ("modifiersymbol", "sk"),
   ("othersymbol", "so"), ("separator", "z"), ("spaceseparator", "zs"), ("lineseparator", "zl"),
   ("paragraphseparator", "zp"), ("other", "c"), ("control", "cc"), ("cntrl", "cc"), ("format", "cf"),
   ("privateuse", "co"), ("unassigned", "cn"), ("surrogate", "cs")]

def scripts : List (String × List Span) :=
  [("latin", latinScript), ("latn", latinScript), ("greek", greekScript), ("grek", greekScript),
   ("cyrillic", cyrillicScript), ("cyrl", cyrillicScript), ("han", hanScript), ("hani", hanScript),
   ("hiragana", hiraganaScript), ("hira", hiraganaScript), ("katakana", katakanaScript),
   ("kana", katakanaScript), ("hangul", hangulScript), ("hang", hangulScript),
   ("arabic", arabicScript), ("arab", arabicScript), ("hebrew", hebrewScript), ("hebr", hebrewScript),
   ("thai", thaiScript), ("devanagari", devanagariScript), ("deva", devanagariScript),
   ("armenian", armenianScript), ("armn", armenianScript), ("georgian", georgianScript),
   ("geor", georgianScript)]

def isHexDigit (c : Char) : Bool :=
  (hexValue? c).isSome || inSpans [⟨65296, 65305, 1⟩, ⟨65313, 65318, 1⟩, ⟨65345, 65350, 1⟩] c

/-- Properties that are put together from categories and a few single characters. -/
def derivedProperties : List (String × (Char → Bool)) :=
  [("alphabetic", isAlphabetic), ("alpha", isAlphabetic), ("uppercase", isUppercase),
   ("upper", isUppercase), ("lowercase", isLowercase), ("lower", isLowercase), ("cased", isCased),
   ("caseignorable", isCaseIgnorable), ("ci", isCaseIgnorable), ("graphemeextend", isExtender),
   ("grext", isExtender), ("joincontrol", inSpans joinControls), ("joinc", inSpans joinControls),
   ("hexdigit", isHexDigit), ("hex", isHexDigit), ("asciihexdigit", fun c => (hexValue? c).isSome),
   ("ahex", fun c => (hexValue? c).isSome), ("idstart", isIdentifierStart),
   ("ids", isIdentifierStart), ("idcontinue", isIdentifierPart), ("idc", isIdentifierPart),
   ("xidstart", isStableStart), ("xids", isStableStart), ("xidcontinue", isStablePart),
   ("xidc", isStablePart)]

inductive Property
  | any
  | assigned
  | ascii
  | whiteSpace
  /-- Alphabetic, marks, decimal digits, connectors and join controls. -/
  | word
  /-- The categories with these short names. -/
  | category (names : List String)
  | derived (name : String)
  | script (name : String)
  deriving DecidableEq, Repr

def isWord (c : Char) : Bool :=
  isAlphabetic c || isMark c || isDecimalDigit c || inSpans connectorPunctuation c ||
    inSpans joinControls c

def Property.holds : Property → Char → Bool
  | any, _ => true
  | assigned, c => Text.category c ≠ "cn"
  | ascii, c => c.toNat < 128
  | whiteSpace, c => isWhiteSpace c
  | word, c => isWord c
  | category ["nd"], c => isDecimalDigit c
  | category names, c => names.contains (Text.category c)
  | derived name, c => ((derivedProperties.lookup name).map (· c)).getD false
  | script name, c => ((scripts.lookup name).map (inSpans · c)).getD false

namespace Property

/-- The form in which names are compared. -/
def normalName (cs : List Char) : String :=
  let cs := (cs.filter fun c => c ≠ ' ' && c ≠ '_' && c ≠ '-').map Char.toLower
  match cs with
  | 'i' :: 's' :: 'c' :: [] => "isc"
  | 'i' :: 's' :: rest => String.ofList rest
  | _ => String.ofList cs

/-- A category or a group of categories. -/
def ofCategoryName? (name : String) : Option Property :=
  let short := (categoryAliases.lookup name).getD name
  if short = "any" then some .any
  else if short = "assigned" then some .assigned
  else if short = "ascii" then some .ascii
  else if short = "lc" then some (.category ["lu", "ll", "lt"])
  else if short = "c" then some (.category ["cc", "cf", "co", "cn"])
  else if short = "cn" || short = "cs" then some (.category [short])
  else
    match (categories.map (·.1)).filter fun n => n = short || String.ofList (n.toList.take 1) = short with
    | [] => none
    | names => some (.category names)

def ofScriptName? (name : String) : Option Property :=
  (scripts.lookup name).map fun _ => .script name

/-- A property, a category or a script. -/
def ofName? (name : String) : Option Property :=
  match name with
  | "whitespace" | "wspace" | "space" => some .whiteSpace
  | _ =>
    if (derivedProperties.lookup name).isSome then some (.derived name)
    else (ofCategoryName? name).or (ofScriptName? name)

/-- The value of a property that has several. -/
def ofValue? (property value : String) : Option Property :=
  match property with
  | "generalcategory" | "gc" => ofCategoryName? value
  | "script" | "sc" | "scriptextensions" | "scx" => ofScriptName? value
  | _ => none

end Property

end PassageEditor.Text
