/-!
# Errors of reading JSON

What can go wrong when a typed value is read from a JSON text: the text ends too early, it is not JSON, or
it is JSON but not of the wanted form.  An error carries the place where reading stopped.
-/

namespace PassageEditor.Json

/-- The rule of JSON that a text breaks. -/
inductive Fault
  | expectedColon
  | expectedListCommaOrEnd
  | expectedObjectCommaOrEnd
  | expectedIdent
  | expectedValue
  | invalidEscape
  | invalidNumber
  | numberOutOfRange
  | controlCharacter
  | keyMustBeText
  | loneSurrogate
  | trailingComma
  | trailingCharacters
  | unexpectedEndOfEscape
  | recursionLimit
  deriving DecidableEq, Repr

/-- What the text ends in the middle of. -/
inductive Unfinished
  | list
  | object
  | text
  | value
  deriving DecidableEq, Repr

inductive Cause
  | faulty (fault : Fault)
  | ended (inside : Unfinished)
  /-- A value of the wrong form, in words. -/
  | mismatch (message : String)
  deriving DecidableEq, Repr

inductive Category
  | syntactic
  | endOfInput
  | data
  deriving DecidableEq, Repr

def Cause.category : Cause → Category
  | faulty _ => .syntactic
  | ended _ => .endOfInput
  | mismatch _ => .data

def Fault.message : Fault → String
  | expectedColon => "expected \x60:\x60"
  | expectedListCommaOrEnd => "expected \x60,\x60 or \x60]\x60"
  | expectedObjectCommaOrEnd => "expected \x60,\x60 or \x60\x7d\x60"
  | expectedIdent => "expected ident"
  | expectedValue => "expected value"
  | invalidEscape => "invalid escape"
  | invalidNumber => "invalid number"
  | numberOutOfRange => "number out of range"
  | controlCharacter => "control character (\\u0000-\\u001F) found while parsing a string"
  | keyMustBeText => "key must be a string"
  | loneSurrogate => "lone leading surrogate in hex escape"
  | trailingComma => "trailing comma"
  | trailingCharacters => "trailing characters"
  | unexpectedEndOfEscape => "unexpected end of hex escape"
  | recursionLimit => "recursion limit exceeded"

def Unfinished.message : Unfinished → String
  | list => "EOF while parsing a list"
  | object => "EOF while parsing an object"
  | text => "EOF while parsing a string"
  | value => "EOF while parsing a value"

def Cause.message : Cause → String
  | faulty fault => fault.message
  | ended inside => inside.message
  | mismatch message => message

/-- An error with its line, counted from one, and its column, counted in bytes. -/
structure Error where
  cause : Cause
  line : Nat
  column : Nat
  deriving DecidableEq, Repr

def Error.message (e : Error) : String :=
  s!"{e.cause.message} at line {e.line} column {e.column}"

end PassageEditor.Json
