import PassageEditor.Json.Error
import PassageEditor.Text.Line

/-!
# Readers of JSON text

A reader takes characters off the front of the text and stops at the first thing that is wrong, be it with
the text or with the form of the value.  A mismatch is found without a place; the innermost list, object
or scalar being read then gives it the place where reading stands.
-/

namespace PassageEditor.Json

/-- What is left to read, and how many more lists and objects may be opened inside one another. -/
structure Cursor where
  rest : List Char
  depth : Nat

/-- A place in the text, by the number of characters after it; `peeking` means the byte that comes
next. -/
structure Place where
  left : Nat
  peeking : Bool

structure Failure where
  cause : Cause
  place : Option Place

abbrev Reader := ExceptT Failure (StateM Cursor)

namespace Reader

def rest : Reader (List Char) := do return (← get).rest

def setRest (cs : List Char) : Reader Unit := modify ({ · with rest := cs })

/-- Fails with what is wrong at the place reached. -/
def fail {α : Type} (cause : Cause) : Reader α := do
  throw ⟨cause, some ⟨(← rest).length, false⟩⟩

/-- Fails with what is wrong at the next character. -/
def failNext {α : Type} (cause : Cause) : Reader α := do
  throw ⟨cause, some ⟨(← rest).length, true⟩⟩

/-- Fails with a mismatch, for which no place is known yet. -/
def mismatch {α : Type} (message : String) : Reader α :=
  throw ⟨.mismatch message, none⟩

/-- Gives a mismatch without a place the place reached. -/
def located {α : Type} (r : Reader α) : Reader α := fun c =>
  match r.run c with
  | (.error ⟨cause, none⟩, c) => (.error ⟨cause, some ⟨c.rest.length, false⟩⟩, c)
  | result => result

def ofExcept {α : Type} : Except String α → Reader α
  | .ok a => pure a
  | .error message => mismatch message

/-! ### Characters -/

def peek : Reader (Option Char) := do return (← rest).head?

def skip : Reader Unit := do setRest (← rest).tail

/-- Takes the next character off, if there is one. -/
def next : Reader (Option Char) := do
  let c ← peek
  skip
  return c

def isBlank (c : Char) : Bool := c = ' ' || c = '\n' || c = '\t' || c = '\r'

/-- Skips blanks and looks at what comes next. -/
def peekPast : Reader (Option Char) := do
  setRest ((← rest).dropWhile isBlank)
  peek

/-- The next character past blanks; the text may not end here. -/
def need (inside : Unfinished) : Reader Char := do
  match ← peekPast with
  | some c => return c
  | none => failNext (.ended inside)

/-- Reads the given characters one by one. -/
def ident : List Char → Reader Unit
  | [] => return
  | expected :: more => do
    match ← next with
    | none => fail (.ended .value)
    | some c => if c = expected then ident more else fail (.faulty .expectedIdent)

/-- Takes the digits off the front. -/
def digits : Reader (List Char) := do
  let cs ← rest
  let ds := cs.takeWhile Char.isDigit
  setRest (cs.drop ds.length)
  return ds

end Reader

end PassageEditor.Json
