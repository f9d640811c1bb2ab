import PassageEditor.Json.Reader.Scalar
import PassageEditor.Json.Reader.Skip

/-!
# Reading records and whole texts

A record is an object with named fields, or a list of its fields in their order.  A tagged value is an
object with a member `type`, or a list whose first item is the tag.  A reader is run on a text, after
which only blanks may follow; an error gets the line and the column of its place.
-/

namespace PassageEditor.Json.Reader

/-! ### Records -/

/-- A field of a record: its name, whether it must be given, and how its value is read into the record. -/
structure Field (σ : Type) where
  name : String
  required : Bool
  read : Reader (σ → σ)

/-- Reads a member of an object: a field at most once, and anything else not at all. -/
def member {σ : Type} (fields : List (Field σ)) (state : σ × List String) (key : String) :
    Reader (σ × List String) := do
  match fields.find? (·.name = key) with
  | none => colon; skipValue; return state
  | some field =>
    if state.2.contains key then mismatch (duplicateField key)
    else
      colon
      return ((← field.read) state.1, key :: state.2)

/-- The fields in their order, the first of them with number `number`; those at the end may be missing
unless they are required. -/
def fieldsInOrder {σ : Type} (expected : String) : (number : Nat) → List (Field σ) → σ → Reader σ
  | _, [], record => return record
  | number, field :: more, record => do
    if ← hasItem (number == 0) then
      fieldsInOrder expected (number + 1) more ((← field.read) record)
    else
      -- a list that has ended has none of the further fields
      match (field :: more).findIdx? (·.required) with
      | some i => mismatch (wrongLength (number + i) expected)
      | none => return record

/-- A record called `label`, given as an object or as a list of its fields. -/
def record {σ : Type} (label : String) (fields : List (Field σ)) (start : σ) : Reader σ := located do
  match ← need .value with
  | '[' =>
    enclosed (fieldsInOrder s!"{label} with {fields.length} elements" 0 fields start) closeList
  | '\x7b' =>
    enclosed (do
      let (record, seen) ← members (member fields) (← bound) true (start, [])
      match fields.find? fun f => f.required && !seen.contains f.name with
      | some field => mismatch (missingField field.name)
      | none => return record) closeObject
  | _ => unexpected label

/-! ### Tagged values -/

/-- The name of a variant, which must be one of `names`. -/
def variantName (names : List String) : Reader String := located do
  let s ← text "variant identifier"
  if names.contains s then return s else mismatch (unknownVariant s names)

/-- Reads the members of a tagged object into the tag, if it has come, and the other members, last one
first. -/
def taggedMember (names : List String) (state : Option String × List (String × Value)) (key : String) :
    Reader (Option String × List (String × Value)) := do
  if key = "type" then
    if state.1.isSome then mismatch (duplicateField key)
    else do colon; return (some (← variantName names), state.2)
  else do colon; return (state.1, (key, ← value) :: state.2)

/-- A value with a tag: an object with a member `type`, or a list whose first item is the tag.  Gives the
tag and what remains without it. -/
def tagged (label : String) (names : List String) : Reader (String × Value) := located do
  match ← need .value with
  | '[' =>
    enclosed (do
      if ← hasItem true then
        let tag ← variantName names
        return (tag, .list (← items value (← bound) false))
      else mismatch (missingField "type")) closeList
  | '\x7b' =>
    enclosed (do
      match ← members (taggedMember names) (← bound) true (none, []) with
      | (some tag, rest) => return (tag, .object rest.reverse)
      | (none, _) => mismatch (missingField "type")) closeObject
  | _ => unexpected label

/-! ### Reading a whole text -/

/-- Moves a line and a column past the characters; the column counts bytes. -/
def advance (line column : Nat) : List Char → Nat × Nat
  | [] => (line, column)
  | c :: cs => if c = '\n' then advance (line + 1) 0 cs else advance line (column + c.utf8Size) cs

/-- The error at a place of the text. -/
def locate (text : List Char) (f : Failure) : Error :=
  match f.place with
  | none => ⟨f.cause, 0, 0⟩
  | some place =>
    let (line, column) := advance 1 0 (text.take (text.length - place.left))
    match place.peeking, text[text.length - place.left]? with
    | true, some '\n' => ⟨f.cause, line + 1, 0⟩
    | true, some _ => ⟨f.cause, line, column + 1⟩
    | _, _ => ⟨f.cause, line, column⟩

/-- Reads a whole text, after which only blanks may follow. -/
def ofText {α : Type} (r : Reader α) (s : String) : Except Error α :=
  let whole : Reader α := do
    let a ← r
    match ← peekPast with
    | some _ => failNext (.faulty .trailingCharacters)
    | none => return a
  match (whole.run ⟨s.toList, 128⟩).1 with
  | .ok a => .ok a
  | .error f => .error (locate s.toList f)

end PassageEditor.Json.Reader
