import PassageEditor.Json.Value

/-!
# Decoding JSON values

From a value that is already read to a typed one.  What does not fit is told in words.
-/

namespace PassageEditor.Json

abbrev Decoder (α : Type) := Value → Except String α

namespace Decode

def text : Decoder String
  | .text s => .ok s
  | v => .error (wrongType v.describe "a string")

def bool : Decoder Bool
  | .bool b => .ok b
  | v => .error (wrongType v.describe "a boolean")

/-- A whole number of 64 bits without sign. -/
def unsigned64 : Decoder Nat
  | .number (.unsigned n) => .ok n
  | .number (.negative n) => .error (wrongValue (Number.negative n).describe "usize")
  | v => .error (wrongType v.describe "usize")

def optional {α : Type} (d : Decoder α) : Decoder (Option α)
  | .null => .ok none
  | v => (d v).map some

def list {α : Type} (d : Decoder α) : Decoder (List α)
  | .list vs => vs.mapM d
  | v => .error (wrongType v.describe "a sequence")

/-! ### Records -/

/-- A field of a record: its name, whether it must be given, and how its value is put into the record. -/
structure Field (σ : Type) where
  name : String
  required : Bool
  put : Value → Except String (σ → σ)

/-- A field that holds what `d` decodes. -/
def Field.of {σ α : Type} (name : String) (required : Bool) (d : Decoder α) (set : α → σ → σ) : Field σ :=
  ⟨name, required, fun v => (d v).map set⟩

/-- The members of an object, a field at most once; the names of the fields seen are the second
component. -/
def members {σ : Type} (fields : List (Field σ)) :
    List (String × Value) → σ → List String → Except String (σ × List String)
  | [], record, seen => .ok (record, seen)
  | (key, v) :: rest, record, seen =>
    match fields.find? (·.name = key) with
    | none => members fields rest record seen
    | some field =>
      if seen.contains key then .error (duplicateField key)
      else
        match field.put v with
        | .error message => .error message
        | .ok set => members fields rest (set record) (key :: seen)

/-- The items of a list as fields in their order; `number` items came before, `total` are there in all. -/
def inOrder {σ : Type} (expected : String) (total : Nat) :
    (number : Nat) → List (Field σ) → List Value → σ → Except String σ
  | _, [], [], record => .ok record
  | number, [], _ :: _, _ =>
    .error (wrongLength total
      (if number = 1 then "1 element in sequence" else s!"{number} elements in sequence"))
  | number, fields, [], record =>
    match fields.findIdx? (·.required) with
    | some i => .error (wrongLength (number + i) expected)
    | none => .ok record
  | number, field :: fields, v :: vs, record =>
    match field.put v with
    | .error message => .error message
    | .ok set => inOrder expected total (number + 1) fields vs (set record)

/-- A record called `label`, given as an object or as a list of its fields. -/
def record {σ : Type} (label : String) (fields : List (Field σ)) (start : σ) : Decoder σ
  | .list vs => inOrder s!"{label} with {fields.length} elements" vs.length 0 fields vs start
  | .object pairs =>
    match members fields pairs start [] with
    | .error message => .error message
    | .ok (record, seen) =>
      match fields.find? fun f => f.required && !seen.contains f.name with
      | some field => .error (missingField field.name)
      | none => .ok record
  | v => .error (wrongType v.describe label)

/-- A variant without fields of its own: any object, or an empty list. -/
def empty (label : String) : Decoder Unit
  | .object _ => .ok ()
  | .list [] => .ok ()
  | .list vs => .error (wrongLength vs.length "0 elements in sequence")
  | v => .error (wrongType v.describe label)

/-! ### Tagged values -/

/-- The name of a variant, given by itself or by its number. -/
def variantName (names : List String) : Decoder String
  | .text s => if names.contains s then .ok s else .error (unknownVariant s names)
  | .number (.unsigned n) =>
    match names[n]? with
    | some s => .ok s
    | none => .error (wrongValue (Number.unsigned n).describe s!"variant index 0 <= i < {names.length}")
  | v => .error (wrongType v.describe "variant identifier")

/-- Takes the member `type` out of an object. -/
def tagMember (names : List String) :
    List (String × Value) → Option String → Except String (Option String × List (String × Value))
  | [], tag => .ok (tag, [])
  | (key, v) :: rest, tag =>
    if key = "type" then
      if tag.isSome then .error (duplicateField key)
      else
        match variantName names v with
        | .error message => .error message
        | .ok s => tagMember names rest (some s)
    else (tagMember names rest tag).map fun p => (p.1, (key, v) :: p.2)

/-- A value with a tag: an object with a member `type`, or a list whose first item is the tag. -/
def tagged (label : String) (names : List String) : Decoder (String × Value)
  | .list [] => .error (missingField "type")
  | .list (v :: vs) => (variantName names v).map (·, .list vs)
  | .object pairs =>
    match tagMember names pairs none with
    | .error message => .error message
    | .ok (some tag, rest) => .ok (tag, .object rest)
    | .ok (none, _) => .error (missingField "type")
  | v => .error (wrongType v.describe label)

end Decode

end PassageEditor.Json
