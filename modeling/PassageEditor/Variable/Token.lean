import PassageEditor.Json.Decode
import PassageEditor.Json.Reader
import PassageEditor.Text.Position

/-!
# Variable tokens

What the parser of a story format finds in the text of a passage: names built into the format, and
variables, which are definitions where they come with an expression.
-/

namespace PassageEditor

/-- A variable in the text, with the expression it is given if there is one. -/
structure VariableToken where
  name : String
  position : Position
  expression : Option String
  /-- Whether it belongs to its passage alone. -/
  isLocal : Bool
  deriving DecidableEq, Repr

/-- The expression of a definition; an empty one does not count. -/
def VariableToken.definition? (t : VariableToken) : Option String :=
  t.expression.filter (· ≠ "")

def VariableToken.isDefinition (t : VariableToken) : Bool := t.definition?.isSome

inductive Token
  /-- A name built into the format. -/
  | native (name : String)
  | mention (token : VariableToken)
  deriving DecidableEq, Repr

/-! ### Reading -/

namespace Token

open Json Json.Decode

def position : Decoder Position :=
  record "struct TextPosition"
    [.of "line" true unsigned64 fun x p => { p with line := x },
     .of "ch" true unsigned64 fun x p => { p with ch := x }]
    .origin

def variableToken : Decoder VariableToken :=
  record "struct VariableToken"
    [.of "name" true text fun x t => { t with name := x },
     .of "position" true position fun x t => { t with position := x },
     .of "expression" false (optional text) fun x t => { t with expression := x },
     .of "local" false bool fun x t => { t with isLocal := x }]
    ⟨"", .origin, none, false⟩

/-- A text is a native name, anything else a variable. -/
def ofValue (v : Value) : Except String Token :=
  match v with
  | .text name => .ok (.native name)
  | v =>
    match variableToken v with
    | .ok t => .ok (.mention t)
    | .error _ => .error "data did not match any variant of untagged enum ParsedToken"

/-- A list of tokens. -/
def listReader : Reader (List Token) :=
  .list do .ofExcept (ofValue (← .value))

def listOfJson (s : String) : Except Json.Error (List Token) :=
  listReader.ofText s

/-! ### Writing -/

def positionToJson (p : Position) : Value :=
  .object [("line", .number (.unsigned p.line)), ("ch", .number (.unsigned p.ch))]

/-- An expression that is not there is left out. -/
def variableToJson (t : VariableToken) : Value :=
  .object
    ([("name", .text t.name), ("position", positionToJson t.position)] ++
      (t.expression.map fun e => ("expression", .text e)).toList ++ [("local", .bool t.isLocal)])

def toJson : Token → Value
  | .native name => .text name
  | .mention t => variableToJson t

end Token

end PassageEditor
