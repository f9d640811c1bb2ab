import PassageEditor.Story.Basic
import PassageEditor.Text.Conversion
import PassageEditor.Variable.Token

/-!
# The index of variables

Which variables the passages of a story define and see.  A variable is an object that several passages may
share; it holds the definitions found in them, each under the passage it was found in.  Scanning a passage
again takes its old definitions away and adds the new ones, to the same objects where the names are the
same.
-/

namespace PassageEditor

/-- A place where a variable is defined. -/
structure Definition where
  name : String
  position : Position
  expression : String
  isLocal : Bool
  passage : PassageId
  passageName : String
  deriving DecidableEq, Repr

structure Variable where
  name : String
  definitions : List Definition
  deriving DecidableEq, Repr

/-- The number of a variable in its index. -/
structure VariableId where
  value : Nat
  deriving DecidableEq, Repr

structure VariableIndex where
  /-- Every variable ever made, also those that nothing refers to any more. -/
  objects : List Variable
  /-- The names built into the format, each with its variable. -/
  natives : List (String × VariableId)
  /-- The variables that all passages see. -/
  globals : List (String × VariableId)
  /-- For each scanned passage the variables that it defines, in the order of their first definition. -/
  locals : List (PassageId × List VariableId)
  deriving DecidableEq, Repr

/-- Why a lookup failed: the passage has not been scanned. -/
inductive VariableError
  | notScanned (passage : PassageId)
  deriving DecidableEq, Repr

def VariableError.message : VariableError → String
  | notScanned passage => "variables requested for unscanned passage " ++ Id.text passage.value

namespace VariableIndex

def empty : VariableIndex := ⟨[], [], [], []⟩

/-! ### Objects -/

def object? (ix : VariableIndex) (id : VariableId) : Option Variable := ix.objects[id.value]?

def nameOf (ix : VariableIndex) (id : VariableId) : String := ((ix.object? id).map (·.name)).getD ""

def definitionsOf (ix : VariableIndex) (id : VariableId) : List Definition :=
  ((ix.object? id).map (·.definitions)).getD []

/-- Makes a variable without definitions. -/
def fresh (ix : VariableIndex) (name : String) : VariableId × VariableIndex :=
  (⟨ix.objects.length⟩, { ix with objects := ix.objects ++ [⟨name, []⟩] })

def addDefinition (ix : VariableIndex) (id : VariableId) (d : Definition) : VariableIndex :=
  { ix with
    objects := ix.objects.modify id.value fun v => { v with definitions := v.definitions ++ [d] } }

/-- Takes the definitions of a passage away from a variable. -/
def strip (passage : PassageId) (ix : VariableIndex) (id : VariableId) : VariableIndex :=
  { ix with
    objects := ix.objects.modify id.value fun v =>
      { v with definitions := v.definitions.filter (·.passage ≠ passage) } }

/-! ### Lookups -/

def global? (ix : VariableIndex) (name : String) : Option VariableId := ix.globals.lookup name

def locals? (ix : VariableIndex) (passage : PassageId) : Option (List VariableId) :=
  ix.locals.lookup passage

def isScanned (ix : VariableIndex) (passage : PassageId) : Bool := (ix.locals? passage).isSome

/-- The first of some variables that has a name. -/
def named? (ix : VariableIndex) (ids : List VariableId) (name : String) : Option VariableId :=
  ids.find? fun id => ix.nameOf id = name

/-! ### Scanning -/

/-- A scan under way: the index and the variables that the passage has defined so far. -/
structure Scan where
  index : VariableIndex
  found : List VariableId

/-- The variable that a definition goes to: the global one, or one that the passage defines, or one that
it defined before, or else a new one. -/
def resolve (ix : VariableIndex) (found previous : List VariableId) (name : String) :
    VariableId × VariableIndex :=
  match ((ix.global? name).or (ix.named? found name)).or (ix.named? previous name) with
  | some id => (id, ix)
  | none => ix.fresh name

/-- Adds a definition that a passage has. -/
def Scan.define (s : Scan) (previous : List VariableId) (d : Definition) : Scan :=
  let (id, ix) := s.index.resolve s.found previous d.name
  let ix := ix.addDefinition id d
  { index :=
      if d.isLocal || (ix.global? d.name).isSome then ix
      else { ix with globals := ix.globals ++ [(d.name, id)] }
    found := if s.found.contains id then s.found else s.found ++ [id] }

/-- Adds a name built into the format. -/
def addNative (ix : VariableIndex) (name : String) : VariableIndex :=
  if (ix.natives.lookup name).isSome then ix
  else
    let (id, ix) := ix.fresh name
    { ix with natives := ix.natives ++ [(name, id)] }

/-- Takes one token of a passage in; references count for nothing. -/
def Scan.token (passage : PassageId) (passageName : String) (previous : List VariableId) (s : Scan) :
    Token → Scan
  | .native name => { s with index := s.index.addNative name }
  | .mention t =>
    match t.definition? with
    | none => s
    | some expression =>
      s.define previous ⟨t.name, t.position, expression, t.isLocal, passage, passageName⟩

/-- Takes a variable out of the globals if it is there and has no definition left. -/
def collect (ix : VariableIndex) (id : VariableId) : VariableIndex :=
  if (ix.definitionsOf id).isEmpty && ix.global? (ix.nameOf id) = some id then
    { ix with globals := ix.globals.filter (·.1 ≠ ix.nameOf id) }
  else ix

/-- Replaces what is known of a passage by the tokens of a new scan. -/
def resetPassage (ix : VariableIndex) (passage : PassageId) (passageName : String) (tokens : List Token) :
    VariableIndex :=
  let previous := (ix.locals? passage).getD []
  let stripped := previous.foldl (strip passage) ix
  let scan := tokens.foldl (Scan.token passage passageName previous) ⟨stripped, []⟩
  let collected := (previous.filter fun id => !scan.found.contains id).foldl collect scan.index
  { collected with locals := (passage, scan.found) :: collected.locals.filter (·.1 ≠ passage) }

/-- Forgets a passage. -/
def removePassage (ix : VariableIndex) (passage : PassageId) (passageName : String) : VariableIndex :=
  let ix := ix.resetPassage passage passageName []
  { ix with locals := ix.locals.filter (·.1 ≠ passage) }

/-! ### What a passage sees -/

/-- By lower case first. -/
def nameLe (a b : String) : Bool :=
  let x := Text.lower a
  let y := Text.lower b
  x < y || (x = y && a ≤ b)

def sortByName (ix : VariableIndex) (ids : List VariableId) : List VariableId :=
  ids.mergeSort fun a b => nameLe (ix.nameOf a) (ix.nameOf b)

/-- The variables that a passage sees: its own, then the global ones whose name it does not define, then
the names built into the format, each group by name. -/
def visible (ix : VariableIndex) (passage : PassageId) : Except VariableError (List VariableId) :=
  match ix.locals? passage with
  | none => .error (.notScanned passage)
  | some own =>
    let others := (ix.globals.map (·.2)).filter fun id => (ix.named? own (ix.nameOf id)).isNone
    .ok (ix.sortByName own ++ ix.sortByName others ++ ix.sortByName (ix.natives.map (·.2)))

/-- The names of what a passage sees. -/
def visibleNames (ix : VariableIndex) (passage : PassageId) : Except VariableError (List String) :=
  (ix.visible passage).map fun ids => ids.map ix.nameOf

end VariableIndex

end PassageEditor
