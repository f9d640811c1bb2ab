import PassageEditor.Buffer.Edit
import PassageEditor.Format.Hook
import PassageEditor.Format.Toolbar
import PassageEditor.Pattern.Basic
import PassageEditor.Text.Conversion
import PassageEditor.Variable.Token

/-!
# What a story format contributes

A loaded format may bring a syntax mode, a toolbar, commands, a parser of references, and variable
support.  Each is a function that may fail; a command changes the buffer also when it fails later on.
-/

namespace PassageEditor

/-- What a toolbar is built from, apart from the buffer. -/
structure ToolbarContext where
  theme : String
  foreground : String
  locale : String
  deriving DecidableEq, Repr

structure VariableHooks where
  /-- Names that the format keeps for itself. -/
  reserved : List String
  /-- The pattern that a typed name must match. -/
  pattern : Option Pattern.Regex
  /-- Orders the names that are visible for a typed query. -/
  suggest : Option (List String → String → Outcome (List String))
  parse : String → Outcome (List Token)

/-- A command: the buffer it leaves and how it ended. -/
abbrev CommandHook := Buffer → Buffer × Outcome Unit

structure Extensions where
  mode : Option (Outcome Unit)
  toolbar : Option (Buffer → ToolbarContext → Outcome (List ToolbarItem))
  commands : List (String × CommandHook)
  references : Option (String → Outcome (List String))
  variableHooks : Option VariableHooks

namespace FormatRef

/-- The name of the syntax mode of a format: its name in lower case and its major version. -/
def modeName (f : FormatRef) : String :=
  let major := f.version.toList.takeWhile (· ≠ '.')
  s!"{Text.lower f.name}-{String.ofList major}"

end FormatRef

namespace Extensions

def empty : Extensions := ⟨none, none, [], none, none⟩

section Calls

variable {m : Type → Type} [Monad m] [CallsFormat m]

/-- The passages that a text refers to outside of links; none if the parser is missing or fails. -/
def parseReferencesM (x : Extensions) (format : FormatRef) (text : String) : m (List String) :=
  match x.references with
  | none => pure []
  | some parse => format.callOrM .references [] (parse text)

/-- Builds the syntax mode and defines it on the buffer.  Gives its name, or none if the format has no
mode or building it fails. -/
def registerModeM (x : Extensions) (format : FormatRef) (b : Buffer) : m (Option String × Buffer) :=
  match x.mode with
  | none => pure (none, b)
  | some outcome => do
    match ← format.callM .mode outcome with
    | .ok _ => pure (some format.modeName, b.defineMode format.modeName)
    | .error _ => pure (none, b)

end Calls

def parseReferences (x : Extensions) (format : FormatRef) (text : String) : List String :=
  Id.run (x.parseReferencesM format text)

def registerMode (x : Extensions) (format : FormatRef) (b : Buffer) : Option String × Buffer :=
  Id.run (x.registerModeM format b)

/-- Names in ascending order, each once. -/
def sortedNames (x : Extensions) : List String :=
  ((x.commands.map (·.1)).mergeSort fun a b => a ≤ b).eraseDups

/-- Which parts there are, in words. -/
def describe (x : Extensions) : String :=
  let commands := String.intercalate ", " (x.sortedNames.map Text.quoted)
  s!"FormatExtensions \x7b mode: {x.mode.isSome}, toolbar: {x.toolbar.isSome}, commands: [{commands}], " ++
    s!"references: {x.references.isSome}, variables: {x.variableHooks.isSome} \x7d"

end Extensions

end PassageEditor
