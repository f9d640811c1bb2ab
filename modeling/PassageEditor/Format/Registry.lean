import PassageEditor.Config
import PassageEditor.Format.Extensions

/-!
# The registry of story formats

A format is registered under its name and version, then loaded once.  It is unloaded, loading, loaded with
its extensions, or failed with a message; it never goes back.  Extensions get a stamp when they are
loaded, so that two lookups can be told to give the same ones.
-/

namespace PassageEditor

/-- How far the loading of a format is. -/
inductive LoadState
  | unloaded
  | loading
  | loaded
  | failed
  deriving DecidableEq, Repr

def LoadState.name : LoadState → String
  | unloaded => "unloaded"
  | loading => "loading"
  | loaded => "loaded"
  | failed => "error"

/-- Extensions that can be told apart by their stamp. -/
structure LoadedExtensions where
  stamp : Nat
  extensions : Extensions

structure StoryFormat where
  format : FormatRef
  state : LoadState
  /-- Why it could not be loaded. -/
  loadError : Option String
  extensions : Option LoadedExtensions

namespace StoryFormat

def unloaded (format : FormatRef) : StoryFormat := ⟨format, .unloaded, none, none⟩

def begun (f : StoryFormat) : StoryFormat := { f with state := .loading }

/-- With its extensions, or with the message why there are none. -/
def settled (f : StoryFormat) (stamp : Nat) : Except String Extensions → StoryFormat
  | .ok x => { f with state := .loaded, loadError := none, extensions := some ⟨stamp, x⟩ }
  | .error message => { f with state := .failed, loadError := some message, extensions := none }

end StoryFormat

inductive FormatError
  | emptyName
  | invalidVersion (version : String)
  | duplicate (format : FormatRef)
  | notFound (format : FormatRef)
  | notLoading (format : FormatRef) (state : String)
  deriving DecidableEq, Repr

def FormatError.message : FormatError → String
  | emptyName => "story format name must not be empty"
  | invalidVersion version => s!"story format version is invalid: {version} (expected major.minor.patch)"
  | duplicate format => s!"story format already registered: {format.name} {format.version}"
  | notFound format => s!"story format not found: {format.name} {format.version}"
  | notLoading format state => s!"story format {format.name} {format.version} is {state}, not loading"

/-- Three runs of digits with points between them. -/
def isVersion (s : String) : Bool :=
  match Text.splitAt '.' s.toList with
  | [a, b, c] => [a, b, c].all fun part => !part.isEmpty && part.all Char.isDigit
  | _ => false

/-- The name must not be blank, and the version must be one. -/
def FormatRef.validate (f : FormatRef) : Except FormatError Unit :=
  if Text.trim f.name = "" then .error .emptyName
  else if isVersion (Text.trim f.version) then .ok ()
  else .error (.invalidVersion f.version)

structure Registry where
  /-- Each under its key. -/
  formats : List (FormatRef × StoryFormat)
  /-- The stamp of the next extensions that are loaded. -/
  nextStamp : Nat

namespace Registry

def empty : Registry := ⟨[], 0⟩

def find? (r : Registry) (format : FormatRef) : Option StoryFormat := r.formats.lookup format

def insert (r : Registry) (key : FormatRef) (f : StoryFormat) : Registry :=
  { r with formats := r.formats ++ [(key, f)] }

/-- Changes the format under a key. -/
def modify (r : Registry) (key : FormatRef) (change : StoryFormat → StoryFormat) : Registry :=
  { r with formats := r.formats.map fun e => if e.1 = key then (e.1, change e.2) else e }

/-- Ends the loading of the format under a key; a stamp is given out once. -/
def settle (r : Registry) (key : FormatRef) (result : Except String Extensions) : Registry :=
  { r.modify key (·.settled r.nextStamp result) with nextStamp := r.nextStamp + 1 }

end Registry

/-! ### Calls -/

/-- A call on the registry.  What it has changed stays changed if it fails after that. -/
abbrev RegistryM := ExceptT FormatError (StateM Registry)

namespace RegistryM

def lookup (format : FormatRef) : RegistryM StoryFormat := do
  match (← get).find? format with
  | some f => return f
  | none => throw (.notFound format)

/-- Registers an unloaded format, blanks around its name and version taken off. -/
def register (format : FormatRef) : RegistryM Unit := do
  let f : StoryFormat := .unloaded ⟨Text.trim format.name, Text.trim format.version⟩
  f.format.validate
  if ((← get).find? f.format).isSome then throw (.duplicate f.format)
  modify (·.insert f.format f)

/-- Starts loading a format; tells whether it was unloaded until then. -/
def beginLoad (format : FormatRef) : RegistryM Bool := do
  let f ← lookup format
  if f.state ≠ .unloaded then return false
  modify (·.modify format (·.begun))
  return true

/-- Ends the loading of a format, with its extensions or with a message. -/
def finishLoad (format : FormatRef) (result : Except String Extensions) : RegistryM Unit := do
  let f ← lookup format
  if f.state ≠ .loading then throw (.notLoading format f.state.name)
  modify (·.settle format result)

end RegistryM

namespace Registry

/-- What a call gives, and the registry after it. -/
def call {α : Type} (r : Registry) (m : RegistryM α) : Except FormatError α × Registry := m.run r

/-- What a call gives with the registry after it, if it does not fail. -/
def attempt {α : Type} (r : Registry) (m : RegistryM α) : Except FormatError (α × Registry) :=
  match r.call m with
  | (.ok a, r) => .ok (a, r)
  | (.error e, _) => .error e

def lookup (r : Registry) (format : FormatRef) : Except FormatError StoryFormat :=
  (r.attempt (.lookup format)).map (·.1)

def register (r : Registry) (format : FormatRef) : Except FormatError Registry :=
  (r.attempt (.register format)).map (·.2)

def beginLoad (r : Registry) (format : FormatRef) : Except FormatError (Bool × Registry) :=
  r.attempt (.beginLoad format)

def finishLoad (r : Registry) (format : FormatRef) (result : Except String Extensions) :
    Except FormatError Registry :=
  (r.attempt (.finishLoad format result)).map (·.2)

/-- The extensions of a loaded format, unless they are switched off. -/
def extensionsFor (r : Registry) (format : FormatRef) (config : Config) : Option LoadedExtensions :=
  if config.isDisabled format then none
  else (r.find? format).bind fun f => if f.state = .loaded then f.extensions else none

end Registry

end PassageEditor
