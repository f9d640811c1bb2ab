import PassageEditor.Json.Reader
import PassageEditor.Text.Conversion

/-!
# Logging settings

Where the log goes and how much of it is kept.  Logging is set up once; setting it up again is accepted
only with the same settings.
-/

namespace PassageEditor.Logging

inductive Level
  | trace
  | debug
  | info
  | warn
  | error
  deriving DecidableEq, Repr

def Level.name : Level → String
  | trace => "trace"
  | debug => "debug"
  | info => "info"
  | warn => "warn"
  | error => "error"

/-- Settings as they are given. -/
structure Settings where
  level : String
  directory : Option String
  deriving DecidableEq, Repr

/-- Logging as it is set up; without a directory it goes to the standard error stream. -/
structure State where
  level : Level
  directory : Option String
  deriving DecidableEq, Repr

inductive Error
  | unknownLevel (name : String)
  | emptyDirectory
  | relativeDirectory (directory : String)
  | otherDirectory (active requested : Option String)
  | otherLevel (active requested : Level)
  deriving DecidableEq, Repr

/-- What a directory setting is called. -/
def target (directory : Option String) : String := directory.getD "stderr"

def Error.message : Error → String
  | unknownLevel name => s!"unsupported log level \x60{name}\x60; expected trace|debug|info|warn|error"
  | emptyDirectory => "log directory cannot be empty"
  | relativeDirectory directory => s!"log directory must be an absolute path, got \x60{directory}\x60"
  | otherDirectory active requested =>
    s!"logging already initialized at \x60{target active}\x60; " ++
      s!"refusing to switch to \x60{target requested}\x60"
  | otherLevel active requested =>
    s!"logging already initialized with level \x60{active.name}\x60; " ++
      s!"refusing to switch to \x60{requested.name}\x60"

/-- The level with a name, blanks around it and case aside. -/
def level? (s : String) : Except Error Level :=
  match Text.lowerAscii (Text.trim s) with
  | "trace" => .ok .trace
  | "debug" => .ok .debug
  | "info" => .ok .info
  | "warn" | "warning" => .ok .warn
  | "error" => .ok .error
  | other => .error (.unknownLevel other)

def checkDirectory : Option String → Except Error Unit
  | none => .ok ()
  | some directory =>
    if directory = "" then .error .emptyDirectory
    else if directory.toList.head? = some '/' then .ok ()
    else .error (.relativeDirectory directory)

/-- Sets up logging; `active` is what it is already set up with. -/
def start (active : Option State) (settings : Settings) : Except Error State := do
  let level ← level? settings.level
  checkDirectory settings.directory
  match active with
  | none => return ⟨level, settings.directory⟩
  | some state =>
    if state.directory ≠ settings.directory then
      throw (.otherDirectory state.directory settings.directory)
    else if state.level ≠ level then throw (.otherLevel state.level level)
    else return state

/-! ### Reading -/

open Json

/-- Reads settings; a level that is not given is `level`. -/
def reader (level : Level) : Reader Settings :=
  .record "struct LogSettings"
    [⟨"level", false, do let x ← .text "a string"; return ({ · with level := x })⟩,
     ⟨"directory", false, do let x ← .optional (.text "path string"); return ({ · with directory := x })⟩]
    ⟨level.name, none⟩

def ofJson (level : Level) (s : String) : Except Json.Error Settings := (reader level).ofText s

end PassageEditor.Logging
