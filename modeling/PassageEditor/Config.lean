import PassageEditor.Event.Basic
import PassageEditor.Json.Reader
import PassageEditor.Pattern.Parser
import PassageEditor.Story.Basic
import PassageEditor.Text.Conversion

/-!
# Preferences

The preferences of an editing session, and how they are read from JSON and written.  Every field has a
default; a field that is given must have the right form, and the whole must make sense.
-/

namespace PassageEditor

inductive Theme
  | light
  | dark
  deriving DecidableEq, Repr

def Theme.name : Theme → String
  | light => "light"
  | dark => "dark"

structure Config where
  /-- The quiet time in milliseconds after which an edit is written to the story. -/
  debounce : Nat
  /-- The modifier that turns a click on a link into following it. -/
  linkModifier : Modifier
  /-- The pattern of variable names where the story format has none. -/
  namePattern : String
  locale : String
  theme : Theme
  foreground : String
  /-- The formats whose extensions the user has switched off. -/
  disabledFormats : List FormatRef
  deriving DecidableEq, Repr

namespace Config

/-- A name of word characters. -/
def defaultNamePattern : String := "^\\w+$"

def default : Config := ⟨1000, .alt, defaultNamePattern, "en-US", .light, "#000000", []⟩

/-- Whether the extensions of a format are switched off. -/
def isDisabled (c : Config) (format : FormatRef) : Bool := c.disabledFormats.contains format

/-- The pattern of variable names, if it is one. -/
def nameRegex? (c : Config) : Option Pattern.Regex := Pattern.compile? c.namePattern

/-- Whether a name fits the pattern of variable names. -/
def acceptsName (c : Config) (name : String) : Bool := c.nameRegex?.any (·.isMatch name)

/-! ### Errors -/

inductive Error
  | unreadable (source : Json.Error)
  | invalidDebounce (value : Nat)
  | invalidPattern (pattern : String)
  | emptyLocale
  deriving DecidableEq, Repr

namespace Error

def message : Error → String
  | unreadable source => "invalid editor config: " ++ source.message
  | invalidDebounce value => s!"debounce_ms must be positive, got {value}"
  | invalidPattern pattern => "variable_name_pattern does not compile: " ++ pattern
  | emptyLocale => "locale must not be empty"

/-- How many errors stand behind it. -/
def depth : Error → Nat
  | unreadable _ | invalidPattern _ => 1
  | invalidDebounce _ | emptyLocale => 0

end Error

/-- Checks, in this order, the quiet time, the locale and the pattern. -/
def validate (c : Config) : Except Error Unit :=
  if c.debounce = 0 then .error (.invalidDebounce c.debounce)
  else if Text.trim c.locale = "" then .error .emptyLocale
  else if c.nameRegex?.isNone then .error (.invalidPattern c.namePattern)
  else .ok ()

/-! ### Reading -/

open Json

def modifierNames : List (String × Modifier) := Modifier.all.map fun m => (m.name, m)

def themeNames : List (String × Theme) := [Theme.light, .dark].map fun t => (t.name, t)

def formatReader : Reader FormatRef :=
  .record "struct FormatRef"
    [⟨"name", true, do let x ← .text "a string"; return ({ · with name := x })⟩,
     ⟨"version", true, do let x ← .text "a string"; return ({ · with version := x })⟩]
    ⟨"", ""⟩

def reader : Reader Config :=
  .record "struct EditorConfig"
    [⟨"debounce_ms", false, do let x ← .unsigned64; return ({ · with debounce := x })⟩,
     ⟨"link_modifier", false, do let x ← .oneOf modifierNames; return ({ · with linkModifier := x })⟩,
     ⟨"variable_name_pattern", false, do let x ← .text "a string"; return ({ · with namePattern := x })⟩,
     ⟨"locale", false, do let x ← .text "a string"; return ({ · with locale := x })⟩,
     ⟨"app_theme", false, do let x ← .oneOf themeNames; return ({ · with theme := x })⟩,
     ⟨"foreground_color", false, do let x ← .text "a string"; return ({ · with foreground := x })⟩,
     ⟨"disabled_format_extensions", false, do
        let x ← .list formatReader; return ({ · with disabledFormats := x })⟩]
    default

/-- Reads preferences without checking them. -/
def ofJsonUnchecked (s : String) : Except Json.Error Config := reader.ofText s

/-- Reads and checks preferences. -/
def ofJson (s : String) : Except Error Config :=
  match ofJsonUnchecked s with
  | .error e => .error (.unreadable e)
  | .ok c => c.validate.map fun _ => c

/-! ### Writing -/

def formatToJson (format : FormatRef) : Value :=
  .object [("name", .text format.name), ("version", .text format.version)]

def toJson (c : Config) : Value :=
  .object
    [("debounce_ms", .number (.unsigned c.debounce)),
     ("link_modifier", .text c.linkModifier.name),
     ("variable_name_pattern", .text c.namePattern),
     ("locale", .text c.locale),
     ("app_theme", .text c.theme.name),
     ("foreground_color", .text c.foreground),
     ("disabled_format_extensions", .list (c.disabledFormats.map formatToJson))]

end Config

end PassageEditor
