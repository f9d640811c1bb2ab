import PassageEditor.Json.Error
import PassageEditor.Story.Basic
import PassageEditor.Text.Class

/-!
# Calling format code

Code that a story format supplies can do its work, report an error, or panic.  A call contains both kinds
of failure: what comes back is a value or a fault that names the format and the hook.
-/

namespace PassageEditor

/-- An error that format code reports. -/
inductive ExtensionError
  | failed (message : String)
  /-- The hook gave something that cannot be read. -/
  | invalidPayload (source : Json.Error)
  deriving DecidableEq, Repr

namespace ExtensionError

def message : ExtensionError → String
  | failed message => "extension failed: " ++ message
  | invalidPayload source => "extension returned invalid payload: " ++ source.message

/-- How many errors stand behind it. -/
def depth : ExtensionError → Nat
  | failed _ => 0
  | invalidPayload _ => 1

end ExtensionError

/-- What a panic carries. -/
inductive Payload
  | text (message : String)
  | other
  deriving DecidableEq, Repr

namespace Payload

/-- A text on one line, cut after `limit` characters. -/
def flattened (limit : Nat) (s : String) : String :=
  let cs := s.toList.map fun c => if c = '\n' || c = '\r' then ' ' else c
  String.ofList (if limit < cs.length then cs.take limit ++ ['.', '.', '.'] else cs)

/-- A short text on one line. -/
def summary : Payload → String
  | text message => flattened 160 message
  | other => "non-string panic payload"

end Payload

/-- How a piece of format code ends. -/
inductive Outcome (α : Type)
  | ok (value : α)
  | failed (error : ExtensionError)
  | panicked (payload : Payload)
  deriving Repr

def Outcome.map {α β : Type} (f : α → β) : Outcome α → Outcome β
  | ok a => .ok (f a)
  | failed e => .failed e
  | panicked p => .panicked p

def Outcome.bind {α β : Type} (x : Outcome α) (f : α → Outcome β) : Outcome β :=
  match x with
  | ok a => f a
  | failed e => .failed e
  | panicked p => .panicked p

instance : Monad Outcome where
  pure := .ok
  bind := .bind

/-- A place where the editor calls format code. -/
inductive HookKind
  | mode
  | toolbar
  | command
  | references
  | parseDefinitions
  | suggestVariableName
  deriving DecidableEq, Repr

def HookKind.all : List HookKind :=
  [.mode, .toolbar, .command, .references, .parseDefinitions, .suggestVariableName]

def HookKind.name : HookKind → String
  | mode => "mode"
  | toolbar => "toolbar"
  | command => "command"
  | references => "references"
  | parseDefinitions => "parse_definitions"
  | suggestVariableName => "suggest_variable_name"

inductive FaultCause
  | error (source : ExtensionError)
  | panic (summary : String)
  deriving DecidableEq, Repr

/-- A failure of format code that was contained. -/
structure ExtensionFault where
  format : FormatRef
  hook : HookKind
  cause : FaultCause
  deriving DecidableEq, Repr

namespace ExtensionFault

def message (f : ExtensionFault) : String :=
  let cause := match f.cause with
    | .error source => "failed: " ++ source.message
    | .panic summary => "panicked: " ++ summary
  s!"{f.format.name} {f.format.version} {f.hook.name} hook {cause}"

/-- How many errors stand behind it. -/
def depth (f : ExtensionFault) : Nat :=
  match f.cause with
  | .error source => source.depth + 1
  | .panic _ => 0

end ExtensionFault

namespace FormatRef

/-- The value of a call, or the fault of the format. -/
def call {α : Type} (format : FormatRef) (hook : HookKind) : Outcome α → Except ExtensionFault α
  | .ok a => .ok a
  | .failed e => .error ⟨format, hook, .error e⟩
  | .panicked p => .error ⟨format, hook, .panic p.summary⟩

end FormatRef

/-! ### Operations that call the format

An operation that calls the format is written once, over any monad in which that can be done, and its name
ends in `M`.  In `Id` a call is its answer; the operation of the plain name is the one in `Id`. -/

/-- A monad in which the hooks of a format can be called. -/
class CallsFormat (m : Type → Type) where
  call {α : Type} (format : FormatRef) (hook : HookKind) (x : Outcome α) : m (Except ExtensionFault α)

instance : CallsFormat Id where
  call format hook x := format.call hook x

namespace FormatRef

variable {m : Type → Type} [Monad m] [CallsFormat m] {α : Type}

def callM (format : FormatRef) (hook : HookKind) (x : Outcome α) : m (Except ExtensionFault α) :=
  CallsFormat.call format hook x

/-- The value of a call, or a fallback. -/
def callOrM (format : FormatRef) (hook : HookKind) (fallback : α) (x : Outcome α) : m α := do
  match ← format.callM hook x with
  | .ok a => pure a
  | .error _ => pure fallback

def callOr (format : FormatRef) (hook : HookKind) (fallback : α) (x : Outcome α) : α :=
  Id.run (format.callOrM hook fallback x)

end FormatRef

end PassageEditor
