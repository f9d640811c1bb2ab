import PassageEditor.Completion.Basic
import PassageEditor.Config
import PassageEditor.Format.Hook

/-!
# Health and errors of an editing session

The editor may crash twice.  After the first crash it goes on without the extensions of the story format;
the second is the end of it.
-/

namespace PassageEditor

/-! ### Health -/

inductive Health
  | full
  | extensionsDisabled
  | crashed
  deriving DecidableEq, Repr

namespace Health

def name : Health → String
  | full => "full"
  | extensionsDisabled => "extensions_disabled"
  | crashed => "crashed"

/-- The health after one more crash. -/
def afterCrash : Health → Health
  | full => extensionsDisabled
  | extensionsDisabled | crashed => crashed

def extensionsEnabled (h : Health) : Bool := h = full

end Health

/-- What is to be shown in the place of the editor. -/
inductive RenderState
  | editor (extensionsEnabled : Bool) (modeName : String)
  | crashed (message : String)
  deriving DecidableEq, Repr

/-! ### Errors -/

inductive SessionError
  | config (source : Config.Error)
  | storyNotFound (id : StoryId)
  | passageNotFound (id : PassageId)
  | noEditorAttached
  | noActiveCompletion
  | surface (source : Buffer.CommandError)
  | extension (source : ExtensionFault)
  | completion (source : CompletionError)
  /-- An action panicked; the summary of its panic. -/
  | surfacePanicked (summary : String)
  | crashed
  deriving DecidableEq, Repr

namespace SessionError

def message : SessionError → String
  | config source => source.message
  | storyNotFound id => "story not found: " ++ Id.text id.value
  | passageNotFound id => "passage not found: " ++ Id.text id.value
  | noEditorAttached => "no editor attached"
  | noActiveCompletion => "no completion is open"
  | surface source => source.message
  | extension source => source.message
  | completion source => source.message
  | surfacePanicked summary => "editor crashed: " ++ summary
  | crashed => "editor is in a crashed state"

/-- How many errors stand behind it. -/
def depth : SessionError → Nat
  | config source => source.depth + 1
  | surface _ => 1
  | extension source => source.depth + 1
  | completion source => source.depth + 1
  | _ => 0

end SessionError

end PassageEditor
