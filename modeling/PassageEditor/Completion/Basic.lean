import PassageEditor.Buffer.Edit
import PassageEditor.Variable.Index

/-!
# Completion lists

A completion list offers entries for a range of the text.  What it offers depends on the prefix before the
cursor: passages after an opening link or an arrow, commands after a slash at the start of a line,
variables after an at sign.
-/

namespace PassageEditor

inductive CompletionKind
  | link
  | command
  | variableName
  deriving DecidableEq, Repr

def CompletionKind.name : CompletionKind → String
  | .link => "link"
  | .command => "command"
  | .variableName => "variable"

/-- What picking an entry does. -/
inductive CompletionAction
  /-- The entry takes the place of the range. -/
  | insert
  /-- The same, and the link is closed after it unless it is closed already. -/
  | insertLink (closed : Bool)
  /-- The range goes, with the slash before it if that is asked for, and the command runs. -/
  | runCommand (command : String) (consumeSlash : Bool)
  deriving DecidableEq, Repr

structure CompletionItem where
  text : String
  action : CompletionAction
  deriving DecidableEq, Repr

structure CompletionList where
  kind : CompletionKind
  range : Range
  items : List CompletionItem
  deriving DecidableEq, Repr

namespace CompletionList

def labels (l : CompletionList) : List String := l.items.map (·.text)

/-- The list as hints over its range. -/
def hints (l : CompletionList) : Hints := ⟨l.range, l.labels⟩

end CompletionList

inductive CompletionError
  | lookup (source : VariableError)
  | noSuchItem (index count : Nat)
  deriving DecidableEq, Repr

namespace CompletionError

def message : CompletionError → String
  | lookup source => "variable completion failed: " ++ source.message
  | noSuchItem index count => s!"completion item {index} out of range ({count} items)"

/-- How many errors stand behind it. -/
def depth : CompletionError → Nat
  | lookup _ => 1
  | noSuchItem _ _ => 0

end CompletionError

namespace Completion

/-! ### Triggers -/

/-- The prefixes that open a list, the first of two that fit counting. -/
def prefixes : List String := ["[[", "->", "/", "@"]

/-- The line of the cursor up to it and from it on; none if the cursor is past the last line. -/
def cursorLine? (b : Buffer) : Option (List Char × List Char) :=
  b.lines[b.cursor.line]?.map fun line => (line.take b.cursor.ch, line.drop b.cursor.ch)

/-- The prefix right before the cursor, if there is a single selection. -/
def detectPrefix? (b : Buffer) : Option String :=
  match b.selections with
  | [_] => (cursorLine? b).bind fun p => prefixes.find? fun mark => mark.toList.isSuffixOf p.1
  | _ => none

/-- The kind of list that a prefix opens; a slash only does at the start of a line. -/
def classify (mark : String) (cursor : Position) : Option CompletionKind :=
  match mark with
  | "/" => if cursor.ch = 1 then some .command else none
  | "@" => some .variableName
  | _ => some .link

/-! ### Picking -/

/-- Carries out an entry; gives the buffer and the command to run, if there is one. -/
def applyItem (b : Buffer) (range : Range) (item : CompletionItem) : Option String × Buffer :=
  match item.action with
  | .insert => (none, b.replaceRange item.text range.start range.stop)
  | .insertLink closed =>
    let b := b.replaceRange item.text range.start range.stop
    if closed then (none, b)
    else
      let stop : Position := ⟨range.start.line, range.start.ch + item.text.length⟩
      (none, b.replaceRange "]] " stop stop)
  | .runCommand command consumeSlash =>
    let start : Position := if consumeSlash then ⟨range.start.line, range.start.ch - 1⟩ else range.start
    (some command, b.replaceRange "" start range.stop)

/-- Carries out the entry at a place of the list. -/
def applyPick (b : Buffer) (list : CompletionList) (index : Nat) :
    Except CompletionError (Option String × Buffer) :=
  match list.items[index]? with
  | none => .error (.noSuchItem index list.items.length)
  | some item => .ok (applyItem b list.range item)

end Completion

end PassageEditor
