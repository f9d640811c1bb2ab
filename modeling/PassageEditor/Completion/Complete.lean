import PassageEditor.Completion.Basic
import PassageEditor.Format.Toolbar
import PassageEditor.Markup.Scan
import PassageEditor.Ranking
import PassageEditor.Variable.Tracker

/-!
# Completion at the cursor

Three kinds of lists are made for what stands before the cursor: of commands, of variables, and of
passages to link to.
-/

namespace PassageEditor.Completion

/-! ### Commands

The word at the cursor is compared with each word of the labels of the toolbar's buttons.  A word is a run
of characters of one class: word characters, white space, or anything else. -/

inductive CharClass
  | word
  | space
  | other
  deriving DecidableEq, Repr

def CharClass.of (c : Char) : CharClass :=
  if Text.isAlphanumeric c || c = '_' then .word
  else if Text.isWhiteSpace c then .space
  else .other

/-- The length of the run of characters of class `cls` at the front. -/
def runLength (cls : CharClass) (cs : List Char) : Nat :=
  (cs.takeWhile fun c => CharClass.of c = cls).length

/-- The ends of the word that touches a column; it has the character before the column, or at the start of
the line the one after. -/
def wordAt (line : List Char) (ch : Nat) : Nat × Nat :=
  let ch := min ch line.length
  match (line.take ch).getLast?, line.head? with
  | some anchor, _ =>
    let cls := CharClass.of anchor
    (ch - runLength cls (line.take ch).reverse, ch + runLength cls (line.drop ch))
  | none, some anchor => (0, runLength (CharClass.of anchor) line)
  | none, none => (0, 0)

/-- The best similarity of a word with one of the words of a label. -/
def labelScore (word label : String) : Float :=
  ((Text.splitAt ' ' (Text.lower label).toList).map fun part =>
    Ranking.jaroWinkler word (String.ofList part)).foldl (fun a b => if a < b then b else a) 0.0

/-- The list of enabled buttons for the cursor; after a lone slash it has all of them in their order. -/
def commands? (b : Buffer) (toolbar : List ToolbarItem) : Option CompletionList := do
  let line ← b.lines[b.cursor.line]?
  let (start, stop) := wordAt line b.cursor.ch
  let word := Text.lower (String.ofList ((line.drop start).take (stop - start)))
  let bare := word == "/"
  let enabled := (flattenButtons toolbar).filter fun button => !button.disabled
  let offered :=
    if bare then enabled
    else
      Ranking.confidenceFilter Ranking.floors
        (enabled.map fun button => (button, labelScore word button.label))
  return ⟨.command, ⟨⟨b.cursor.line, start⟩, ⟨b.cursor.line, stop⟩⟩,
    offered.map fun button => ⟨button.label, .runCommand button.command (!bare)⟩⟩

/-! ### Variables

After an at sign the variables that the passage sees are offered, without the names that the format
reserves.  The format may order them itself; where it does not, or fails, they are ranked by what is
typed. -/

/-- What is typed after the first at sign that only visible characters follow. -/
def query? : List Char → Option (List Char)
  | [] => none
  | c :: cs => if c = '@' && cs.all fun d => !Text.isWhiteSpace d then some cs else query? cs

section Calls

variable {m : Type → Type} [Monad m] [CallsFormat m]

/-- The names that the format's own suggestion gives, or their rank. -/
def orderedNamesM (t : Tracker) (names : List String) (query : String) : m (List String) :=
  match t.hooks.suggest with
  | none => pure (Ranking.rank names query)
  | some suggest => t.format.callOrM .suggestVariableName (Ranking.rank names query) (suggest names query)

/-- The list of variables for the cursor.  There is none where no at sign stands before the cursor, or
where what is typed after it can not be a name. -/
def namesM? (b : Buffer) (t : Tracker) (passage : PassageId) (pattern : Pattern.Regex) :
    m (Except CompletionError (Option CompletionList)) :=
  match (cursorLine? b).bind fun p => query? p.1 with
  | none => pure (.ok none)
  | some typed =>
    let query := String.ofList typed
    if query ≠ "" && !(t.hooks.pattern.getD pattern).isMatch query then pure (.ok none)
    else
      match t.index.visibleNames passage with
      | .error e => pure (.error (.lookup e))
      | .ok names => do
        let ordered ← orderedNamesM t (names.filter fun name => !t.hooks.reserved.contains name) query
        pure (.ok (some ⟨.variableName, ⟨⟨b.cursor.line, b.cursor.ch - (typed.length + 1)⟩, b.cursor⟩,
          ordered.map fun name => ⟨name, .insert⟩⟩))

end Calls

def orderedNames (t : Tracker) (names : List String) (query : String) : List String :=
  Id.run (orderedNamesM t names query)

def names? (b : Buffer) (t : Tracker) (passage : PassageId) (pattern : Pattern.Regex) :
    Except CompletionError (Option CompletionList) :=
  Id.run (namesM? b t passage pattern)

/-! ### Links

After an opening link or an arrow the passages of the story are offered, ranked by what is typed since
then.  A link counts as closed if its closing brackets come before another link opens; then the text up to
them belongs to the query as well. -/

open Markup

def opening : List Char := ['[', '[']
def closing : List Char := [']', ']']
def arrow : List Char := ['-', '>']

/-- Whether a cursor stands inside a closed link with no arrow after it. -/
def cursorInLink (line : List Char) (ch : Nat) : Bool :=
  (lastIndexOf? opening (line.take (min ch line.length + 2))).isSome &&
    (indexOf? closing (line.drop ch)).isSome && (indexOf? arrow (line.drop ch)).isNone

/-- The later of two places. -/
def latest? (a b : Option Nat) : Option Nat :=
  match a, b with
  | some i, some j => some (max i j)
  | some i, none => some i
  | none, j => j

/-- Where the brackets that close the link stand in the text after the cursor, if no other link opens
before. -/
def closingPlace? (after : List Char) : Option Nat :=
  match indexOf? closing after, indexOf? opening after with
  | some close, some other => if close < other then some close else none
  | some close, none => some close
  | none, _ => none

/-- The text typed between the last opening link and the cursor. -/
def linkContent (before : List Char) : List Char :=
  before.drop (((lastIndexOf? opening before).map (· + 2)).getD 1)

/-- The list of passages for the cursor. -/
def passages? (b : Buffer) (story : Story) : Option CompletionList := do
  let (before, after) ← cursorLine? b
  let trigger ← latest? (lastIndexOf? opening before) (lastIndexOf? arrow before)
  let close := closingPlace? after
  let query := before.drop (trigger + 2) ++ after.take (close.getD 0)
  -- a passage with the very name typed so far is most likely the one that the link makes
  let names := (story.passages.map (·.passage.name)).filter (· ≠ String.ofList (linkContent before))
  return ⟨.link, ⟨⟨b.cursor.line, trigger + 2⟩, b.cursor⟩,
    (Ranking.rank names (String.ofList query)).map fun name => ⟨name, .insertLink close.isSome⟩⟩

/-! ### Lists of all kinds -/

structure Sources where
  story : Story
  passage : PassageId
  toolbar : List ToolbarItem
  /-- None if the format has no variables. -/
  tracker : Option Tracker
  /-- The pattern of names for a format without one. -/
  pattern : Pattern.Regex

/-- The list of a kind for the cursor of a buffer. -/
def completeM {m : Type → Type} [Monad m] [CallsFormat m] (kind : CompletionKind) (b : Buffer)
    (s : Sources) : m (Except CompletionError (Option CompletionList)) :=
  match kind with
  | .link => pure (.ok (passages? b s.story))
  | .command => pure (.ok (commands? b s.toolbar))
  | .variableName =>
    match s.tracker with
    | none => pure (.ok none)
    | some tracker => namesM? b tracker s.passage s.pattern

def complete (kind : CompletionKind) (b : Buffer) (s : Sources) :
    Except CompletionError (Option CompletionList) :=
  Id.run (completeM kind b s)

end PassageEditor.Completion
