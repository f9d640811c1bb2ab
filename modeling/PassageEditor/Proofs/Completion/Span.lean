import PassageEditor.Proofs.Completion.Commands
import PassageEditor.Proofs.Completion.LinkList

/-!
# The span of a list

A list takes up the text of the line that was asked for: what is typed of a link or of the name of a
variable, or the word of a command.  For a variable that holds as long as the cursor stands on the line;
past its end the list starts as many characters later (`asks_of_names`).  A name that is picked takes the
place of the span and leaves the rest of the line as it is (`lines_of_pick`).
-/

namespace PassageEditor.Completion

open Markup

variable {b c : Buffer} {list : CompletionList} {line : List Char} {l ch start stop : Nat}

/-- The part of a line that a range takes up; a column past the end of the line counts as the end. -/
def covered (line : List Char) (range : Range) : List Char :=
  (line.take range.stop.ch).drop range.start.ch

/-! ### The name of a variable -/

/-- What is typed of a name: the visible characters behind an at sign, as far back as there are such. -/
structure Typed (before query : List Char) : Prop where
  behind : '@' :: query <:+ before
  visible : ∀ d ∈ query, Text.isWhiteSpace d = false
  longest : ∀ other, '@' :: other <:+ before → (∀ d ∈ other, Text.isWhiteSpace d = false) →
    other <:+ query

theorem typed_of_query {before query : List Char} (h : query? before = some query) :
    Typed before query := by
  induction before with
  | nil => simp [query?] at h
  | cons d ds ih =>
    unfold query? at h
    split at h
    · rename_i hstart
      obtain rfl : ds = query := Option.some.inj h
      simp only [Bool.and_eq_true, decide_eq_true_eq, List.all_eq_true, Bool.not_eq_true'] at hstart
      obtain ⟨rfl, hvisible⟩ := hstart
      refine ⟨List.suffix_refl _, hvisible, fun other hother _ => ?_⟩
      rcases List.suffix_cons_iff.1 hother with heq | hsuffix
      · exact (List.cons.inj heq).2 ▸ List.suffix_refl _
      · exact (List.suffix_cons _ _).trans hsuffix
    · rename_i hstart
      have hrest := ih h
      refine ⟨hrest.behind.trans (List.suffix_cons _ _), hrest.visible, fun other hother hvisible => ?_⟩
      rcases List.suffix_cons_iff.1 hother with heq | hsuffix
      · obtain ⟨rfl, rfl⟩ := List.cons.inj heq
        exact absurd (by simpa using hvisible) hstart
      · exact hrest.longest other hsuffix hvisible

/-- The characters that the cursor is past the end of the line are missing at the front of a word before
it. -/
private theorem drop_of_suffix {word : List Char} (h : word <:+ line.take ch) :
    (line.take ch).drop (ch - word.length) = word.drop (ch - line.length) := by
  obtain ⟨front, hfront⟩ := h
  have hlength := congrArg List.length hfront
  rw [List.length_append, List.length_take] at hlength
  -- the word ends with the line or with the column, whichever comes first
  have hstart : ch - word.length = front.length + (ch - line.length) := by omega
  rw [← hfront, hstart, List.drop_length_add_append]

/-- A list of variables is ordered by what is typed of a name. -/
private theorem names?_eq_some {t : Tracker} {passage : PassageId} {pattern : Pattern.Regex}
    (h : names? b t passage pattern = .ok (some list)) :
    ∃ line query names, b.lines[b.cursor.line]? = some line ∧
      query? (line.take b.cursor.ch) = some query ∧
      (query = [] ∨ (t.hooks.pattern.getD pattern).isMatch (String.ofList query) = true) ∧
      t.index.visibleNames passage = .ok names ∧
      list = ⟨.variableName, ⟨⟨b.cursor.line, b.cursor.ch - (query.length + 1)⟩, b.cursor⟩,
        (orderedNames t (names.filter fun name => !t.hooks.reserved.contains name)
          (String.ofList query)).map
          fun name => ⟨name, .insert⟩⟩ := by
  rw [names?_def] at h
  unfold cursorLine? at h
  cases hline : b.lines[b.cursor.line]? with
  | none => simp [hline] at h
  | some line =>
    simp only [hline, Option.map_some, Option.bind_some] at h
    cases hquery : query? (line.take b.cursor.ch) with
    | none => simp [hquery] at h
    | some query =>
      simp only [hquery] at h
      split at h
      · simp at h
      · rename_i hmatch
        split at h
        · simp at h
        · rename_i names hnames
          refine ⟨line, query, names, rfl, hquery, ?_, hnames, (Option.some.inj (Except.ok.inj h)).symm⟩
          by_cases hempty : query = []
          · exact .inl hempty
          · exact .inr (by simpa [hempty] using hmatch)

/-! ### The span of each kind -/

/-- The entries of a list of commands for a word. -/
def entries (toolbar : List ToolbarItem) (word : List Char) : List CompletionItem :=
  let scored := Text.lower (String.ofList word)
  let bare := scored == "/"
  let enabled := (flattenButtons toolbar).filter fun button => !button.disabled
  let offered :=
    if bare then enabled
    else Ranking.confidenceFilter Ranking.floors (enabled.map fun button =>
      (button, labelScore scored button.label))
  offered.map fun button => ⟨button.label, .runCommand button.command (!bare)⟩

/-- What a list asks for with the text that it takes up. -/
def Asks (sources : Sources) (line : List Char) (ch : Nat) (list : CompletionList) : CompletionKind → Prop
  | .link => ∃ trigger, LastPlace [opening, arrow] (line.take ch) trigger ∧
      covered line list.range = (line.take ch).drop (trigger + 2)
  | .command => list.items = entries sources.toolbar (covered line list.range)
  | .variableName => ∃ t query names, sources.tracker = some t ∧ Typed (line.take ch) query ∧
      (query = [] ∨ (t.hooks.pattern.getD sources.pattern).isMatch (String.ofList query) = true) ∧
      t.index.visibleNames sources.passage = .ok names ∧
      list.labels = orderedNames t (names.filter fun name => !t.hooks.reserved.contains name)
        (String.ofList query) ∧
      covered line list.range = ('@' :: query).drop (ch - line.length) ∧
      (covered line list.range = '@' :: query ↔ ch ≤ line.length)

/-- A list lies on the line of the cursor; where it is one of links, it starts on the line. -/
structure Placed (line : List Char) (l : Nat) (list : CompletionList) : Prop where
  start : list.range.start.line = l
  stop : list.range.stop.line = l
  ordered : list.range.start.ch ≤ list.range.stop.ch
  inside : ∀ item ∈ list.items, item.action = .insertLink false → list.range.start.ch ≤ line.length

private theorem asks_of_passages {sources : Sources} (h : passages? b sources.story = some list) :
    ∃ line, b.lines[b.cursor.line]? = some line ∧ Placed line b.cursor.line list ∧
      Asks sources line b.cursor.ch list .link := by
  cases hline : b.lines[b.cursor.line]? with
  | none => simp [passages?, cursorLine?, hline] at h
  | some line =>
    obtain ⟨trigger, hoffers⟩ := offers_of_passages hline h
    have hinside := hoffers.inside
    rw [Nat.le_min] at hinside
    refine ⟨line, rfl, ⟨?_, ?_, ?_, fun _ _ _ => ?_⟩, trigger, hoffers.latest, ?_⟩
    · rw [hoffers.range]
    · rw [hoffers.range]
    · rw [hoffers.range]
      exact hinside.1
    · rw [hoffers.range]
      exact hinside.2
    · rw [covered, hoffers.range]

private theorem commands?_eq_entries (b : Buffer) (toolbar : List ToolbarItem) :
    commands? b toolbar = b.lines[b.cursor.line]?.map fun line =>
      ⟨.command, ⟨⟨b.cursor.line, (wordAt line b.cursor.ch).1⟩,
        ⟨b.cursor.line, (wordAt line b.cursor.ch).2⟩⟩,
        entries toolbar ((line.take (wordAt line b.cursor.ch).2).drop (wordAt line b.cursor.ch).1)⟩ := by
  unfold commands? entries
  cases b.lines[b.cursor.line]? with
  | none => rfl
  | some line =>
    rw [Option.map_some, List.drop_take]
    rfl

private theorem asks_of_commands {sources : Sources} (h : commands? b sources.toolbar = some list) :
    ∃ line, b.lines[b.cursor.line]? = some line ∧ Placed line b.cursor.line list ∧
      Asks sources line b.cursor.ch list .command := by
  rw [commands?_eq_entries] at h
  obtain ⟨line, hline, hlist⟩ := Option.map_eq_some_iff.1 h
  have hrange := congrArg CompletionList.range hlist
  have hitems := congrArg CompletionList.items hlist
  dsimp only at hrange hitems
  have hbounds := wordAt_bounds line b.cursor.ch
  refine ⟨line, hline, ⟨?_, ?_, ?_, fun item hitem haction => ?_⟩, ?_⟩
  · rw [← hrange]
  · rw [← hrange]
  · rw [← hrange]
    exact Nat.le_trans hbounds.1 hbounds.2.1
  · rw [← hitems] at hitem
    obtain ⟨button, -, rfl⟩ := List.mem_map.1 hitem
    simp at haction
  · show list.items = entries sources.toolbar (covered line list.range)
    rw [← hitems, covered, ← hrange]

theorem asks_of_names {sources : Sources} {t : Tracker} (ht : sources.tracker = some t)
    (h : names? b t sources.passage sources.pattern = .ok (some list)) :
    ∃ line, b.lines[b.cursor.line]? = some line ∧ Placed line b.cursor.line list ∧
      Asks sources line b.cursor.ch list .variableName := by
  obtain ⟨line, query, names, hline, hquery, hmatch, hnames, rfl⟩ := names?_eq_some h
  have htyped := typed_of_query hquery
  have hcovered : (line.take b.cursor.ch).drop (b.cursor.ch - (query.length + 1)) =
      ('@' :: query).drop (b.cursor.ch - line.length) := drop_of_suffix htyped.behind
  refine ⟨line, hline, ⟨rfl, rfl, Nat.sub_le _ _, fun item hitem haction => ?_⟩,
    t, query, names, ht, htyped, hmatch, hnames, ?_, hcovered, ?_⟩
  · obtain ⟨name, -, rfl⟩ := List.mem_map.1 hitem
    simp at haction
  · simp only [CompletionList.labels, List.map_map, Function.comp_def, List.map_id']
  · show (line.take b.cursor.ch).drop (b.cursor.ch - (query.length + 1)) = _ ↔ _
    rw [hcovered, ← Nat.sub_eq_zero_iff_le]
    constructor
    · intro hsame
      have hlength := congrArg List.length hsame
      rw [List.length_drop, List.length_cons] at hlength
      omega
    · intro hzero
      rw [hzero, List.drop_zero]

private theorem asks_of_complete {kind : CompletionKind} {sources : Sources}
    (h : complete kind b sources = .ok (some list)) :
    ∃ line, b.lines[b.cursor.line]? = some line ∧ Placed line b.cursor.line list ∧
      Asks sources line b.cursor.ch list kind := by
  cases kind with
  | link => exact asks_of_passages (Except.ok.inj h)
  | command => exact asks_of_commands (Except.ok.inj h)
  | variableName =>
    rw [complete_def] at h
    dsimp only at h
    split at h
    · simp at h
    · exact asks_of_names ‹_› h

/-! ### What a pick puts in the place of the span -/

/-- A name with the brackets that close its link; where it has several lines they come at the end of the
first. -/
def closed (name : List Char) : List Char :=
  name.takeWhile (· ≠ '\n') ++ "]] ".toList ++ name.dropWhile (· ≠ '\n')

/-- What an entry puts in, if it does that. -/
def inserted? (item : CompletionItem) : Option (List Char) :=
  match item.action with
  | .insert => some item.text.toList
  | .insertLink isClosed => some (if isClosed then item.text.toList else closed item.text.toList)
  | .runCommand _ _ => none

/-- Between two parts of a line, whatever stands before the first line feed of a name belongs to the first
line. -/
private theorem lines_around {front : List Char} (hfront : '\n' ∉ front) (back name : List Char) :
    ∃ first rest, '\n' ∉ first ∧ (name.dropWhile (· ≠ '\n') = [] ∨ first = []) ∧
      ∀ more, '\n' ∉ more →
        Text.lines (front ++ (name.takeWhile (· ≠ '\n') ++ more ++ name.dropWhile (· ≠ '\n')) ++ back) =
          (front ++ name.takeWhile (· ≠ '\n') ++ more ++ first) :: rest := by
  obtain ⟨first, rest, hsplit⟩ := Text.exists_splitAt_eq_cons '\n' (name.dropWhile (· ≠ '\n') ++ back)
  refine ⟨first, rest, Text.not_mem_of_mem_splitAt (hsplit ▸ List.mem_cons_self),
    ?_, fun more hmore => ?_⟩
  · -- either the name is over, or the line feed that ends its first line comes next
    cases hrest : name.dropWhile (· ≠ '\n') with
    | nil => exact .inl rfl
    | cons d ds =>
      have hhead :=
        List.head_dropWhile_not (· ≠ '\n') (l := name) (by rw [hrest]; exact List.cons_ne_nil d ds)
      simp only [hrest, List.head_cons] at hhead
      obtain rfl : d = '\n' := by simpa using hhead
      rw [hrest, List.cons_append, Text.splitAt, if_pos rfl] at hsplit
      exact .inr (List.cons.inj hsplit).1.symm
  · have hunbroken : '\n' ∉ front ++ name.takeWhile (· ≠ '\n') ++ more := by
      simp only [List.mem_append, not_or]
      exact ⟨⟨hfront, not_mem_takeWhile_ne '\n' name⟩, hmore⟩
    have hahead : Text.splitAt '\n' (front ++ name.takeWhile (· ≠ '\n') ++ more) =
        [] ++ [front ++ name.takeWhile (· ≠ '\n') ++ more] := Text.splitAt_of_not_mem hunbroken
    have happend := Text.splitAt_append hahead hsplit
    simpa only [Text.lines, List.append_assoc, List.nil_append] using happend

/-- The column behind a name is the end of what its first line has of it, also where it has more lines. -/
private theorem cut_behind {name first : List Char} (front : List Char)
    (hends : name.dropWhile (· ≠ '\n') = [] ∨ first = []) :
    (front ++ name.takeWhile (· ≠ '\n') ++ first).take (front.length + name.length) =
        front ++ name.takeWhile (· ≠ '\n') ∧
      (front ++ name.takeWhile (· ≠ '\n') ++ first).drop (front.length + name.length) = first := by
  have hname : name.takeWhile (· ≠ '\n') ++ name.dropWhile (· ≠ '\n') = name :=
    List.takeWhile_append_dropWhile
  have hlength := congrArg List.length hname
  rw [List.length_append] at hlength
  rcases hends with hnil | rfl
  · have hexact : (front ++ name.takeWhile (· ≠ '\n')).length = front.length + name.length := by
      rw [hnil, List.length_nil] at hlength
      rw [List.length_append]
      omega
    exact ⟨List.take_left' hexact, List.drop_left' hexact⟩
  · have hbefore : (front ++ name.takeWhile (· ≠ '\n')).length ≤ front.length + name.length := by
      rw [List.length_append]
      omega
    rw [List.append_nil]
    exact ⟨List.take_of_length_le hbefore, List.drop_eq_nil_of_le hbefore⟩

/-- The brackets come behind the first line of the name. -/
private theorem lines_of_close (hline : b.lines[l]? = some line) (hle : start ≤ stop)
    (hstart : start ≤ line.length) (name : String) :
    ((b.replaceRange name ⟨l, start⟩ ⟨l, stop⟩).replaceRange "]] " ⟨l, start + name.length⟩
        ⟨l, start + name.length⟩).lines =
      b.lines.take l ++ (Text.lines (line.take start ++ closed name.toList ++ line.drop stop) ++
        b.lines.drop (l + 1)) := by
  have hunbroken : '\n' ∉ line := b.unbroken line (List.mem_of_getElem? hline)
  have hlt : l < b.lines.length := (List.getElem?_eq_some_iff.1 hline).1
  have hfront : '\n' ∉ line.take start := fun h => hunbroken (List.mem_of_mem_take h)
  obtain ⟨first, rest, hfirst, hends, hlines⟩ := lines_around hfront (line.drop stop) name.toList
  have hlength : (b.lines.take l).length = l := by rw [List.length_take]; omega
  have hname : name.toList.takeWhile (· ≠ '\n') ++ name.toList.dropWhile (· ≠ '\n') = name.toList :=
    List.takeWhile_append_dropWhile
  -- the lines with the name in them
  have hput : (b.replaceRange name ⟨l, start⟩ ⟨l, stop⟩).lines = b.lines.take l ++
      ((line.take start ++ name.toList.takeWhile (· ≠ '\n') ++ first) :: rest ++
        b.lines.drop (l + 1)) := by
    have hplain := hlines [] (by simp)
    rw [List.append_nil, hname, List.append_nil] at hplain
    rw [Buffer.lines_replaceRange_between _ hline hle, hplain]
  generalize b.replaceRange name ⟨l, start⟩ ⟨l, stop⟩ = c at hput
  have hat : c.lines[l]? = some (line.take start ++ name.toList.takeWhile (· ≠ '\n') ++ first) := by
    rw [hput, List.getElem?_append_right (by omega), hlength]
    simp
  -- the brackets go into the first of them, behind what it has of the name
  have hcolumn : (line.take start).length = start := by rw [List.length_take]; omega
  have hcut := cut_behind (line.take start) hends
  rw [hcolumn, String.length_toList] at hcut
  have hclosed : '\n' ∉ line.take start ++ name.toList.takeWhile (· ≠ '\n') ++ "]] ".toList ++ first := by
    have hline' := c.unbroken _ (List.mem_of_getElem? hat)
    simp only [List.mem_append, not_or] at hline' ⊢
    exact ⟨⟨hline'.1, by decide⟩, hfirst⟩
  have hbehind : c.lines.drop (l + 1) = rest ++ b.lines.drop (l + 1) := by
    rw [hput, List.drop_append, hlength, List.drop_eq_nil_of_le (by omega), Nat.add_sub_cancel_left]
    rfl
  have hahead : c.lines.take l = b.lines.take l := by rw [hput, List.take_left' hlength]
  rw [Buffer.lines_replaceRange_between _ hat (Nat.le_refl _), hcut.1, hcut.2,
    hahead, hbehind, Text.lines,
    Text.splitAt_of_not_mem hclosed, closed, hlines "]] ".toList (by decide)]
  simp

/-- What an entry puts in takes the place of the span; the rest of the line and all other lines stay. -/
theorem lines_of_pick {index : Nat} {item : CompletionItem} {new : List Char}
    (hline : c.lines[l]? = some line) (hplaced : Placed line l list)
    (hitem : list.items[index]? = some item) (hnew : inserted? item = some new) :
    ∃ c', applyPick c list index = .ok (none, c') ∧
      c'.lines = c.lines.take l ++
        (Text.lines (line.take list.range.start.ch ++ new ++ line.drop list.range.stop.ch) ++
        c.lines.drop (l + 1)) := by
  have hpick : applyPick c list index = .ok (applyItem c list.range item) := by rw [applyPick, hitem]
  have hinside := hplaced.inside item (List.mem_of_getElem? hitem)
  obtain ⟨kind, ⟨⟨startLine, start⟩, ⟨stopLine, stop⟩⟩, items⟩ := list
  obtain rfl : startLine = l := hplaced.start
  obtain rfl : stopLine = startLine := hplaced.stop
  have hput := Buffer.lines_replaceRange_between item.text hline hplaced.ordered
  rw [hpick]
  unfold inserted? at hnew
  cases haction : item.action with
  | insert =>
    rw [haction] at hnew
    obtain rfl := Option.some.inj hnew
    exact ⟨_, by simp only [applyItem, haction], hput⟩
  | insertLink isClosed =>
    rw [haction] at hnew
    obtain rfl := Option.some.inj hnew
    cases isClosed with
    | true => exact ⟨_, by simp only [applyItem, haction, ↓reduceIte], hput⟩
    | false =>
      have hclose := lines_of_close hline hplaced.ordered (hinside haction) item.text
      exact ⟨_, by simp only [applyItem, haction, Bool.false_eq_true, ↓reduceIte], hclose⟩
  | runCommand command consumes => simp [haction] at hnew

/-- A list takes up the text that it was made for, on the line of the cursor, but for a variable as many
characters less as the cursor stands past the end of the line; and a name that is picked takes the place
of just that text. -/
theorem span_of_complete {kind : CompletionKind} {sources : Sources}
    (h : complete kind b sources = .ok (some list)) :
    ∃ line, b.lines[b.cursor.line]? = some line ∧ list.range.start.line = b.cursor.line ∧
      list.range.stop.line = b.cursor.line ∧ Asks sources line b.cursor.ch list kind ∧
      line.take list.range.start.ch ++ covered line list.range ++ line.drop list.range.stop.ch = line ∧
      ∀ (c : Buffer) index item new, c.lines = b.lines → list.items[index]? = some item →
        inserted? item = some new →
        ∃ c', applyPick c list index = .ok (none, c') ∧
          c'.lines = b.lines.take b.cursor.line ++
            (Text.lines (line.take list.range.start.ch ++ new ++ line.drop list.range.stop.ch) ++
              b.lines.drop (b.cursor.line + 1)) := by
  obtain ⟨line, hline, hplaced, hasks⟩ := asks_of_complete h
  refine ⟨line, hline, hplaced.start, hplaced.stop, hasks, ?_,
    fun c index item new hlines hitem hnew => ?_⟩
  · have htake : line.take list.range.start.ch =
        (line.take list.range.stop.ch).take list.range.start.ch := by
      rw [List.take_take, Nat.min_eq_left hplaced.ordered]
    rw [covered, htake, List.take_append_drop, List.take_append_drop]
  · rw [← hlines] at hline ⊢
    exact lines_of_pick hline hplaced hitem hnew

/-! ### A cursor past the end of the line -/

/-- A tracker that knows one name. -/
def goldTracker : Tracker :=
  ⟨VariableIndex.empty.resetPassage ⟨1⟩ "Start" [.native "gold"], [], ⟨[], none, none, fun _ => .ok []⟩,
    ⟨"Harlowe", "3.3.8"⟩⟩

def goldSources : Sources := ⟨startStory, ⟨1⟩, [], some goldTracker, .empty⟩

/-- An at sign and two letters, with the cursor at a column. -/
def goldBuffer (ch : Nat) : Buffer := (Buffer.ofText "@go").setCursor ⟨0, ch⟩

private theorem complete_gold {ch : Nat} (h : 3 ≤ ch) :
    complete .variableName (goldBuffer ch) goldSources =
      .ok (some ⟨.variableName, ⟨⟨0, ch - 3⟩, ⟨0, ch⟩⟩, [⟨"gold", .insert⟩]⟩) := by
  have hbefore : cursorLine? (goldBuffer ch) = some ("@go".toList, []) := by
    have hline : (goldBuffer ch).lines[(goldBuffer ch).cursor.line]? = some "@go".toList := rfl
    have hcolumn : (goldBuffer ch).cursor.ch = ch := rfl
    rw [cursorLine?, hline, Option.map_some, hcolumn, List.take_of_length_le h, List.drop_eq_nil_of_le h]
  have hquery : query? "@go".toList = some "go".toList := by decide +kernel
  have hnames : goldTracker.index.visibleNames ⟨1⟩ = .ok ["gold"] := by
    have hsome : (goldTracker.index.visibleNames ⟨1⟩).toOption = some ["gold"] := by decide +kernel
    cases hv : goldTracker.index.visibleNames ⟨1⟩ with
    | error e => simp [hv, Except.toOption] at hsome
    | ok names => rw [hv] at hsome; exact congrArg _ (Option.some.inj hsome)
  show names? (goldBuffer ch) goldTracker ⟨1⟩ .empty = _
  rw [names?_def, hbefore, Option.bind_some, hquery]
  simp only [hnames]
  have hmatch : (goldTracker.hooks.pattern.getD .empty).isMatch (String.ofList "go".toList) = true := by
    decide +kernel
  have hordered : orderedNames goldTracker (["gold"].filter fun name =>
    !goldTracker.hooks.reserved.contains name)
      (String.ofList "go".toList) = ["gold"] := by
    rw [orderedNames_def]
    exact Ranking.rank_singleton _ _
  rw [hmatch, Bool.not_true, Bool.and_false, if_neg Bool.false_ne_true, hordered]
  rfl

/-- While the cursor stands on the line, the at sign and what is typed behind it give way to the name. -/
theorem span_of_complete_gold :
    ∃ list c, complete .variableName (goldBuffer 3) goldSources = .ok (some list) ∧
      covered "@go".toList list.range = "@go".toList ∧ Typed "@go".toList "go".toList ∧
      applyPick (goldBuffer 3) list 0 = .ok (none, c) ∧ c.lines = ["gold".toList] := by
  have hlist := complete_gold (Nat.le_refl 3)
  obtain ⟨line, hline, -, -, -, -, hpicks⟩ := span_of_complete hlist
  obtain rfl : "@go".toList = line := Option.some.inj hline
  obtain ⟨c, hpick, hlines⟩ := hpicks (goldBuffer 3) 0 _ _ rfl rfl rfl
  exact ⟨_, c, hlist, by decide +kernel, typed_of_query (by decide +kernel), hpick, hlines⟩

/-- Two columns past the end of the line, the at sign and the first letter are left standing before the
name. -/
theorem span_misses_query :
    ∃ list c, complete .variableName (goldBuffer 5) goldSources = .ok (some list) ∧
      list.labels = ["gold"] ∧
      Typed "@go".toList "go".toList ∧ covered "@go".toList list.range = "o".toList ∧
      applyPick (goldBuffer 5) list 0 = .ok (none, c) ∧ c.text = "@ggold" := by
  refine ⟨_, _, complete_gold (by decide), rfl,
    typed_of_query (by decide +kernel), by decide +kernel, rfl, ?_⟩
  decide +kernel

end PassageEditor.Completion
