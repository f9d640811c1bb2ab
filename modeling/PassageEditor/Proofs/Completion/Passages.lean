import PassageEditor.Completion.Complete
import PassageEditor.Proofs.Buffer.Splice
import PassageEditor.Proofs.Markup.Matches
import PassageEditor.Proofs.Markup.Search
import PassageEditor.Proofs.Ranking.Confidence

/-!
# Where a picked link leads

The list of passages is made from the whole text of a link, but a pick takes the place of only what stands
before the cursor.  So the link that comes out is the picked name followed by what stood between the
cursor and the closing brackets (`link_of_pick`); it leads to the picked passage if that is nothing, and
wherever an open link is closed.
-/

namespace PassageEditor.Completion

open Markup

/-! ### The cursor in a link -/

/-- A text without brackets and arrows. -/
structure Plain (cs : List Char) : Prop where
  unopened : '[' ∉ cs
  unclosed : ']' ∉ cs
  straight : ¬ arrow <:+: cs

/-- The cursor stands in the first link of its line, behind what is typed of it. -/
structure InLink (b : Buffer) (before typed after : List Char) : Prop where
  line : b.lines[b.cursor.line]? = some (before ++ '[' :: '[' :: (typed ++ after))
  column : b.cursor.ch = before.length + 2 + typed.length
  outside : '[' ∉ before
  plain : Plain typed

/-- What is left of a link behind the cursor: the text up to the brackets that close it, and nothing
without them. -/
inductive Leaves : (after left : List Char) → Prop
  | closed {left : List Char} (h : Plain left) (rest : List Char) :
      Leaves (left ++ ']' :: ']' :: rest) left
  | unclosed {after : List Char} (h : ¬ closing <:+: after) : Leaves after []

/-- A name that can be the whole text of a link on a line. -/
structure Linkable (name : String) : Prop where
  ne_nil : name.toList ≠ []
  unclosed : ']' ∉ name.toList
  unbroken : '\n' ∉ name.toList
  straight : ¬ arrow <:+: name.toList

namespace InLink

variable {b : Buffer} {before typed after : List Char}

private theorem cursorLine (h : InLink b before typed after) :
    cursorLine? b = some (before ++ '[' :: '[' :: typed, after) := by
  have hsplit : before ++ '[' :: '[' :: (typed ++ after) = (before ++ '[' :: '[' :: typed) ++ after := by
    simp
  have hlength : b.cursor.ch = (before ++ '[' :: '[' :: typed).length := by
    rw [h.column, List.length_append, List.length_cons, List.length_cons]
    omega
  rw [cursorLine?, h.line, Option.map_some, hsplit, hlength, List.take_left, List.drop_left]

/-- The last opening link before the cursor is the one that it stands in. -/
private theorem lastIndexOf_opening (h : InLink b before typed after) :
    lastIndexOf? opening (before ++ '[' :: '[' :: typed) = some before.length := by
  have hunopened : ¬ opening <:+: typed := fun hoccurs =>
    h.plain.unopened (hoccurs.subset (by simp [opening]))
  have hnone : lastIndexOf? opening ('[' :: typed) = none := by
    rw [lastIndexOf?_eq_none_iff (by simp [opening]), List.infix_cons_iff, not_or]
    refine ⟨fun hprefix => ?_, hunopened⟩
    exact h.plain.unopened ((List.cons_prefix_cons.1 hprefix).2.subset (by simp))
  have hfirst : lastIndexOf? opening ('[' :: '[' :: typed) = some 0 := by
    rw [lastIndexOf?, hnone]
    rfl
  exact lastIndexOf?_append hfirst before

/-- An arrow before the cursor stands before the link. -/
private theorem le_of_lastIndexOf_arrow (h : InLink b before typed after) {i : Nat}
    (hi : lastIndexOf? arrow (before ++ '[' :: '[' :: typed) = some i) : i ≤ before.length := by
  by_contra hgt
  have hdrop : (before ++ '[' :: '[' :: typed).drop i =
      ('[' :: '[' :: typed).drop (i - before.length) := by
    rw [List.drop_append, List.drop_eq_nil_of_le (by omega), List.nil_append]
  have hoccurs : arrow <:+: '[' :: '[' :: typed :=
    (hdrop ▸ prefix_of_lastIndexOf? hi).isInfix.trans (List.drop_suffix _ _).isInfix
  have hstep : ∀ cs, arrow <:+: '[' :: cs → arrow <:+: cs := fun cs hcs =>
    (List.infix_cons_iff.1 hcs).resolve_left fun hprefix => by simp [arrow] at hprefix
  exact h.plain.straight (hstep _ (hstep _ hoccurs))

private theorem latest_trigger (h : InLink b before typed after) :
    latest? (lastIndexOf? opening (before ++ '[' :: '[' :: typed))
      (lastIndexOf? arrow (before ++ '[' :: '[' :: typed)) = some before.length := by
  rw [h.lastIndexOf_opening]
  cases harrow : lastIndexOf? arrow (before ++ '[' :: '[' :: typed) with
  | none => rfl
  | some i => simp [latest?, h.le_of_lastIndexOf_arrow harrow]

end InLink

/-- The link counts as closed where there is something to close it. -/
private theorem closingPlace_of_plain {left : List Char} (h : Plain left) (rest : List Char) :
    closingPlace? (left ++ ']' :: ']' :: rest) = some left.length := by
  have hclose : indexOf? closing (left ++ ']' :: ']' :: rest) = some left.length := by
    rw [closing, indexOf?_append h.unclosed]
    simp [indexOf?, startsWith]
  have hother : ∀ other, indexOf? opening (left ++ ']' :: ']' :: rest) = some other →
      left.length < other := by
    intro other hother
    rw [opening, indexOf?_append h.unopened] at hother
    obtain ⟨place, hplace, rfl⟩ := Option.map_eq_some_iff.1 hother
    have hbehind : place ≠ 0 := by
      rintro rfl
      simp [indexOf?, startsWith] at hplace
    omega
  unfold closingPlace?
  rw [hclose]
  cases hopen : indexOf? opening (left ++ ']' :: ']' :: rest) with
  | none => rfl
  | some other => simp [hother other hopen]

private theorem closingPlace_of_open {after : List Char} (h : ¬ closing <:+: after) :
    closingPlace? after = none := by
  unfold closingPlace?
  rw [(indexOf?_eq_none_iff (by simp [closing])).2 h]

/-! ### The list -/

variable {b : Buffer} {before typed after left : List Char} {story : Story} {list : CompletionList}

/-- The list covers what is typed of the link, and offers names of passages. -/
private theorem passages?_eq_some (hin : InLink b before typed after)
    (h : passages? b story = some list) :
    list.range = ⟨⟨b.cursor.line, before.length + 2⟩, b.cursor⟩ ∧
      ∀ item ∈ list.items, item.action = .insertLink (closingPlace? after).isSome ∧
        ∃ r ∈ story.passages, r.passage.name = item.text := by
  unfold passages? at h
  simp only [hin.cursorLine, hin.latest_trigger, bind, pure, Option.bind_some] at h
  have hrange := congrArg CompletionList.range (Option.some.inj h)
  have hitems := congrArg CompletionList.items (Option.some.inj h)
  dsimp only at hrange hitems
  refine ⟨hrange.symm, fun item hitem => ?_⟩
  rw [← hitems] at hitem
  obtain ⟨name, hname, rfl⟩ := List.mem_map.1 hitem
  obtain ⟨r, hr, rfl⟩ := List.mem_map.1 (List.mem_filter.1 (Ranking.mem_of_mem_rank hname)).1
  exact ⟨rfl, r, hr, rfl⟩

/-! ### The pick -/

/-- The name takes the place of what is typed. -/
private theorem line_of_insert (hin : InLink b before typed after) {name : String}
    (hname : Linkable name) :
    (b.replaceRange name ⟨b.cursor.line, before.length + 2⟩ b.cursor).lines[b.cursor.line]? =
      some (before ++ '[' :: '[' :: (name.toList ++ after)) := by
  have hcursor : b.cursor = ⟨b.cursor.line, (before ++ '[' :: '[' :: typed).length⟩ := by
    have hlength : b.cursor.ch = (before ++ '[' :: '[' :: typed).length := by
      rw [hin.column, List.length_append, List.length_cons, List.length_cons]
      omega
    rw [← hlength]
  have hline : b.lines[b.cursor.line]? = some ((before ++ '[' :: '[' :: typed) ++ after) := by
    rw [hin.line]
    simp
  have hopening : (before ++ ['[', '[']).length = before.length + 2 := by simp
  have hle : before.length + 2 ≤ (before ++ '[' :: '[' :: typed).length := by
    simp only [List.length_append, List.length_cons]
    omega
  have hedit := Buffer.lines_replaceRange_onLine hline hle hname.unbroken
  rw [← hcursor] at hedit
  have hsplit : (before ++ '[' :: '[' :: typed) ++ after = (before ++ ['[', '[']) ++
      (typed ++ after) := by simp
  have htake : ((before ++ '[' :: '[' :: typed) ++ after).take (before.length + 2) =
      before ++ ['[', '['] := by
    rw [hsplit, ← hopening, List.take_left]
  rw [hedit, htake, List.drop_left, List.getElem?_set_self (List.getElem?_eq_some_iff.1 hline).1]
  simp

/-- The brackets take the place behind the name. -/
private theorem line_of_close {c : Buffer} {l : Nat} {name after : List Char}
    (hline : c.lines[l]? = some (before ++ '[' :: '[' :: (name ++ after))) :
    (c.replaceRange "]] " ⟨l, before.length + 2 + name.length⟩ ⟨l,
      before.length + 2 + name.length⟩).lines[l]? =
      some (before ++ '[' :: '[' :: (name ++ ']' :: ']' :: ' ' :: after)) := by
  have hsplit : before ++ '[' :: '[' :: (name ++ after) = (before ++ '[' :: '[' :: name) ++ after := by
    simp
  have hlength : (before ++ '[' :: '[' :: name).length = before.length + 2 + name.length := by
    rw [List.length_append, List.length_cons, List.length_cons]
    omega
  have hbreak : '\n' ∉ "]] ".toList := by decide
  rw [hsplit] at hline
  rw [Buffer.lines_replaceRange_onLine hline (Nat.le_refl _) hbreak, ← hlength,
    List.take_left, List.drop_left,
    List.getElem?_set_self (List.getElem?_eq_some_iff.1 hline).1]
  simp

/-- The picked name stands before what is left of the link, and the link is closed. -/
private theorem line_of_pick (hin : InLink b before typed after) (hleft : Leaves after left)
    {name : String} (hname : Linkable name) :
    ∃ c rest, applyItem b ⟨⟨b.cursor.line, before.length + 2⟩, b.cursor⟩
        ⟨name, .insertLink (closingPlace? after).isSome⟩ = (none, c) ∧
      c.lines[b.cursor.line]? = some (before ++ '[' :: '[' ::
        (name.toList ++ left ++ ']' :: ']' :: rest)) := by
  have hinserted := line_of_insert hin hname
  cases hleft with
  | closed hplain rest =>
    rw [closingPlace_of_plain hplain]
    exact ⟨_, rest, rfl, by rw [hinserted, List.append_assoc]⟩
  | unclosed hopen =>
    rw [closingPlace_of_open hopen]
    exact ⟨_, ' ' :: after, rfl, by rw [List.append_nil]; exact line_of_close hinserted⟩

/-- Where a name is picked that can be the text of a link, the link that starts at the opening brackets
has the picked name and what is left behind the cursor for its text, and leads where that says, if
anywhere.  If nothing is left it leads to the passage of the picked name. -/
theorem link_of_pick (hin : InLink b before typed after) (hleft : Leaves after left)
    (hlist : passages? b story = some list) {index : Nat} {item : CompletionItem}
    (hitem : list.items[index]? = some item) (hname : Linkable item.text) :
    ∃ c, applyPick b list index = .ok (none, c) ∧
      (∀ passage, ⟨passage, ⟨b.cursor.line, before.length⟩⟩ ∈ (scanLinks c.lines story).map (·.key) ↔
        (story.findNamed? (String.ofList (linkTarget (item.text.toList ++ left)))).map (·.passage.id) =
          some passage) ∧
      (left = [] → ∃ r, story.findNamed? item.text = some r ∧
        ⟨r.passage.id, ⟨b.cursor.line, before.length⟩⟩ ∈ (scanLinks c.lines story).map (·.key)) := by
  obtain ⟨hrange, hitems⟩ := passages?_eq_some hin hlist
  obtain ⟨haction, r, hr, hnamed⟩ := hitems item (List.mem_of_getElem? hitem)
  obtain ⟨c, rest, happly, hline⟩ := line_of_pick hin hleft hname
  have hunclosed : ']' ∉ left := by
    cases hleft with
    | closed hplain => exact hplain.unclosed
    | unclosed => simp
  have hkeys : ∀ passage, ⟨passage, ⟨b.cursor.line, before.length⟩⟩ ∈
      (scanLinks c.lines story).map (·.key) ↔
      (story.findNamed? (String.ofList (linkTarget (item.text.toList ++ left)))).map (·.passage.id) =
        some passage :=
    mem_keys_scanLinks_first hline hin.outside (by simp [hname.ne_nil])
      (by simp [hname.unclosed, hunclosed])
  refine ⟨c, ?_, hkeys, ?_⟩
  · unfold applyPick
    rw [hitem, hrange]
    dsimp only
    rw [← happly, ← haction]
  · rintro rfl
    have hfound : (story.findNamed? item.text).isSome := by
      rw [Story.findNamed?, List.find?_isSome]
      exact ⟨r, hr, by simpa using hnamed⟩
    obtain ⟨r', hr'⟩ := Option.isSome_iff_exists.1 hfound
    refine ⟨r', hr', (hkeys _).2 ?_⟩
    rw [List.append_nil, linkTarget_of_straight hname.straight,
      String.ofList_toList, hr', Option.map_some]

/-! ### A link that is picked before its end -/

/-- A story with one passage. -/
def startStory : Story := ⟨⟨1⟩, "Story", ⟨"Harlowe", "3.3.8"⟩, [⟨0, .fresh ⟨1⟩ "Start" "" []⟩]⟩

private theorem linkable_start : Linkable "Start" := ⟨by decide, by decide, by decide, by decide⟩

/-- The cursor stands before the last letter of a closed link. -/
def inside : Buffer := (Buffer.ofText "Go [[Sta]]").setSelections [.cursor ⟨0, 7⟩]

private theorem inLink_inside : InLink inside "Go ".toList "St".toList "a]]".toList :=
  ⟨by decide +kernel, by decide +kernel, by decide, ⟨by decide, by decide, by decide⟩⟩

/-- The name is picked and the last letter stays, so there is no link any more. -/
theorem pick_leaves_end_of_link :
    ∃ list c, InLink inside "Go ".toList "St".toList "a]]".toList ∧ Leaves "a]]".toList "a".toList ∧
      passages? inside startStory = some list ∧ list.labels = ["Start"] ∧ Linkable "Start" ∧
      applyPick inside list 0 = .ok (none, c) ∧ c.text = "Go [[Starta]]" ∧
      scanLinks c.lines startStory = [] := by
  have hlist : passages? inside startStory =
      some ⟨.link, ⟨⟨0, 5⟩, ⟨0, 7⟩⟩, (Ranking.rank ["Start"] "Sta").map fun name =>
        ⟨name, .insertLink true⟩⟩ := rfl
  rw [Ranking.rank_singleton] at hlist
  have hplain : Plain "a".toList := ⟨by decide, by decide, by decide⟩
  refine ⟨_, _, inLink_inside, .closed hplain [], hlist, rfl, linkable_start, rfl, ?_, ?_⟩
  · decide +kernel
  · decide +kernel

/-- The cursor stands at the end of an open link. -/
def typing : Buffer := (Buffer.ofText "Go [[Sta").setSelections [.cursor ⟨0, 8⟩]

private theorem inLink_typing : InLink typing "Go ".toList "Sta".toList [] :=
  ⟨by decide +kernel, by decide +kernel, by decide, ⟨by decide, by decide, by decide⟩⟩

/-- The link is closed and leads to the passage. -/
theorem link_of_pick_typing :
    ∃ list c, passages? typing startStory = some list ∧ list.labels = ["Start"] ∧
      applyPick typing list 0 = .ok (none, c) ∧
      ∃ r, startStory.findNamed? "Start" = some r ∧
        ⟨r.passage.id, ⟨0, 3⟩⟩ ∈ (scanLinks c.lines startStory).map (·.key) := by
  have hlist : passages? typing startStory =
      some ⟨.link, ⟨⟨0, 5⟩, ⟨0, 8⟩⟩, (Ranking.rank ["Start"] "Sta").map fun name =>
        ⟨name, .insertLink false⟩⟩ := rfl
  rw [Ranking.rank_singleton] at hlist
  have hitem : [(⟨"Start", .insertLink false⟩ : CompletionItem)][0]? =
      some ⟨"Start", .insertLink false⟩ := rfl
  obtain ⟨c, hpick, -, hleads⟩ :=
    link_of_pick inLink_typing (.unclosed (by decide)) hlist hitem linkable_start
  exact ⟨_, c, hlist, rfl, hpick, hleads rfl⟩

end PassageEditor.Completion
