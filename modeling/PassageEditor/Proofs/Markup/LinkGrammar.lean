import Mathlib.Data.List.Basic
import PassageEditor.Pattern.Parser
import PassageEditor.Proofs.Markup.Leftmost
import PassageEditor.Proofs.Pattern.Expression
import PassageEditor.Proofs.Text.Columns

/-!
# The grammar of links

The links of a text are told in two ways, and a scan gives what both of them give
(`scanLinks_by_grammar`): by the expression for links, of which a search takes the leftmost match and the
way that it prefers there, and by a grammar, in which a link is a text without closing brackets in double
brackets and its target is what follows the last arrow with text on both sides.
-/

namespace PassageEditor.Markup

open Pattern

/-! ### The grammar -/

/-- An arrow with text on both sides. -/
structure Arrow (content display target : List Char) : Prop where
  split : content = display ++ '-' :: '>' :: target
  display_ne : display ≠ []
  target_ne : target ≠ []

/-- The target of the text between the brackets: what follows the last arrow with text on both sides, or
all of it. -/
inductive Target (content : List Char) : List Char → Prop
  | arrow {display target : List Char} (here : Arrow content display target)
      (last : ∀ display' target', Arrow content display' target' → display'.length ≤ display.length) :
      Target content target
  | whole (absent : ∀ display target, ¬ Arrow content display target) : Target content content

/-- A link at the front of a text. -/
def LinkText (cs target : List Char) (length : Nat) : Prop :=
  ∃ content rest, cs = '[' :: '[' :: (content ++ ']' :: ']' :: rest) ∧ content ≠ [] ∧ ']' ∉ content ∧
    Target content target ∧ length = content.length + 4

/-- What comes of a link on a line: it leads to the first passage with the name, and is left out if there
is none. -/
inductive LeadsTo (story : Story) (number : Nat) (line : List Char)
    (f : Found (List Char)) : Option Link → Prop
  | named {before after : List Revision} {r : Revision} (split : story.passages = before ++ r :: after)
      (name : r.passage.name = String.ofList f.value)
      (first : ∀ q ∈ before, q.passage.name ≠ String.ofList f.value) :
      LeadsTo story number line f
        (some ⟨⟨r.passage.id, ⟨number, f.column⟩⟩, .onLine number f.column f.length⟩)
  | unnamed (absent : ∀ r ∈ story.passages, r.passage.name ≠ String.ofList f.value) :
      LeadsTo story number line f none

/-! ### The last arrow -/

/-- What follows an arrow at the front, if that is anything. -/
def arrowAt? : List Char → Option (List Char)
  | '-' :: '>' :: d :: ds => some (d :: ds)
  | _ => none

private theorem arrowAt?_eq_some_iff {cs target : List Char} :
    arrowAt? cs = some target ↔ cs = '-' :: '>' :: target ∧ target ≠ [] := by
  constructor
  · intro h
    unfold arrowAt? at h
    split at h
    · obtain rfl := Option.some.inj h
      exact ⟨rfl, by simp⟩
    · simp at h
  · rintro ⟨rfl, hne⟩
    obtain ⟨d, ds, rfl⟩ := List.exists_cons_of_ne_nil hne
    rfl

private theorem afterArrow?_cons (c : Char) (cs : List Char) :
    afterArrow? (c :: cs) = (afterArrow? cs).or (arrowAt? cs) := by
  cases hrest : afterArrow? cs with
  | some target =>
    unfold afterArrow?
    rw [hrest]
    rfl
  | none =>
    unfold afterArrow?
    rw [hrest, Option.none_or]
    dsimp only
    split
    · rfl
    · rename_i hother
      cases h : arrowAt? cs with
      | none => rfl
      | some target =>
        obtain ⟨rfl, hne⟩ := arrowAt?_eq_some_iff.1 h
        obtain ⟨d, ds, rfl⟩ := List.exists_cons_of_ne_nil hne
        exact absurd rfl (hother d ds)

/-- An arrow has the first character as its text, or it stands in the rest. -/
private theorem arrow_cons {c : Char} {cs display target : List Char} : Arrow (c :: cs) display target ↔
    display = [c] ∧ arrowAt? cs = some target ∨
      ∃ display', display = c :: display' ∧ Arrow cs display' target := by
  rw [arrowAt?_eq_some_iff]
  constructor
  · intro h
    obtain ⟨d, display, rfl⟩ := List.exists_cons_of_ne_nil h.display_ne
    obtain ⟨rfl, hcs⟩ := List.cons.inj h.split
    cases display with
    | nil => exact .inl ⟨rfl, hcs, h.target_ne⟩
    | cons d display => exact .inr ⟨_, rfl, hcs, by simp, h.target_ne⟩
  · rintro (⟨rfl, rfl, hne⟩ | ⟨display', rfl, h⟩)
    · exact ⟨rfl, by simp, hne⟩
    · exact ⟨by rw [h.split]; rfl, by simp, h.target_ne⟩

private theorem not_arrow_of_afterArrow? {content display target : List Char}
    (h : afterArrow? content = none) :
    ¬ Arrow content display target := by
  induction content generalizing display with
  | nil =>
    intro harrow
    simpa using harrow.split
  | cons c cs ih =>
    rw [afterArrow?_cons, Option.or_eq_none_iff] at h
    rw [arrow_cons]
    rintro (⟨-, hhere⟩ | ⟨display', -, harrow⟩)
    · exact absurd hhere (by simp [h.2])
    · exact ih h.1 harrow

private theorem exists_of_afterArrow? {content target : List Char}
    (h : afterArrow? content = some target) :
    ∃ display, Arrow content display target ∧
      ∀ display' target', Arrow content display' target' → display'.length ≤ display.length := by
  induction content with
  | nil => simp [afterArrow?] at h
  | cons c cs ih =>
    rw [afterArrow?_cons] at h
    cases hrest : afterArrow? cs with
    | some t =>
      rw [hrest, Option.some_or] at h
      obtain ⟨display, harrow, hlast⟩ := ih (hrest.trans h)
      refine ⟨c :: display, arrow_cons.2 (.inr ⟨display, rfl, harrow⟩),
        fun display' target' harrow' => ?_⟩
      rcases arrow_cons.1 harrow' with ⟨rfl, -⟩ | ⟨display'', rfl, hother⟩
      · simp
      · exact Nat.succ_le_succ (hlast _ _ hother)
    | none =>
      rw [hrest, Option.none_or] at h
      refine ⟨[c], arrow_cons.2 (.inl ⟨rfl, h⟩), fun display' target' harrow' => ?_⟩
      rcases arrow_cons.1 harrow' with ⟨rfl, -⟩ | ⟨display'', -, hother⟩
      · exact Nat.le_refl _
      · exact absurd hother (not_arrow_of_afterArrow? hrest)

private theorem target_linkTarget (content : List Char) : Target content (linkTarget content) := by
  unfold linkTarget
  cases h : afterArrow? content with
  | none => exact .whole fun display target harrow => not_arrow_of_afterArrow? h harrow
  | some target =>
    obtain ⟨display, harrow, hlast⟩ := exists_of_afterArrow? h
    exact .arrow harrow hlast

private theorem Target.unique {content target target' : List Char} (h : Target content target)
    (h' : Target content target') :
    target = target' := by
  cases h with
  | @arrow display _ here last =>
    cases h' with
    | @arrow display' _ here' last' =>
      have hlength := Nat.le_antisymm (last' _ _ here) (last _ _ here')
      have hsame := (List.append_inj (here.split.symm.trans here'.split) hlength).2
      exact (List.cons.inj (List.cons.inj hsame).2).2
    | whole absent => exact absurd here (absent _ _)
  | whole absent =>
    cases h' with
    | arrow here' => exact absurd here' (absent _ _)
    | whole => rfl

private theorem linkAt?_eq_some_iff {cs target : List Char} {length : Nat} :
    linkAt? cs = some (target, length) ↔ LinkText cs target length := by
  constructor
  · intro h
    obtain ⟨content, rest, rfl, hunclosed, rfl⟩ := linkAt?_eq_some h
    have hne : content ≠ [] := by
      rintro rfl
      simp [linkAt?] at h
    rw [linkAt?_of_shape hne hunclosed, Option.some.injEq, Prod.mk.injEq] at h
    exact ⟨content, rest, rfl, hne, hunclosed, h.1 ▸ target_linkTarget content, rfl⟩
  · rintro ⟨content, rest, rfl, hne, hunclosed, htarget, rfl⟩
    rw [linkAt?_of_shape hne hunclosed, (target_linkTarget content).unique htarget]

private theorem recognises_linkAt? : Recognises linkAt? LinkText where
  iff _ _ _ := linkAt?_eq_some_iff
  pos := by
    rintro cs target length ⟨content, rest, -, -, -, -, rfl⟩
    exact Nat.succ_pos _
  length_le := by
    rintro cs target length ⟨content, rest, rfl, -, -, -, rfl⟩
    simp only [List.length_cons, List.length_append]
    omega

/-! ### The expression -/

/-- A text and an arrow. -/
def arrowExpression : Expression :=
  .seq (.group 1 (.oneOrMore (.allBut ']'))) (.seq (.set (.single '-')) (.set (.single '>')))

/-- A text and closing brackets. -/
def closingExpression : Expression :=
  .seq (.group 2 (.oneOrMore (.allBut ']'))) (.seq (.set (.single ']')) (.set (.single ']')))

def linkExpression : Expression :=
  .seq (.set (.single '[')) (.seq (.set (.single '['))
    (.seq (.optional arrowExpression) closingExpression))

/-- As it is written in the syntax of patterns. -/
example : compile? "\\[\\[(?:([^\\]]+)->)?([^\\]]+)\\]\\]" = some linkExpression.plain := by
  decide +kernel

/-- What comes of a match of the expression, which is found at a byte: the second group is the target. -/
def CapturesLink (story : Story) (number : Nat) (line : List Char) (f : Found Match)
    (link : Option Link) : Prop :=
  link = do
    let target ← f.value.group? 2
    let r ← story.findNamed? (String.ofList target)
    let column ← Text.charColumn? line (Text.byteOffset line f.column)
    return ⟨⟨r.passage.id, ⟨number, column⟩⟩, .onLine number column f.length⟩

variable {cs : List Char} {m : Match}

private theorem first?_closing : closingExpression.first? cs = some m ↔
    ∃ content rest, cs = content ++ ']' :: ']' :: rest ∧ content ≠ [] ∧ ']' ∉ content ∧
      m = ⟨content.length + 2, [(2, content)]⟩ := by
  have hbrackets : ∀ rest y,
      (Expression.seq (.set (.single ']')) (.set (.single ']'))).first? rest = some y ↔
        ∃ rest', rest = ']' :: ([']'] ++ rest') ∧ y = ⟨2, []⟩ := by
    intro rest y
    simp only [Expression.first?_seq_set, Expression.first?_set, contains_single]
    constructor
    · rintro ⟨_, _, _, rfl, rfl, ⟨_, rest', rfl, rfl, rfl⟩, rfl⟩
      exact ⟨rest', rfl, rfl⟩
    · rintro ⟨rest', rfl, rfl⟩
      exact ⟨_, _, _, rfl, rfl, ⟨_, _, rfl, rfl, rfl⟩, rfl⟩
  exact Expression.first?_seq_group_allBut hbrackets

private theorem first?_afterText :
    (Expression.seq (.set (.single '-')) (.seq (.set (.single '>')) closingExpression)).first? cs =
        some m ↔
      ∃ target rest, cs = '-' :: '>' :: (target ++ ']' :: ']' :: rest) ∧ target ≠ [] ∧ ']' ∉ target ∧
        m = ⟨target.length + 4, [(2, target)]⟩ := by
  simp only [Expression.first?_seq_set, first?_closing, contains_single]
  constructor
  · rintro ⟨_, _, _, rfl, rfl, ⟨_, _, _, rfl, rfl, ⟨target, rest', rfl, hne, hunclosed, rfl⟩, rfl⟩, rfl⟩
    exact ⟨target, rest', rfl, hne, hunclosed, by simp [Match.followedBy]; omega⟩
  · rintro ⟨target, rest', rfl, hne, hunclosed, rfl⟩
    refine ⟨_, _, _, rfl, rfl, ⟨_, _, _, rfl, rfl, ⟨target, rest', rfl, hne, hunclosed, rfl⟩, rfl⟩, ?_⟩
    simp [Match.followedBy]; omega

/-- What stands in front of the first closing bracket. -/
private theorem eq_of_closed_eq {content content' rest rest' : List Char}
    (h : ']' ∉ content) (h' : ']' ∉ content')
    (heq : content ++ ']' :: rest = content' ++ ']' :: rest') : content = content' := by
  rw [← takeWhile_ne_append h rest, heq, takeWhile_ne_append h' rest']

/-- The runs in front of an arrow and a text are the texts of the arrows with text on both sides. -/
private theorem run_afterText_iff {content rest display rest' : List Char} (hunclosed : ']' ∉ content) :
    Expression.Run (.allBut ']') (content ++ ']' :: ']' :: rest) display rest' ∧
        (Expression.seq (.set (.single '-')) (.seq (.set (.single '>')) closingExpression)).first? rest' =
          some m ↔
      ∃ target, Arrow content display target ∧ rest' = '-' :: '>' :: (target ++ ']' :: ']' :: rest) ∧
        m = ⟨target.length + 4, [(2, target)]⟩ := by
  rw [Expression.run_allBut, first?_afterText]
  constructor
  · rintro ⟨⟨hsplit, hdisplay, hrun⟩, target, rest'', rfl, htarget, hunclosed', rfl⟩
    have hcontent : content ++ ']' :: ']' :: rest = (display ++ '-' :: '>' :: target) ++
        ']' :: ']' :: rest'' := by
      rw [hsplit]
      simp
    obtain rfl := eq_of_closed_eq hunclosed (by simp [hrun, hunclosed']) hcontent
    obtain rfl : rest = rest'' := by simpa using hcontent
    exact ⟨target, ⟨rfl, hdisplay, htarget⟩, rfl, rfl⟩
  · rintro ⟨target, ⟨rfl, hdisplay, htarget⟩, rfl, rfl⟩
    have hunclosed' : ']' ∉ display ∧ ']' ∉ target := by simpa using hunclosed
    exact ⟨⟨by simp, hdisplay, hunclosed'.1⟩, target, rest, rfl, htarget, hunclosed'.2, rfl⟩

/-- The expression takes the last arrow with text on both sides. -/
private theorem first?_arrow {content : List Char} (hunclosed : ']' ∉ content) (rest : List Char) :
    (Expression.seq arrowExpression closingExpression).first? (content ++ ']' :: ']' :: rest) = some m ↔
      ∃ display target, Arrow content display target ∧
        (∀ display' target', Arrow content display' target' → display'.length ≤ display.length) ∧
        m = ⟨content.length + 2, [(1, display), (2, target)]⟩ := by
  simp only [arrowExpression, Expression.first?_seq_seq, Expression.first?_seq_group]
  have hlength : ∀ {display target}, Arrow content display target →
      Match.followedBy ⟨display.length, [(1, display)]⟩ ⟨target.length + 4, [(2, target)]⟩ =
        ⟨content.length + 2, [(1, display), (2, target)]⟩ := by
    intro display target harrow
    simp [Match.followedBy, harrow.split]
    omega
  constructor
  · rintro ⟨display, _, _, hrun, hy, rfl, hlonger⟩
    obtain ⟨target, harrow, rfl, rfl⟩ := (run_afterText_iff hunclosed).1 ⟨hrun, hy⟩
    refine ⟨display, target, harrow, fun display' target' harrow' => ?_, hlength harrow⟩
    by_contra hlt
    -- a later arrow would have been taken
    obtain ⟨hrun', hy'⟩ := (run_afterText_iff hunclosed).2 ⟨target', harrow', rfl, rfl⟩
    exact absurd ((hlonger _ _ hrun' (Nat.lt_of_not_le hlt)).symm.trans hy') (by simp)
  · rintro ⟨display, target, harrow, hlast, rfl⟩
    obtain ⟨hrun, hy⟩ := (run_afterText_iff hunclosed).2 ⟨target, harrow, rfl, rfl⟩
    refine ⟨display, _, _, hrun, hy, (hlength harrow).symm, fun display' rest' hrun' hlt => ?_⟩
    by_contra hsome
    obtain ⟨y, hy'⟩ := Option.ne_none_iff_exists'.1 hsome
    obtain ⟨target', harrow', -⟩ := (run_afterText_iff hunclosed).1 ⟨hrun', hy'⟩
    exact absurd hlt (Nat.not_lt.2 (hlast _ _ harrow'))

private theorem closed_of_first?_arrow
    (h : (Expression.seq arrowExpression closingExpression).first? cs = some m) :
    ∃ content rest, cs = content ++ ']' :: ']' :: rest ∧ content ≠ [] ∧ ']' ∉ content := by
  simp only [arrowExpression, Expression.first?_seq_seq,
    Expression.first?_seq_group, Expression.run_allBut,
    first?_afterText] at h
  obtain ⟨display, _, _, ⟨rfl, -, hunclosed⟩, ⟨target, rest, rfl, -, hunclosed', -⟩, -⟩ := h
  exact ⟨display ++ '-' :: '>' :: target, rest, by simp, by simp, by simp [hunclosed, hunclosed']⟩

private theorem first?_link : linkExpression.first? cs = some m ↔ ∃ rest y, cs = '[' :: '[' :: rest ∧
    ((Expression.seq arrowExpression closingExpression).first? rest).or
      (closingExpression.first? rest) = some y ∧
      m = ⟨y.length + 2, y.groups⟩ := by
  unfold linkExpression
  simp only [Expression.first?_seq_set, Expression.first?_seq_optional, contains_single]
  constructor
  · rintro ⟨_, _, _, rfl, rfl, ⟨_, rest, y, rfl, rfl, hy, rfl⟩, rfl⟩
    exact ⟨rest, y, rfl, hy, by simp [Match.followedBy]; omega⟩
  · rintro ⟨rest, y, rfl, hy, rfl⟩
    exact ⟨_, _, _, rfl, rfl, ⟨_, rest, y, rfl, rfl, hy, rfl⟩, by simp [Match.followedBy]; omega⟩

/-- The expression matches where there is a link, and puts its target into the second group. -/
private theorem exists_first?_link {target : List Char} {length : Nat} (h : LinkText cs target length) :
    ∃ m, linkExpression.first? cs = some m ∧ m.group? 2 = some target ∧ m.length = length := by
  obtain ⟨content, rest, rfl, hne, hunclosed, htarget, rfl⟩ := h
  cases htarget with
  | @arrow display target here last =>
    have harrow := (first?_arrow hunclosed rest).2 ⟨display, target, here, last, rfl⟩
    exact ⟨_, first?_link.2 ⟨_, _, rfl, by rw [harrow, Option.some_or], rfl⟩, rfl, rfl⟩
  | whole absent =>
    have hnone : (Expression.seq arrowExpression closingExpression).first?
        (target ++ ']' :: ']' :: rest) = none := by
      by_contra hsome
      obtain ⟨y, hy⟩ := Option.ne_none_iff_exists'.1 hsome
      obtain ⟨display, target', harrow, -⟩ := (first?_arrow hunclosed rest).1 hy
      exact absent _ _ harrow
    have hclosing := first?_closing.2 ⟨target, rest, rfl, hne, hunclosed, rfl⟩
    exact ⟨_, first?_link.2 ⟨_, _, rfl, by rw [hnone, Option.none_or, hclosing], rfl⟩, rfl, rfl⟩

private theorem linkText_of_first? (h : linkExpression.first? cs = some m) :
    ∃ target, LinkText cs target m.length ∧ m.group? 2 = some target := by
  obtain ⟨target, length, hlink⟩ : ∃ target length, LinkText cs target length := by
    obtain ⟨_, y, rfl, hy, rfl⟩ := first?_link.1 h
    rcases Option.or_eq_some_iff.1 hy with hy | ⟨-, hy⟩
    · obtain ⟨content, rest, rfl, hne, hunclosed⟩ := closed_of_first?_arrow hy
      exact ⟨_, _, content, rest, rfl, hne, hunclosed, target_linkTarget content, rfl⟩
    · obtain ⟨content, rest, rfl, hne, hunclosed, -⟩ := first?_closing.1 hy
      exact ⟨_, _, content, rest, rfl, hne, hunclosed, target_linkTarget content, rfl⟩
  obtain ⟨m', hm', hgroup, rfl⟩ := exists_first?_link hlink
  obtain rfl := Option.some.inj (hm'.symm.trans h)
  exact ⟨target, hlink, hgroup⟩

private theorem linkText_iff {target : List Char} {length : Nat} : LinkText cs target length ↔
    ∃ m, linkExpression.first? cs = some m ∧ (m.group? 2).getD [] = target ∧ m.length = length := by
  constructor
  · intro h
    obtain ⟨m, hm, hgroup, hlength⟩ := exists_first?_link h
    exact ⟨m, hm, by rw [hgroup, Option.getD_some], hlength⟩
  · rintro ⟨m, hm, rfl, rfl⟩
    obtain ⟨target, hlink, hgroup⟩ := linkText_of_first? hm
    rwa [hgroup, Option.getD_some]

/-! ### What a scan finds -/

private theorem leadsTo_iff {story : Story} {number : Nat} {line : List Char} {f : Found (List Char)}
    {link : Option Link} :
    LeadsTo story number line f link ↔ ((story.findNamed? (String.ofList f.value)).map fun r =>
      (⟨⟨r.passage.id, ⟨number, f.column⟩⟩, .onLine number f.column f.length⟩ : Link)) = link := by
  unfold Story.findNamed?
  constructor
  · rintro (⟨hsplit, hname, hfirst⟩ | habsent)
    · rw [hsplit, List.find?_append, List.find?_eq_none.2 (by simpa using hfirst), Option.none_or,
        List.find?_cons_of_pos (by simpa using hname), Option.map_some]
    · rw [List.find?_eq_none.2 (by simpa using habsent), Option.map_none]
  · rintro rfl
    cases hfind : story.passages.find? (·.passage.name = String.ofList f.value) with
    | some r =>
      obtain ⟨hname, before, after, hsplit, hfirst⟩ := List.find?_eq_some_iff_append.1 hfind
      exact .named hsplit (by simpa using hname) (by simpa using hfirst)
    | none => exact .unnamed (by simpa using hfind)

/-- The links of a text are those of the grammar and those of the expression.  They are not empty, they do
not overlap and stand in the order of the text, and no two of them have the same key. -/
theorem scanLinks_by_grammar (lines : List (List Char)) (story : Story) :
    (∀ links, InLines (OnLine LinkText (LeadsTo story)) 0 lines links ↔ scanLinks lines story = links) ∧
    (∀ links, InLines (OnLine linkExpression.Prefers (CapturesLink story)) 0 lines links ↔
      scanLinks lines story = links) ∧
    (∀ link ∈ scanLinks lines story, link.range.start < link.range.stop) ∧
    ((scanLinks lines story).Pairwise fun x y => x.range.stop ≤ y.range.start) ∧
    ((scanLinks lines story).map (·.key)).Nodup := by
  refine ⟨fun links => inLines_scanLines_iff fun number line xs => ?_,
    fun links => inLines_scanLines_iff fun number line xs => ?_,
    fun link => start_lt_stop_of_mem_scanLinks, pairwise_scanLinks lines story, ?_⟩
  · exact onLine_iff recognises_linkAt? fun f _ x => leadsTo_iff
  · refine onLine_prefers_iff recognises_linkAt? (fun _ _ _ => linkText_iff) fun f hcolumn hfirst x => ?_
    obtain ⟨target, -, hgroup⟩ := linkText_of_first? hfirst
    rw [CapturesLink, hgroup, Text.charColumn?_byteOffset hcolumn, Option.getD_some, eq_comm]
    cases h : story.findNamed? (String.ofList target) <;> simp [h]
  · have hstarts := nodup_starts_scanLinks lines story
    rw [List.Nodup, List.pairwise_map] at hstarts ⊢
    exact hstarts.imp fun hne heq => hne (congrArg LinkKey.start heq)

/-- Two passages, of which the second has an arrow in its name. -/
def arrowStory : Story :=
  ⟨⟨1⟩, "Story", default, [⟨0, .fresh ⟨1⟩ "c" "" []⟩, ⟨1, .fresh ⟨2⟩ "->d" "" []⟩]⟩

def arrowLine : List Char := "[[a->b->c]] [[x]] [[->d]]".toList

/-- The last of two arrows counts, a link to no passage is left out, and an arrow without a text before it
is part of a name. -/
theorem scanLinks_by_grammar_arrows :
    let links : List Link := [⟨⟨⟨1⟩, ⟨0, 0⟩⟩, .onLine 0 0 11⟩, ⟨⟨⟨2⟩, ⟨0, 18⟩⟩, .onLine 0 18 7⟩]
    scanLinks [arrowLine] arrowStory = links ∧
      InLines (OnLine LinkText (LeadsTo arrowStory)) 0 [arrowLine] links ∧
      InLines (OnLine linkExpression.Prefers (CapturesLink arrowStory)) 0 [arrowLine] links := by
  intro links
  have hscan : scanLinks [arrowLine] arrowStory = links := by decide +kernel
  obtain ⟨hgrammar, hexpression, -⟩ := scanLinks_by_grammar [arrowLine] arrowStory
  exact ⟨hscan, (hgrammar links).2 hscan, (hexpression links).2 hscan⟩

end PassageEditor.Markup
