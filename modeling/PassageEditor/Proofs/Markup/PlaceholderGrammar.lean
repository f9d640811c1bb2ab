import Mathlib.Data.List.Basic
import PassageEditor.Pattern.Parser
import PassageEditor.Proofs.Markup.Leftmost
import PassageEditor.Proofs.Text.Columns

/-!
# The grammar of placeholders

The placeholders of a text are told in two ways, and a scan gives what both of them give
(`scanPlaceholders_by_grammar`): by the expression for placeholders, and by a grammar, in which a
placeholder is a run of decimal digits and a label without closing braces.  Two placeholders that overlap
end together, so none stands where the scan has found nothing.
-/

namespace PassageEditor.Markup

open Pattern

/-! ### The grammar -/

/-- A placeholder at the front of a text: its number and its label. -/
def PlaceholderText (cs : List Char) (value : List Char × List Char) (length : Nat) : Prop :=
  ∃ rest, cs = '$' :: '\x7b' :: (value.1 ++ ':' :: (value.2 ++ '\x7d' :: rest)) ∧
    (∀ c ∈ value.1, Text.isDecimalDigit c) ∧ value.1 ≠ [] ∧ value.2 ≠ [] ∧ '\x7d' ∉ value.2 ∧
    length = value.1.length + value.2.length + 4

/-- What comes of a placeholder on a line. -/
def Stands (number : Nat) (_line : List Char) (f : Found (List Char × List Char))
    (p : Option Placeholder) : Prop :=
  p = some ⟨.onLine number f.column f.length, String.ofList f.value.1, String.ofList f.value.2⟩

private theorem placeholderAt?_eq_some_iff {cs : List Char} {value : List Char × List Char}
    {length : Nat} : placeholderAt? cs = some (value, length) ↔ PlaceholderText cs value length := by
  constructor
  · exact placeholderAt?_eq_some
  · rintro ⟨rest, rfl, hdigits, hindex, hlabel, hunclosed, rfl⟩
    exact placeholderAt?_of_shape hdigits hindex hlabel hunclosed rest

private theorem recognises_placeholderAt? : Recognises placeholderAt? PlaceholderText where
  iff _ _ _ := placeholderAt?_eq_some_iff
  pos := by
    rintro cs value length ⟨rest, -, -, -, -, -, rfl⟩
    exact Nat.succ_pos _
  length_le := by
    rintro cs value length ⟨rest, rfl, -, -, -, -, rfl⟩
    simp only [List.length_cons, List.length_append]
    omega

/-! ### The expression -/

def digits : CharSet := .property (.category ["nd"])

/-- A label and the closing brace. -/
def labelExpression : Expression := .seq (.group 2 (.oneOrMore (.allBut '\x7d'))) (.set (.single '\x7d'))

def placeholderExpression : Expression :=
  .seq (.set (.single '$')) (.seq (.set (.single '\x7b'))
    (.seq (.group 1 (.oneOrMore digits)) (.seq (.set (.single ':')) labelExpression)))

/-- As it is written in the syntax of patterns. -/
example : compile? "\\$\\\x7b(\\d+):([^\x7d]+)\\\x7d" = some placeholderExpression.plain := by
  decide +kernel

/-- What comes of a match of the expression, which is found at a byte: the groups are the number and the
label. -/
def CapturesPlaceholder (number : Nat) (line : List Char) (f : Found Match) (p : Option Placeholder) :
    Prop :=
  p = do
    let index ← f.value.group? 1
    let label ← f.value.group? 2
    let column ← Text.charColumn? line (Text.byteOffset line f.column)
    return ⟨.onLine number column f.length, String.ofList index, String.ofList label⟩

variable {cs : List Char} {m : Match}

private theorem first?_label : labelExpression.first? cs = some m ↔
    ∃ label rest, cs = label ++ '\x7d' :: rest ∧ label ≠ [] ∧ '\x7d' ∉ label ∧
      m = ⟨label.length + 1, [(2, label)]⟩ := by
  have hbrace : ∀ rest y, (Expression.set (.single '\x7d')).first? rest = some y ↔
      ∃ rest', rest = '\x7d' :: ([] ++ rest') ∧ y = ⟨1, []⟩ := by
    intro rest y
    simp [Expression.first?_set, contains_single]
  exact Expression.first?_seq_group_allBut hbrace

private theorem first?_placeholder : placeholderExpression.first? cs = some m ↔
    ∃ index label, PlaceholderText cs (index, label) m.length ∧ m.groups = [(1, index), (2, label)] := by
  have hcolon : ∀ rest y, (Expression.seq (.set (.single ':')) labelExpression).first? rest = some y →
      ∃ rest', rest = ':' :: rest' := by
    intro rest y hy
    obtain ⟨c, rest', -, rfl, hc, -⟩ := Expression.first?_seq_set.1 hy
    exact ⟨rest', by rw [contains_single.1 hc]⟩
  have hstop : ¬ digits.contains ':' := by decide
  unfold placeholderExpression
  simp only [Expression.first?_seq_group_closed hstop hcolon, Expression.first?_seq_set,
    first?_label, contains_single]
  constructor
  · rintro ⟨_, _, _, rfl, rfl, ⟨_, _, _, rfl, rfl, ⟨index, _, _, hindex,
      ⟨_, _, _, rfl, rfl, ⟨label, rest, rfl, hlabel, hunclosed, rfl⟩, rfl⟩, rfl⟩, rfl⟩, rfl⟩
    refine ⟨index, label,
      ⟨rest, by rw [hindex.split], hindex.within, hindex.ne_nil, hlabel, hunclosed, ?_⟩, rfl⟩
    simp [Match.followedBy]
    omega
  · obtain ⟨length, groups⟩ := m
    rintro ⟨index, label, ⟨rest, rfl, hdigits, hindex, hlabel, hunclosed, hlength⟩, hgroups⟩
    dsimp only at hlength hgroups
    subst hlength hgroups
    refine ⟨_, _, _, rfl, rfl, ⟨_, _, _, rfl, rfl, ⟨index, _, _, ⟨rfl, hindex, hdigits⟩,
      ⟨_, _, _, rfl, rfl, ⟨label, rest, rfl, hlabel, hunclosed, rfl⟩, rfl⟩, rfl⟩, rfl⟩, ?_⟩
    simp [Match.followedBy]
    omega

private theorem placeholderText_iff {value : List Char × List Char} {length : Nat} :
    PlaceholderText cs value length ↔
    ∃ m, placeholderExpression.first? cs = some m ∧ ((m.group? 1).getD [], (m.group? 2).getD []) = value ∧
      m.length = length := by
  constructor
  · intro h
    exact ⟨⟨length, [(1, value.1), (2, value.2)]⟩, first?_placeholder.2 ⟨_, _, h, rfl⟩, rfl, rfl⟩
  · rintro ⟨m, hm, rfl, rfl⟩
    obtain ⟨index, label, h, hgroups⟩ := first?_placeholder.1 hm
    rw [Match.group?, Match.group?, hgroups]
    exact h

/-! ### What a scan finds -/

/-- The placeholders of a text are those of the grammar and those of the expression.  They are not empty,
they do not overlap and stand in the order of the text, and every placeholder of the grammar overlaps with
one of them. -/
theorem scanPlaceholders_by_grammar (lines : List (List Char)) :
    (∀ ps, InLines (OnLine PlaceholderText Stands) 0 lines ps ↔ scanPlaceholders lines = ps) ∧
    (∀ ps, InLines (OnLine placeholderExpression.Prefers CapturesPlaceholder) 0 lines ps ↔
      scanPlaceholders lines = ps) ∧
    (∀ p ∈ scanPlaceholders lines, p.range.start < p.range.stop) ∧
    ((scanPlaceholders lines).Pairwise fun x y => x.range.stop ≤ y.range.start) ∧
    (∀ number line column value length, lines[number]? = some line →
      PlaceholderText (line.drop column) value length →
        ∃ p ∈ scanPlaceholders lines, p.range.start < ⟨number, column + length⟩ ∧
          ⟨number, column⟩ < p.range.stop) := by
  refine ⟨fun ps => inLines_scanLines_iff fun number line xs => ?_,
    fun ps => inLines_scanLines_iff fun number line xs => ?_,
    fun p => start_lt_stop_of_mem_scanPlaceholders, pairwise_scanPlaceholders lines, ?_⟩
  · exact onLine_iff recognises_placeholderAt? fun f _ x => eq_comm
  · refine onLine_prefers_iff recognises_placeholderAt? (fun _ _ _ => placeholderText_iff)
      fun f hcolumn hfirst x => ?_
    obtain ⟨index, label, -, hgroups⟩ := first?_placeholder.1 hfirst
    rw [CapturesPlaceholder, Match.group?, Match.group?, hgroups,
      Text.charColumn?_byteOffset hcolumn, eq_comm]
    rfl
  · intro number line column value length hline hplaceholder
    have hpos := recognises_placeholderAt?.pos _ _ _ hplaceholder
    obtain ⟨p, hp, hstop⟩ := exists_scanned_of_match hline (placeholderAt?_eq_some_iff.2 hplaceholder)
    refine ⟨p, hp, hstop ▸ start_lt_stop_of_mem_scanPlaceholders hp, ?_⟩
    rw [hstop]
    exact .inr ⟨rfl, Nat.lt_add_of_pos_right hpos⟩

/-- A placeholder in the label of another. -/
def nestedLine : List Char := "$\x7b1:a $\x7b2:b\x7d".toList

/-- The inner placeholder is not found, but it does not stand beside the outer one. -/
theorem scanPlaceholders_by_grammar_nested :
    let ps : List Placeholder := [⟨.onLine 0 0 12, "1", "a $\x7b2:b"⟩]
    scanPlaceholders [nestedLine] = ps ∧
      InLines (OnLine PlaceholderText Stands) 0 [nestedLine] ps ∧
      InLines (OnLine placeholderExpression.Prefers CapturesPlaceholder) 0 [nestedLine] ps ∧
      PlaceholderText (nestedLine.drop 6) (['2'], ['b']) 6 ∧
      ∃ p ∈ scanPlaceholders [nestedLine], p.range.start < ⟨0, 6 + 6⟩ ∧ ⟨0, 6⟩ < p.range.stop := by
  intro ps
  have hscan : scanPlaceholders [nestedLine] = ps := by decide +kernel
  have hinner : PlaceholderText (nestedLine.drop 6) (['2'], ['b']) 6 :=
    placeholderAt?_eq_some_iff.1 (by decide +kernel)
  obtain ⟨hgrammar, hexpression, -, -, hgaps⟩ := scanPlaceholders_by_grammar [nestedLine]
  exact ⟨hscan, (hgrammar ps).2 hscan, (hexpression ps).2 hscan, hinner,
    hgaps 0 nestedLine 6 _ 6 rfl hinner⟩

end PassageEditor.Markup
