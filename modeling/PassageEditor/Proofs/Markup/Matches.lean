import Mathlib.Data.List.TakeWhile
import PassageEditor.Markup.Scan
import PassageEditor.Proofs.Buffer.Covered

/-!
# What a scan finds

A scan finds matches of its recogniser, from left to right and without overlap (`pairwise_scanLines`).  It
need not find every match, but where matches that overlap end together each match ends where one that is
found ends (`exists_found_of_match`); placeholders are of that kind, since they end at the first closing
brace.  On a buffer a link covers a text in double brackets (`covers_of_mem_scanLinks`), and a placeholder
covers its own text (`covers_of_mem_scanPlaceholders`).
-/

namespace PassageEditor.Markup

/-! ### One line -/

section Line

variable {α : Type} {recognise : List Char → Option (α × Nat)}

/-- What is found is a match. -/
theorem match_of_mem_scanFrom {skip column : Nat} {cs : List Char} {f : Found α}
    (h : f ∈ scanFrom recognise skip column cs) :
    column + skip ≤ f.column ∧ f.column < column + cs.length ∧
      recognise (cs.drop (f.column - column)) = some (f.value, f.length) := by
  induction cs generalizing skip column with
  | nil => simp [scanFrom] at h
  | cons c cs ih =>
    -- one character on: the column of the rest is one more
    have hrest : ∀ skip', f ∈ scanFrom recognise skip' (column + 1) cs →
        column + 1 + skip' ≤ f.column ∧ f.column < column + (c :: cs).length ∧
          recognise ((c :: cs).drop (f.column - column)) = some (f.value, f.length) := by
      intro skip' hf
      obtain ⟨hge, hlt, hmatch⟩ := ih hf
      have hsucc : f.column - column = f.column - (column + 1) + 1 := by omega
      rw [hsucc, List.drop_succ_cons, List.length_cons]
      exact ⟨hge, by omega, hmatch⟩
    cases skip with
    | succ skip =>
      obtain ⟨hge, hlt, hmatch⟩ := hrest skip h
      exact ⟨by omega, hlt, hmatch⟩
    | zero =>
      unfold scanFrom at h
      split at h
      · obtain ⟨hge, hlt, hmatch⟩ := hrest 0 h
        exact ⟨by omega, hlt, hmatch⟩
      · rename_i value length hfound
        rcases List.mem_cons.1 h with rfl | h
        · simp [hfound]
        · obtain ⟨hge, hlt, hmatch⟩ := hrest _ h
          exact ⟨by omega, hlt, hmatch⟩

/-- The next match begins at the end of the one before at the earliest. -/
private theorem pairwise_scanFrom (skip column : Nat) (cs : List Char) :
    (scanFrom recognise skip column cs).Pairwise fun f g => f.column + f.length ≤ g.column := by
  induction cs generalizing skip column with
  | nil => exact List.Pairwise.nil
  | cons c cs ih =>
    cases skip with
    | succ skip => exact ih skip (column + 1)
    | zero =>
      unfold scanFrom
      split
      · exact ih 0 (column + 1)
      · rename_i value length hfound
        refine List.pairwise_cons.2 ⟨?_, ih _ _⟩
        intro g hg
        have hge := (match_of_mem_scanFrom hg).1
        show column + length ≤ g.column
        omega

/-- Scanning goes on behind a text that no match begins in. -/
private theorem scanFrom_append {before cs : List Char}
    (h : ∀ c ∈ before, ∀ cs, recognise (c :: cs) = none) (column : Nat) :
    scanFrom recognise 0 column (before ++ cs) = scanFrom recognise 0 (column + before.length) cs := by
  induction before generalizing column with
  | nil => rfl
  | cons c before ih =>
    rw [List.cons_append, scanFrom, h c List.mem_cons_self]
    dsimp only
    rw [ih (fun d hd => h d (List.mem_cons_of_mem c hd)), List.length_cons,
      Nat.add_right_comm, Nat.add_assoc]

/-- Where a match is taken no other one begins. -/
private theorem mem_scanFrom_at {c : Char} {cs : List Char} {value : α} {length : Nat}
    (h : recognise (c :: cs) = some (value, length)) {column : Nat} {f : Found α} :
    f ∈ scanFrom recognise 0 column (c :: cs) ∧ f.column = column ↔ f = ⟨column, length, value⟩ := by
  rw [scanFrom, h]
  dsimp only
  constructor
  · rintro ⟨hf, hcolumn⟩
    rcases List.mem_cons.1 hf with rfl | hf
    · rfl
    · have hbehind := (match_of_mem_scanFrom hf).1
      omega
  · rintro rfl
    exact ⟨List.mem_cons_self, rfl⟩

/-- Matches that overlap end together. -/
def EndTogether (recognise : List Char → Option (α × Nat)) : Prop :=
  ∀ cs first second k, recognise cs = some first → k < first.2 → recognise (cs.drop k) = some second →
    k + second.2 = first.2

/-- Then every match ends where one that is found ends. -/
theorem exists_found_of_match (hends : EndTogether recognise) (hnil : recognise [] = none)
    {skip column k : Nat} {cs : List Char} {found : α × Nat} (hk : skip ≤ k)
    (h : recognise (cs.drop k) = some found) :
    ∃ f ∈ scanFrom recognise skip column cs, f.column + f.length = column + k + found.2 := by
  induction cs generalizing skip column k with
  | nil => simp [hnil] at h
  | cons c cs ih =>
    -- the match begins behind the first character
    have hrest : ∀ skip' k', k = k' + 1 → skip' ≤ k' →
        ∃ f ∈ scanFrom recognise skip' (column + 1) cs, f.column + f.length = column + k + found.2 := by
      intro skip' k' hk' hle
      rw [hk', List.drop_succ_cons] at h
      obtain ⟨f, hf, hend⟩ : ∃ f ∈ scanFrom recognise skip' (column + 1) cs,
          f.column + f.length = column + 1 + k' + found.2 := ih hle h
      exact ⟨f, hf, by omega⟩
    cases skip with
    | succ skip => exact hrest skip (k - 1) (by omega) (by omega)
    | zero =>
      unfold scanFrom
      split
      · rename_i hnone
        cases k with
        | zero => exact absurd h (by simp [hnone])
        | succ k => exact hrest 0 k rfl (Nat.zero_le k)
      · rename_i value length hfound
        rcases Nat.lt_or_ge k length with hlt | hge
        · have hend := hends (c :: cs) (value, length) found k hfound hlt h
          refine ⟨_, List.mem_cons_self, ?_⟩
          show column + length = _
          simp only at hend
          omega
        · cases k with
          | zero =>
            have hsame : found = (value, length) := by simpa [hfound, eq_comm] using h
            exact ⟨_, List.mem_cons_self, by rw [hsame]; rfl⟩
          | succ k =>
            obtain ⟨f, hf, hend⟩ := hrest (length - 1) k rfl (by omega)
            exact ⟨f, List.mem_cons_of_mem _ hf, hend⟩

end Line

/-! ### Several lines -/

section Lines

variable {α β : Type} {recognise : List Char → Option (α × Nat)} {keep : Nat → Found α → Option β}

private theorem mem_scanLines {number : Nat} {lines : List (List Char)} {x : β} :
    x ∈ scanLines recognise keep number lines ↔
      ∃ i line f, lines[i]? = some line ∧ f ∈ scanLine recognise line ∧ keep (number + i) f = some x := by
  induction lines generalizing number with
  | nil => simp [scanLines]
  | cons line rest ih =>
    rw [scanLines, List.mem_append, List.mem_filterMap, ih]
    constructor
    · rintro (⟨f, hf, hx⟩ | ⟨i, line', f, hline, hf, hx⟩)
      · exact ⟨0, line, f, rfl, hf, hx⟩
      · exact ⟨i + 1, line', f, hline, hf, by rw [← hx]; congr 1; omega⟩
    · rintro ⟨_ | i, line', f, hline, hf, hx⟩
      · obtain rfl := Option.some.inj hline
        exact .inl ⟨f, hf, hx⟩
      · exact .inr ⟨i, line', f, hline, hf, by rw [← hx]; congr 1; omega⟩

/-- What is kept of the matches stands one after the other. -/
theorem pairwise_scanLines {range : β → Range}
    (hrange : ∀ n f x, keep n f = some x → range x = .onLine n f.column f.length) (number : Nat)
    (lines : List (List Char)) :
    (scanLines recognise keep number lines).Pairwise fun x y => (range x).stop ≤ (range y).start := by
  induction lines generalizing number with
  | nil => exact List.Pairwise.nil
  | cons line rest ih =>
    rw [scanLines, List.pairwise_append]
    refine ⟨?_, ih (number + 1), ?_⟩
    · refine (pairwise_scanFrom 0 0 line).filterMap _ ?_
      intro f g hle x hx y hy
      rw [hrange _ _ _ hx, hrange _ _ _ hy]
      exact .inr ⟨rfl, hle⟩
    · intro x hx y hy
      obtain ⟨f, -, hf⟩ := List.mem_filterMap.1 hx
      obtain ⟨i, -, g, -, -, hg⟩ := mem_scanLines.1 hy
      rw [hrange _ _ _ hf, hrange _ _ _ hg]
      refine .inl ?_
      show number < number + 1 + i
      omega

end Lines

/-! ### Links -/

private theorem takeWhile_append_drop (p : Char → Bool) (cs : List Char) :
    cs.takeWhile p ++ cs.drop (cs.takeWhile p).length = cs :=
  List.prefix_iff_eq_append.1 (List.takeWhile_prefix p)

theorem not_mem_takeWhile_ne (c : Char) (cs : List Char) : c ∉ cs.takeWhile (· ≠ c) := by
  intro hmem
  simpa using List.mem_takeWhile_imp hmem

/-- What stands in front of the first `c`. -/
theorem takeWhile_ne_append {c : Char} {cs : List Char} (h : c ∉ cs) (rest : List Char) :
    (cs ++ c :: rest).takeWhile (· ≠ c) = cs := by
  have hne : ∀ d ∈ cs, decide (d ≠ c) = true := by simpa using List.forall_mem_ne'.2 h
  rw [List.takeWhile_append_of_pos hne, List.takeWhile_cons_of_neg (by simp), List.append_nil]

/-- Where the characters before the first `c` are not all, `c` comes next. -/
private theorem drop_takeWhile_ne {c : Char} {cs : List Char}
    (h : (cs.takeWhile (· ≠ c)).length < cs.length) :
    ∃ rest, cs.drop (cs.takeWhile (· ≠ c)).length = c :: rest := by
  induction cs with
  | nil => simp at h
  | cons d cs ih =>
    by_cases hd : d = c
    · rw [List.takeWhile_cons_of_neg (by simp [hd]), hd]
      exact ⟨cs, rfl⟩
    · rw [List.takeWhile_cons_of_pos (by simp [hd]), List.length_cons, List.length_cons] at h
      obtain ⟨rest, hrest⟩ := ih (by omega)
      refine ⟨rest, ?_⟩
      rw [List.takeWhile_cons_of_pos (by simp [hd]), List.length_cons, List.drop_succ_cons, hrest]

/-- A link is a text without closing brackets in double brackets. -/
theorem linkAt?_eq_some {cs value : List Char} {length : Nat} (h : linkAt? cs = some (value, length)) :
    ∃ content rest, cs = '[' :: '[' :: (content ++ ']' :: ']' :: rest) ∧ ']' ∉ content ∧
      length = content.length + 4 := by
  unfold linkAt? at h
  split at h
  · rename_i cs
    dsimp only at h
    split at h
    · rename_i hclosed
      obtain ⟨rest, hrest⟩ : [']', ']'] <+: cs.drop (cs.takeWhile (· ≠ ']')).length :=
        List.isPrefixOf_iff_prefix.1 hclosed.2
      have hcontent := takeWhile_append_drop (· ≠ ']') cs
      rw [← hrest] at hcontent
      simp only [Option.some.injEq, Prod.mk.injEq] at h
      refine ⟨cs.takeWhile (· ≠ ']'), rest, ?_, not_mem_takeWhile_ne ']' cs, h.2.symm⟩
      conv_lhs => rw [← hcontent]
      rfl
    · simp at h
  · simp at h

/-- A text without closing brackets in double brackets is a link, whatever follows. -/
theorem linkAt?_of_shape {content : List Char} (hne : content ≠ [])
    (hunclosed : ']' ∉ content) (rest : List Char) :
    linkAt? ('[' :: '[' :: (content ++ ']' :: ']' :: rest)) =
      some (linkTarget content, content.length + 4) := by
  have htake := takeWhile_ne_append hunclosed (']' :: rest)
  have hcloses : startsWith [']', ']'] (']' :: ']' :: rest) = true := rfl
  simp only [linkAt?, htake, List.drop_left, hcloses, hne, ne_eq, not_false_eq_true, and_self, ↓reduceIte]

private theorem linkAt?_eq_none {c : Char} (h : c ≠ '[') (cs : List Char) : linkAt? (c :: cs) = none := by
  unfold linkAt?
  split
  · rename_i heq
    exact absurd (List.cons.inj heq).1 h
  · rfl

/-- Without an arrow the text between the brackets is the target. -/
theorem linkTarget_of_straight {content : List Char} (h : ¬ ['-', '>'] <:+: content) :
    linkTarget content = content := by
  have hnone : afterArrow? content = none := by
    induction content with
    | nil => rfl
    | cons c cs ih =>
      rw [List.infix_cons_iff, not_or] at h
      rw [afterArrow?, ih h.2]
      rintro d ds rfl
      exact h.2 (List.IsPrefix.isInfix ⟨d :: ds, rfl⟩)
  rw [linkTarget, hnone, Option.getD_none]

/-- The first link of a line leads to the passage that its text names, if there is one. -/
theorem mem_keys_scanLinks_first {lines : List (List Char)} {story : Story} {l : Nat}
    {before content rest : List Char}
    (hline : lines[l]? = some (before ++ '[' :: '[' :: (content ++ ']' :: ']' :: rest)))
    (hbefore : '[' ∉ before) (hne : content ≠ []) (hunclosed : ']' ∉ content) (passage : PassageId) :
    ⟨passage, ⟨l, before.length⟩⟩ ∈ (scanLinks lines story).map (·.key) ↔
      (story.findNamed? (String.ofList (linkTarget content))).map (·.passage.id) = some passage := by
  have hfirst : ∀ f : Found (List Char),
      f ∈ scanLine linkAt? (before ++ '[' :: '[' :: (content ++ ']' :: ']' :: rest)) ∧
      f.column = before.length ↔
        f = ⟨before.length, content.length + 4, linkTarget content⟩ := by
    intro f
    have hnone : ∀ c ∈ before, ∀ cs, linkAt? (c :: cs) = none := fun c hc cs =>
      linkAt?_eq_none (fun heq => hbefore (heq ▸ hc)) cs
    rw [scanLine, scanFrom_append hnone, Nat.zero_add]
    exact mem_scanFrom_at (linkAt?_of_shape hne hunclosed rest)
  rw [List.mem_map]
  constructor
  · rintro ⟨link, hlink, hkey⟩
    obtain ⟨i, line, f, hi, hf, hkept⟩ := mem_scanLines.1 hlink
    obtain ⟨r, hr, rfl⟩ := Option.map_eq_some_iff.1 hkept
    simp only [Nat.zero_add, LinkKey.mk.injEq, Position.mk.injEq] at hkey
    obtain ⟨hpassage, rfl, hcolumn⟩ := hkey
    obtain rfl := Option.some.inj (hi.symm.trans hline)
    obtain rfl := (hfirst f).1 ⟨hf, hcolumn⟩
    rw [hr, Option.map_some, hpassage]
  · intro hnamed
    obtain ⟨r, hr, hpassage⟩ := Option.map_eq_some_iff.1 hnamed
    obtain ⟨hf, hcolumn⟩ := (hfirst ⟨before.length, content.length + 4, linkTarget content⟩).2 rfl
    refine ⟨_, mem_scanLines.2 ⟨l, _, _, hline, hf, by rw [hr, Option.map_some]⟩, ?_⟩
    rw [Nat.zero_add, hpassage]

theorem range_of_mem_scanLinks {lines : List (List Char)} {story : Story} {link : Link}
    (h : link ∈ scanLinks lines story) : link.range.start = link.key.start := by
  obtain ⟨i, line, f, -, -, hlink⟩ := mem_scanLines.1 h
  obtain ⟨r, -, rfl⟩ := Option.map_eq_some_iff.1 hlink
  rfl

theorem start_lt_stop_of_mem_scanLinks {lines : List (List Char)} {story : Story} {link : Link}
    (h : link ∈ scanLinks lines story) : link.range.start < link.range.stop := by
  obtain ⟨i, line, f, -, hf, hlink⟩ := mem_scanLines.1 h
  obtain ⟨r, -, rfl⟩ := Option.map_eq_some_iff.1 hlink
  obtain ⟨-, -, hmatch⟩ := match_of_mem_scanFrom hf
  obtain ⟨content, rest, -, -, hlength⟩ := linkAt?_eq_some hmatch
  refine .inr ⟨rfl, ?_⟩
  show f.column < f.column + f.length
  omega

/-- On a buffer a link covers its text in double brackets. -/
theorem covers_of_mem_scanLinks {b : Buffer} {story : Story} {link : Link}
    (h : link ∈ scanLinks b.lines story) :
    ∃ content, ']' ∉ content ∧ b.Covers link.range ('[' :: '[' :: (content ++ [']', ']'])) := by
  obtain ⟨i, line, f, hline, hf, hlink⟩ := mem_scanLines.1 h
  obtain ⟨r, -, rfl⟩ := Option.map_eq_some_iff.1 hlink
  obtain ⟨-, -, hmatch⟩ := match_of_mem_scanFrom hf
  obtain ⟨content, rest, htext, hunclosed, hlength⟩ := linkAt?_eq_some hmatch
  have hi : i < b.lines.length := (List.getElem?_eq_some_iff.1 hline).1
  have hb : b.line i = line := by simp [Buffer.line, hline]
  rw [Nat.sub_zero] at htext
  have htotal := congrArg List.length htext
  simp only [List.length_drop, List.length_cons, List.length_append] at htotal
  have hfits : f.column + f.length ≤ (b.line i).length := by
    rw [hb]
    omega
  have hcovers := Buffer.covers_onLine hi hfits
  have hpiece : ((b.line i).drop f.column).take f.length = '[' :: '[' :: (content ++ [']', ']']) := by
    have hsplit : '[' :: '[' :: (content ++ ']' :: ']' :: rest) =
        '[' :: '[' :: (content ++ [']', ']']) ++ rest := by
      simp
    rw [hb, htext, hsplit, hlength, List.take_left' (by simp)]
  rw [hpiece] at hcovers
  refine ⟨content, hunclosed, ?_⟩
  rw [Nat.zero_add]
  exact hcovers

theorem pairwise_scanLinks (lines : List (List Char)) (story : Story) :
    (scanLinks lines story).Pairwise fun x y => x.range.stop ≤ y.range.start := by
  refine pairwise_scanLines ?_ 0 lines
  intro n f link hlink
  obtain ⟨r, -, rfl⟩ := Option.map_eq_some_iff.1 hlink
  rfl

/-- No two links start together. -/
theorem nodup_starts_scanLinks (lines : List (List Char)) (story : Story) :
    ((scanLinks lines story).map (·.key.start)).Nodup := by
  rw [List.Nodup, List.pairwise_map]
  refine (pairwise_scanLinks lines story).imp_of_mem ?_
  intro x y hx hy hle heq
  have hstart : x.range.start = y.range.start := by
    rw [range_of_mem_scanLinks hx, range_of_mem_scanLinks hy, heq]
  rw [← hstart] at hle
  exact Position.lt_irrefl _ (Position.lt_of_lt_of_le (start_lt_stop_of_mem_scanLinks hx) hle)

/-! ### Placeholders -/

namespace Placeholder

/-- The text of a placeholder. -/
def chars (p : Placeholder) : List Char :=
  '$' :: '\x7b' :: (p.index.toList ++ ':' :: (p.label.toList ++ ['\x7d']))

private theorem length_chars (p : Placeholder) :
    p.chars.length = p.index.toList.length + p.label.toList.length + 4 := by
  simp only [chars, List.length_cons, List.length_append, List.length_nil]
  omega

/-- The number and the label are what they may be, on one line. -/
structure Shaped (p : Placeholder) : Prop where
  digits : ∀ c ∈ p.index.toList, Text.isDecimalDigit c
  index_ne_nil : p.index.toList ≠ []
  label_ne_nil : p.label.toList ≠ []
  unclosed : '\x7d' ∉ p.label.toList
  unbroken : '\n' ∉ p.chars
  range : p.range = .onLine p.range.start.line p.range.start.ch p.chars.length

end Placeholder

theorem placeholderAt?_eq_some {cs index label : List Char} {length : Nat}
    (h : placeholderAt? cs = some ((index, label), length)) :
    ∃ rest, cs = '$' :: '\x7b' :: (index ++ ':' :: (label ++ '\x7d' :: rest)) ∧
      (∀ c ∈ index, Text.isDecimalDigit c) ∧ index ≠ [] ∧ label ≠ [] ∧ '\x7d' ∉ label ∧
      length = index.length + label.length + 4 := by
  unfold placeholderAt? at h
  split at h
  · rename_i cs
    dsimp only at h
    split at h
    · rename_i rest hrest
      split at h
      · rename_i hshape
        simp only [Option.some.injEq, Prod.mk.injEq] at h
        obtain ⟨⟨rfl, rfl⟩, rfl⟩ := h
        obtain ⟨hindex, hlabel, hlength⟩ := hshape
        have hdigits := takeWhile_append_drop Text.isDecimalDigit cs
        rw [hrest] at hdigits
        obtain ⟨rest', hrest'⟩ := drop_takeWhile_ne hlength
        have hclosed := takeWhile_append_drop (· ≠ '\x7d') rest
        rw [hrest'] at hclosed
        refine ⟨rest', ?_, fun c hc => List.mem_takeWhile_imp hc, hindex, hlabel,
          not_mem_takeWhile_ne _ rest, rfl⟩
        conv_lhs => rw [← hdigits, ← hclosed]
      · simp at h
    · simp at h
  · simp at h

/-- A text of that shape is a placeholder, whatever follows. -/
theorem placeholderAt?_of_shape {index label : List Char} (hdigits : ∀ c ∈ index, Text.isDecimalDigit c)
    (hindex : index ≠ []) (hlabel : label ≠ []) (hunclosed : '\x7d' ∉ label) (rest : List Char) :
    placeholderAt? ('$' :: '\x7b' :: (index ++ ':' :: (label ++ '\x7d' :: rest))) =
      some ((index, label), index.length + label.length + 4) := by
  have hcolon : Text.isDecimalDigit ':' = false := by decide
  have htake : (index ++ ':' :: (label ++ '\x7d' :: rest)).takeWhile Text.isDecimalDigit = index := by
    rw [List.takeWhile_append_of_pos hdigits, List.takeWhile_cons_of_neg (by simp [hcolon]),
      List.append_nil]
  have htake' := takeWhile_ne_append hunclosed rest
  have hlength : label.length < (label ++ '\x7d' :: rest).length := by simp
  simp only [placeholderAt?, htake, List.drop_left, htake', hindex, hlabel, hlength, ne_eq,
    not_false_eq_true, and_self,
    ↓reduceIte]

/-- A placeholder ends at the first closing brace. -/
private theorem length_of_placeholderAt? {cs : List Char} {found : (List Char × List Char) × Nat}
    (h : placeholderAt? cs = some found) : (cs.takeWhile (· ≠ '\x7d')).length + 1 = found.2 := by
  obtain ⟨⟨index, label⟩, length⟩ := found
  obtain ⟨rest, rfl, hdigits, -, -, hunclosed, rfl⟩ := placeholderAt?_eq_some h
  have hbrace : Text.isDecimalDigit '\x7d' = false := by decide
  have hsplit : '$' :: '\x7b' :: (index ++ ':' :: (label ++ '\x7d' :: rest)) =
      '$' :: '\x7b' :: (index ++ ':' :: label) ++ '\x7d' :: rest := by simp
  have hbefore : '\x7d' ∉ '$' :: '\x7b' :: (index ++ ':' :: label) := by
    intro hmem
    simp only [List.mem_cons, List.mem_append] at hmem
    rcases hmem with hmem | hmem | hmem | hmem | hmem
    · exact absurd hmem (by decide)
    · exact absurd hmem (by decide)
    · exact absurd (hdigits _ hmem) (by simp [hbrace])
    · exact absurd hmem (by decide)
    · exact hunclosed hmem
  rw [hsplit, takeWhile_ne_append hbefore rest]
  simp
  omega

private theorem takeWhile_drop {p : Char → Bool} {cs : List Char} {k : Nat}
    (h : k ≤ (cs.takeWhile p).length) :
    ((cs.drop k).takeWhile p).length = (cs.takeWhile p).length - k := by
  induction cs generalizing k with
  | nil => simp
  | cons c cs ih =>
    cases k with
    | zero => rfl
    | succ k =>
      by_cases hc : p c
      · rw [List.takeWhile_cons_of_pos hc, List.length_cons] at h ⊢
        rw [List.drop_succ_cons, ih (by omega)]
        omega
      · rw [List.takeWhile_cons_of_neg hc] at h
        exact absurd h (by simp)

/-- Of two placeholders that overlap both end at the same brace. -/
private theorem endTogether_placeholderAt? : EndTogether placeholderAt? := by
  intro cs first second k hfirst hk hsecond
  have hend := length_of_placeholderAt? hfirst
  have hend' := length_of_placeholderAt? hsecond
  rw [takeWhile_drop (by omega)] at hend'
  omega

/-! ### The placeholders of a buffer -/

/-- Where a placeholder that is found stands. -/
private theorem mem_scanPlaceholders {lines : List (List Char)} {p : Placeholder}
    (h : p ∈ scanPlaceholders lines) :
    ∃ i line column rest, lines[i]? = some line ∧ line.drop column = p.chars ++ rest ∧
      p.range = .onLine i column p.chars.length ∧ (∀ c ∈ p.index.toList, Text.isDecimalDigit c) ∧
      p.index.toList ≠ [] ∧ p.label.toList ≠ [] ∧ '\x7d' ∉ p.label.toList := by
  obtain ⟨i, line, f, hline, hf, hp⟩ := mem_scanLines.1 h
  obtain rfl := Option.some.inj hp
  obtain ⟨-, -, hmatch⟩ := match_of_mem_scanFrom hf
  obtain ⟨rest, htext, hdigits, hindex, hlabel, hunclosed, hlength⟩ := placeholderAt?_eq_some hmatch
  refine ⟨i, line, f.column, rest, hline, ?_, ?_, ?_⟩
  · rw [Nat.sub_zero] at htext
    simpa [Placeholder.chars] using htext
  · rw [Nat.zero_add, hlength, Placeholder.length_chars, String.toList_ofList, String.toList_ofList]
  · simpa using ⟨hdigits, hindex, hlabel, hunclosed⟩

theorem shaped_of_mem_scanPlaceholders {lines : List (List Char)} (hu : ∀ line ∈ lines, '\n' ∉ line)
    {p : Placeholder} (h : p ∈ scanPlaceholders lines) : p.Shaped := by
  obtain ⟨i, line, column, rest, hline, htext, hrange, hdigits, hindex, hlabel, hunclosed⟩ :=
    mem_scanPlaceholders h
  refine ⟨hdigits, hindex, hlabel, hunclosed, ?_, ?_⟩
  · intro hmem
    have hdrop : '\n' ∈ line.drop column := by
      rw [htext]
      exact List.mem_append_left rest hmem
    exact hu line (List.mem_of_getElem? hline) (List.mem_of_mem_drop hdrop)
  · rw [hrange]
    rfl

/-- On a buffer a placeholder covers its own text. -/
theorem covers_of_mem_scanPlaceholders {b : Buffer} {p : Placeholder} (h : p ∈ scanPlaceholders b.lines) :
    b.Covers p.range p.chars := by
  obtain ⟨i, line, column, rest, hline, htext, hrange, -⟩ := mem_scanPlaceholders h
  have hi : i < b.lines.length := (List.getElem?_eq_some_iff.1 hline).1
  have hb : b.line i = line := by simp [Buffer.line, hline]
  have hlength := congrArg List.length htext
  rw [List.length_drop, List.length_append] at hlength
  have hpos : 0 < p.chars.length := by simp [Placeholder.chars]
  have hfits : column + p.chars.length ≤ (b.line i).length := by
    rw [hb]
    omega
  have hcovers := Buffer.covers_onLine hi hfits
  rw [hb, htext, List.take_left] at hcovers
  rw [hrange]
  exact hcovers

theorem start_lt_stop_of_mem_scanPlaceholders {lines : List (List Char)} {p : Placeholder}
    (h : p ∈ scanPlaceholders lines) : p.range.start < p.range.stop := by
  obtain ⟨i, line, column, rest, -, -, hrange, -⟩ := mem_scanPlaceholders h
  rw [hrange]
  refine .inr ⟨rfl, ?_⟩
  show column < column + p.chars.length
  rw [p.length_chars]
  omega

/-- Wherever a placeholder stands, one that is found ends with it. -/
theorem exists_scanned_of_match {lines : List (List Char)} {number column length : Nat} {line : List Char}
    {value : List Char × List Char} (hline : lines[number]? = some line)
    (h : placeholderAt? (line.drop column) = some (value, length)) :
    ∃ q ∈ scanPlaceholders lines, q.range.stop = ⟨number, column + length⟩ := by
  obtain ⟨f, hf, hend⟩ : ∃ f ∈ scanLine placeholderAt? line, f.column + f.length = 0 + column + length :=
    exists_found_of_match endTogether_placeholderAt? rfl (Nat.zero_le column) h
  refine ⟨_, mem_scanLines.2 ⟨number, line, f, hline, hf, rfl⟩, ?_⟩
  show (⟨0 + number, f.column + f.length⟩ : Position) = ⟨number, column + length⟩
  rw [hend, Nat.zero_add, Nat.zero_add]

/-- Wherever the text of a placeholder stands, a placeholder that is found ends with it. -/
theorem exists_scanned_of_covers {b : Buffer} {r : Range} {p : Placeholder} (hp : p.Shaped)
    (h : b.Covers r p.chars) :
    ∃ q ∈ scanPlaceholders b.lines, q.range.stop = r.stop := by
  obtain ⟨hrange, ⟨rest, htext⟩, hline⟩ := h.onLine hp.unbroken
  have hmatch : placeholderAt? ((b.line r.start.line).drop r.start.ch) =
      some ((p.index.toList, p.label.toList), p.chars.length) := by
    have hshape := placeholderAt?_of_shape hp.digits hp.index_ne_nil hp.label_ne_nil hp.unclosed rest
    have hsplit : p.chars ++ rest =
        '$' :: '\x7b' :: (p.index.toList ++ ':' :: (p.label.toList ++ '\x7d' :: rest)) := by
      simp [Placeholder.chars]
    rw [← htext, hsplit, hshape, p.length_chars]
  have hget : b.lines[r.start.line]? = some (b.line r.start.line) := by
    simp [Buffer.line, List.getElem?_eq_getElem hline]
  obtain ⟨q, hq, hstop⟩ := exists_scanned_of_match hget hmatch
  exact ⟨q, hq, by rw [hstop, hrange]; rfl⟩

theorem pairwise_scanPlaceholders (lines : List (List Char)) :
    (scanPlaceholders lines).Pairwise fun x y => x.range.stop ≤ y.range.start := by
  refine pairwise_scanLines ?_ 0 lines
  intro n f p hp
  rw [← Option.some.inj hp]

end PassageEditor.Markup
