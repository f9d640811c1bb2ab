import PassageEditor.Proofs.Buffer.Splice
import PassageEditor.Proofs.Format.Equations

/-!
# What the pick of a command takes away

The list of commands covers the word at the cursor, wherever that is, and a pick takes the word away, with
the character before it unless the word is a slash (`commands?_eq_some`).  That begins with the slash at
the start of the line just where nothing but one word stands between the slash and the cursor
(`takenFrom_eq_zero_iff`).
-/

namespace PassageEditor

namespace Text

/-! ### What has a slash as its lower case -/

private theorem toNat_ofNat (n : Nat) : (Char.ofNat n).toNat = n ∨ (Char.ofNat n).toNat = 0 := by
  by_cases hvalid : n.isValidChar
  · exact .inl (by rw [Char.ofNat, dif_pos hvalid]; rfl)
  · exact .inr (by rw [Char.ofNat, dif_neg hvalid]; rfl)

private theorem shifted_eq_slash {c : Char} (h : shifted lowerShifts c = '/') : c = '/' := by
  unfold shifted at h
  cases hfound : lowerShifts.findSome? (·.image? c) with
  | none => simpa [hfound] using h
  | some d =>
    obtain ⟨s, hs, himage⟩ := List.exists_of_findSome?_eq_some hfound
    obtain rfl : d = '/' := by simpa [hfound] using h
    -- all images lie behind the slash
    have hbehind : ∀ s ∈ lowerShifts, 48 ≤ s.image := by decide +kernel
    have hle := hbehind s hs
    unfold Shift.image? at himage
    split at himage
    · have hcode := congrArg Char.toNat (Option.some.inj himage)
      have hslash : ('/' : Char).toNat = 47 := rfl
      rcases toNat_ofNat (s.image + (c.toNat - s.first)) with hsame | hzero <;> omega
    · simp at himage

private theorem lowerChar_ne_nil (before : List Char) (c : Char) (after : List Char) :
    lowerChar before c after ≠ [] := by
  unfold lowerChar
  split
  · simp
  · split <;> simp

private theorem lowerChar_eq_slash {before after : List Char} {c : Char}
    (h : lowerChar before c after = ['/']) :
    c = '/' := by
  unfold lowerChar at h
  split at h
  · split at h <;> simp at h
  · split at h
    · simp at h
    · exact shifted_eq_slash (List.singleton_inj.1 h)

private theorem lower_eq_slash {s : String} (h : lower s = "/") : s.toList = ['/'] := by
  have hchars : lowerAfter [] s.toList = ['/'] := by
    have htoList := congrArg String.toList h
    rwa [lower, String.toList_ofList] at htoList
  cases hs : s.toList with
  | nil => simp [hs, lowerAfter] at hchars
  | cons c rest =>
    rw [hs, lowerAfter] at hchars
    obtain ⟨d, ds, hd⟩ := List.exists_cons_of_ne_nil (lowerChar_ne_nil [] c rest)
    rw [hd, List.cons_append, List.cons.injEq, List.append_eq_nil_iff] at hchars
    obtain ⟨rfl, rfl, hrest⟩ := hchars
    cases rest with
    | nil => rw [lowerChar_eq_slash hd]
    | cons c' rest =>
      rw [lowerAfter, List.append_eq_nil_iff] at hrest
      exact absurd hrest.1 (lowerChar_ne_nil _ _ _)

end Text

namespace Completion

/-! ### The word at a column -/

private theorem le_length_takeWhile_iff {α : Type} {p : α → Bool} {l : List α} {m : Nat}
    (hm : m ≤ l.length) :
    m ≤ (l.takeWhile p).length ↔ ∀ x ∈ l.take m, p x = true := by
  induction l generalizing m with
  | nil => simp at hm; simp [hm]
  | cons a l ih =>
    cases m with
    | zero => simp
    | succ m =>
      have hm' : m ≤ l.length := Nat.le_of_succ_le_succ hm
      by_cases ha : p a = true
      · simp [ha, ih hm']
      · simp [ha]

private theorem runLength_le_length (cls : CharClass) (cs : List Char) : runLength cls cs ≤ cs.length :=
  (List.takeWhile_sublist _).length_le

/-- A run reaches back to a column if all characters from there on are of the class. -/
private theorem length_sub_runLength_le_iff {cls : CharClass} {cs : List Char} {k : Nat}
    (hk : k ≤ cs.length) :
    cs.length - runLength cls cs.reverse ≤ k ↔ ∀ c ∈ cs.drop k, CharClass.of c = cls := by
  have hlength := runLength_le_length cls cs.reverse
  rw [List.length_reverse] at hlength
  have hrun := le_length_takeWhile_iff (p := fun c => CharClass.of c = cls) (l := cs.reverse)
    (m := cs.length - k) (by rw [List.length_reverse]; omega)
  have hdrop : cs.reverse.take (cs.length - k) = (cs.drop k).reverse := by
    rw [List.take_reverse]
    congr 2
    omega
  rw [hdrop] at hrun
  simp only [List.mem_reverse, decide_eq_true_eq] at hrun
  rw [← hrun]
  show _ ↔ _ ≤ runLength cls cs.reverse
  omega

/-- The ends of the word lie in the line, on both sides of the cursor. -/
theorem wordAt_bounds (line : List Char) (ch : Nat) :
    (wordAt line ch).1 ≤ min ch line.length ∧ min ch line.length ≤ (wordAt line ch).2 ∧
      (wordAt line ch).2 ≤ line.length := by
  unfold wordAt
  dsimp only
  split
  · rename_i anchor _
    have hafter := runLength_le_length (CharClass.of anchor) (line.drop (min ch line.length))
    rw [List.length_drop] at hafter
    dsimp only
    omega
  · rename_i anchor hnone _
    have hempty : min ch line.length = 0 := by
      have := congrArg List.length (List.getLast?_eq_none_iff.1 hnone)
      simpa using this
    have hword := runLength_le_length (CharClass.of anchor) line
    dsimp only
    omega
  · rename_i hnone _
    have hempty : min ch line.length = 0 := by
      have := congrArg List.length (List.getLast?_eq_none_iff.1 hnone)
      simpa using this
    dsimp only
    omega

/-! ### What a pick takes away -/

/-- Whether the word at a column is a lone slash. -/
def isBare (line : List Char) (ch : Nat) : Bool :=
  let word := wordAt line ch
  Text.lower (String.ofList ((line.drop word.1).take (word.2 - word.1))) == "/"

/-- The column from which a pick takes the text away, up to the end of the word. -/
def takenFrom (line : List Char) (ch : Nat) : Nat :=
  if isBare line ch then (wordAt line ch).1 else (wordAt line ch).1 - 1

/-- A line that starts with a slash, with nothing but characters of one class between the slash and the
column. -/
def TypesCommand (line : List Char) (ch : Nat) : Prop :=
  line.head? = some '/' ∧ ∃ cls, ∀ c ∈ (line.take ch).drop 1, CharClass.of c = cls

private theorem eq_slash_of_isBare {line : List Char} {ch : Nat} (h : isBare line ch = true) :
    (line.drop (wordAt line ch).1).take ((wordAt line ch).2 - (wordAt line ch).1) = ['/'] := by
  have hword := Text.lower_eq_slash (eq_of_beq h)
  rwa [String.toList_ofList] at hword

private theorem takenFrom_le (line : List Char) (ch : Nat) : takenFrom line ch ≤ (wordAt line ch).2 := by
  have hbounds := wordAt_bounds line ch
  unfold takenFrom
  split <;> omega

/-- Where a character stands before the cursor, the word goes back as long as the characters are of its
class. -/
private theorem wordAt_fst_le_iff {line : List Char} {ch : Nat} {anchor : Char}
    (hanchor : (line.take ch).getLast? = some anchor) {k : Nat} (hk : k ≤ (line.take ch).length) :
    (wordAt line ch).1 ≤ k ↔ ∀ c ∈ (line.take ch).drop k, CharClass.of c = CharClass.of anchor := by
  have hlength : min ch line.length = (line.take ch).length := (List.length_take ..).symm
  have hfst : (wordAt line ch).1 = (line.take ch).length - runLength (CharClass.of anchor)
      (line.take ch).reverse := by
    unfold wordAt
    dsimp only
    rw [← List.take_eq_take_min, hanchor, hlength]
  rw [hfst]
  exact length_sub_runLength_le_iff hk

private theorem wordAt_fst_of_empty {line : List Char} {ch : Nat} (hempty : line.take ch = []) :
    (wordAt line ch).1 = 0 := by
  have hbounds := (wordAt_bounds line ch).1
  have hlength := congrArg List.length hempty
  rw [List.length_take, List.length_nil] at hlength
  omega

/-- The last character before the cursor comes after the first, or it is the first. -/
private theorem mem_drop_one_or {line : List Char} {ch : Nat} {anchor : Char}
    (hanchor : (line.take ch).getLast? = some anchor) :
    anchor ∈ (line.take ch).drop 1 ∨ (line.take ch).drop 1 = [] ∧ line.head? = some anchor := by
  cases hline : line.take ch with
  | nil => simp [hline] at hanchor
  | cons c cs =>
    have hhead : line.head? = some c := by
      have hprefix : c :: cs <+: line := hline ▸ List.take_prefix ch line
      obtain ⟨rest, rfl⟩ := hprefix
      rfl
    rw [hline] at hanchor
    cases cs with
    | nil =>
      obtain rfl : c = anchor := by simpa using hanchor
      exact .inr ⟨rfl, hhead⟩
    | cons d ds =>
      rw [List.getLast?_cons_cons] at hanchor
      exact .inl (List.mem_of_getLast? hanchor)

/-- A word that is a lone slash and does not start behind the first slash is that. -/
private theorem wordAt_fst_eq_zero_of_isBare {line : List Char} {ch : Nat} {anchor : Char}
    (hanchor : (line.take ch).getLast? = some anchor) (hhead : line.head? = some '/')
    (hle : (wordAt line ch).1 ≤ 1) (hbare : isBare line ch = true) : (wordAt line ch).1 = 0 := by
  by_contra hstart
  have hone : (wordAt line ch).1 = 1 := by omega
  have hword := eq_slash_of_isBare hbare
  rw [hone] at hword
  have hslash : anchor = '/' := by
    rcases mem_drop_one_or hanchor with hmem | ⟨-, hfirst⟩
    · have hbounds := wordAt_bounds line ch
      rw [List.take_eq_take_min, List.drop_take] at hmem
      have hmem' : anchor ∈ (line.drop 1).take ((wordAt line ch).2 - 1) :=
        List.take_subset_take_left (line.drop 1) (by omega) hmem
      rw [hword] at hmem'
      exact List.mem_singleton.1 hmem'
    · exact Option.some.inj (hfirst.symm.trans hhead)
  -- so the first slash belongs to the word as well
  have hclass : ∀ c ∈ (line.take ch).drop 0, CharClass.of c = CharClass.of anchor := by
    have hne : line.take ch ≠ [] := fun hnil => by simp [hnil] at hanchor
    obtain ⟨d, ds, hline⟩ := List.exists_cons_of_ne_nil hne
    have hfirst : d = '/' := by
      have hprefix : d :: ds <+: line := hline ▸ List.take_prefix ch line
      obtain ⟨rest, rfl⟩ := hprefix
      simpa using hhead
    have hrest := (wordAt_fst_le_iff hanchor (List.length_pos_iff.2 hne)).1 hle
    rw [hline] at hrest ⊢
    intro c hc
    rcases List.mem_cons.1 hc with rfl | hc
    · rw [hfirst, hslash]
    · exact hrest c hc
  have hzero := (wordAt_fst_le_iff hanchor (Nat.zero_le _)).2 hclass
  omega

/-- A pick takes a text away that begins with the slash at the start of the line just where a command is
typed there. -/
theorem takenFrom_eq_zero_iff (line : List Char) (ch : Nat) :
    takenFrom line ch = 0 ∧ line.head? = some '/' ↔ TypesCommand line ch := by
  rw [TypesCommand, and_comm]
  refine and_congr_right fun hhead => ?_
  cases hlast : (line.take ch).getLast? with
  | none =>
    have hempty := List.getLast?_eq_none_iff.1 hlast
    have hstart := wordAt_fst_of_empty hempty
    refine iff_of_true ?_ ⟨.other, by simp [hempty]⟩
    unfold takenFrom
    split <;> omega
  | some anchor =>
    have hne : line.take ch ≠ [] := by
      intro hnil
      simp [hnil] at hlast
    have hone := wordAt_fst_le_iff hlast (List.length_pos_iff.2 hne)
    constructor
    · intro hzero
      refine ⟨CharClass.of anchor, hone.1 ?_⟩
      unfold takenFrom at hzero
      split at hzero <;> omega
    · rintro ⟨cls, hcls⟩
      have hle : (wordAt line ch).1 ≤ 1 := by
        refine hone.2 fun c hc => ?_
        rcases mem_drop_one_or hlast with hmem | ⟨hnone, -⟩
        · rw [hcls c hc, hcls anchor hmem]
        · simp [hnone] at hc
      unfold takenFrom
      split
      · exact wordAt_fst_eq_zero_of_isBare hlast hhead hle ‹_›
      · omega

/-! ### The list and its picks -/

/-- A list is of the kind that was asked for. -/
theorem kind_of_complete {kind : CompletionKind} {b : Buffer} {sources : Sources} {list : CompletionList}
    (h : complete kind b sources = .ok (some list)) : list.kind = kind := by
  cases kind with
  | link =>
    have hlist : passages? b sources.story = some list := Except.ok.inj h
    unfold passages? at hlist
    simp only [bind, pure, Option.bind_eq_some_iff] at hlist
    obtain ⟨_, -, _, -, hlist⟩ := hlist
    exact (congrArg CompletionList.kind (Option.some.inj hlist)).symm
  | command =>
    have hlist : commands? b sources.toolbar = some list := Except.ok.inj h
    unfold commands? at hlist
    obtain ⟨_, -, hlist⟩ := Option.bind_eq_some_iff.1 hlist
    exact (congrArg CompletionList.kind (Option.some.inj hlist)).symm
  | variableName =>
    rw [complete_def] at h
    dsimp only at h
    split at h
    · simp at h
    rw [names?_def] at h
    split at h
    · simp at h
    dsimp only at h
    split at h
    · simp at h
    split at h
    · simp at h
    · exact (congrArg CompletionList.kind (Option.some.inj (Except.ok.inj h))).symm

/-- The enabled buttons of a toolbar that a word asks for. -/
def offered (toolbar : List ToolbarItem) (line : List Char) (ch : Nat) : List Button :=
  let word := wordAt line ch
  let enabled := (flattenButtons toolbar).filter fun button => !button.disabled
  if isBare line ch then enabled
  else Ranking.confidenceFilter Ranking.floors (enabled.map fun button =>
    (button,
      labelScore (Text.lower (String.ofList ((line.drop word.1).take (word.2 - word.1)))) button.label))

private theorem commands?_eq (b : Buffer) (toolbar : List ToolbarItem) :
    commands? b toolbar = b.lines[b.cursor.line]?.map fun line =>
      ⟨.command, ⟨⟨b.cursor.line, (wordAt line b.cursor.ch).1⟩,
        ⟨b.cursor.line, (wordAt line b.cursor.ch).2⟩⟩,
        (offered toolbar line b.cursor.ch).map fun button =>
          ⟨button.label, .runCommand button.command (!isBare line b.cursor.ch)⟩⟩ := by
  unfold commands? offered isBare
  cases b.lines[b.cursor.line]? with
  | none => rfl
  | some line => rfl

/-- The list covers the word at the cursor, and its entries run commands. -/
theorem commands?_eq_some {b : Buffer} {toolbar : List ToolbarItem} {list : CompletionList}
    (h : commands? b toolbar = some list) :
    ∃ line, b.lines[b.cursor.line]? = some line ∧
      list.range = ⟨⟨b.cursor.line, (wordAt line b.cursor.ch).1⟩,
        ⟨b.cursor.line, (wordAt line b.cursor.ch).2⟩⟩ ∧
      ∀ item ∈ list.items, ∃ command, item.action = .runCommand command (!isBare line b.cursor.ch) := by
  rw [commands?_eq] at h
  obtain ⟨line, hline, hlist⟩ := Option.map_eq_some_iff.1 h
  have hrange := congrArg CompletionList.range hlist
  have hitems := congrArg CompletionList.items hlist
  dsimp only at hrange hitems
  refine ⟨line, hline, hrange.symm, fun item hitem => ?_⟩
  rw [← hitems] at hitem
  obtain ⟨button, -, rfl⟩ := List.mem_map.1 hitem
  exact ⟨button.command, rfl⟩

/-- The pick of an entry runs its command on a text without the word, and without the character before it
unless the word is a lone slash. -/
theorem applyPick_of_commands {b c : Buffer} {toolbar : List ToolbarItem} {list : CompletionList}
    {line : List Char} (h : commands? b toolbar = some list) (hline : b.lines[b.cursor.line]? = some line)
    (hlines : c.lines = b.lines) {index : Nat} {item : CompletionItem}
    (hitem : list.items[index]? = some item) :
    ∃ command consumes c', item.action = .runCommand command consumes ∧
      applyPick c list index = .ok (some command, c') ∧
      c'.lines = b.lines.set b.cursor.line
        (line.take (takenFrom line b.cursor.ch) ++ line.drop (wordAt line b.cursor.ch).2) := by
  obtain ⟨line', hline', hrange, hitems⟩ := commands?_eq_some h
  obtain rfl : line = line' := Option.some.inj (hline.symm.trans hline')
  obtain ⟨command, haction⟩ := hitems item (List.mem_of_getElem? hitem)
  have hstart : (if !isBare line b.cursor.ch then ⟨list.range.start.line, list.range.start.ch - 1⟩
      else list.range.start : Position) = ⟨b.cursor.line, takenFrom line b.cursor.ch⟩ := by
    rw [hrange, takenFrom]
    cases isBare line b.cursor.ch <;> rfl
  have hstop : list.range.stop = ⟨b.cursor.line, (wordAt line b.cursor.ch).2⟩ := by rw [hrange]
  have happly : applyItem c list.range item = (some command,
      c.replaceRange "" ⟨b.cursor.line, takenFrom line b.cursor.ch⟩
        ⟨b.cursor.line, (wordAt line b.cursor.ch).2⟩) := by
    simp only [applyItem, haction, hstart, hstop]
  refine ⟨command, _, _, haction, by rw [applyPick, hitem, ← happly], ?_⟩
  have hempty : '\n' ∉ "".toList := by simp
  rw [← hlines] at hline
  rw [Buffer.lines_replaceRange_onLine hline (takenFrom_le line b.cursor.ch) hempty, hlines]
  simp

end Completion

end PassageEditor
