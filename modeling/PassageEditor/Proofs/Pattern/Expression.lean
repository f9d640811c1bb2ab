import PassageEditor.Pattern.Basic

/-!
# Expressions with groups

An expression matches the front of a text in several ways, and they have an order of preference: what may
be left out is rather taken, and what is repeated takes rather more than less (`Expression.ways`).  A
search takes the first of the ways (`Expression.first?`), and what that has put into its groups.  For a
sequence that is told by what its parts take (`Expression.first?_seq_set`, `Expression.first?_seq_group`,
`Expression.first?_seq_optional`).
-/

namespace PassageEditor.Pattern

/-- An expression some parts of which are groups with a number. -/
inductive Expression
  | set (s : CharSet)
  | seq (a b : Expression)
  | optional (a : Expression)
  | oneOrMore (s : CharSet)
  | group (number : Nat) (a : Expression)

/-- A way to match the front of a text: the number of characters that it takes and what stands in its
groups. -/
structure Match where
  length : Nat
  groups : List (Nat × List Char)

namespace Match

def empty : Match := ⟨0, []⟩

def followedBy (m n : Match) : Match := ⟨m.length + n.length, m.groups ++ n.groups⟩

def group? (m : Match) (number : Nat) : Option (List Char) := m.groups.lookup number

end Match

namespace Expression

/-- The expression without its groups. -/
def plain : Expression → Regex
  | set s => .set s
  | seq a b => .seq a.plain b.plain
  | optional a => .repeated a.plain 0 (some 1)
  | oneOrMore s => .repeated (.set s) 1 none
  | group _ a => a.plain

/-- How many characters of the set may be taken from the front, the most first. -/
def runs (s : CharSet) : List Char → List Nat
  | [] => []
  | c :: cs => if s.contains c then (runs s cs).map (· + 1) ++ [1] else []

/-- All ways to match the front of a text, in the order of preference. -/
def ways : Expression → List Char → List Match
  | set s, cs => if cs.head?.any s.contains then [⟨1, []⟩] else []
  | seq a b, cs => (a.ways cs).flatMap fun m => (b.ways (cs.drop m.length)).map m.followedBy
  | optional a, cs => a.ways cs ++ [.empty]
  | oneOrMore s, cs => (runs s cs).map (⟨·, []⟩)
  | group number a, cs => (a.ways cs).map fun m => ⟨m.length, (number, cs.take m.length) :: m.groups⟩

/-- The way that a search takes. -/
def first? (e : Expression) (cs : List Char) : Option Match := (e.ways cs).head?

/-- That a search which stands before the text takes a way of that length. -/
def Prefers (e : Expression) (cs : List Char) (m : Match) (length : Nat) : Prop :=
  e.first? cs = some m ∧ m.length = length

end Expression

/-! ### Sets -/

/-- All characters but one. -/
def CharSet.allBut (c : Char) : CharSet := .negate (.union .empty (.single c))

theorem contains_single {c d : Char} : (CharSet.single c).contains d = true ↔ d = c := by
  have hspan : (CharSet.single c).contains d = true ↔ c.toNat ≤ d.toNat ∧ d.toNat ≤ c.toNat := by
    simp [CharSet.single, CharSet.contains, Text.Span.contains, Nat.mod_one]
  rw [hspan, ← Char.toNat_inj]
  omega

private theorem contains_allBut {c d : Char} : (CharSet.allBut c).contains d = true ↔ d ≠ c := by
  have hsingle : (CharSet.allBut c).contains d = !(CharSet.single c).contains d := by
    simp [CharSet.allBut, CharSet.contains]
  rw [hsingle, Bool.not_eq_true', ← Bool.not_eq_true, contains_single]

private theorem not_contains_allBut {c : Char} : ¬ (CharSet.allBut c).contains c := by
  rw [contains_allBut]
  exact not_not_intro rfl

namespace Expression

/-! ### Runs -/

/-- A text at the front whose characters are all of the set, and what follows it. -/
structure Run (s : CharSet) (cs run rest : List Char) : Prop where
  split : cs = run ++ rest
  ne_nil : run ≠ []
  within : ∀ c ∈ run, s.contains c

variable {a b e : Expression} {s : CharSet} {cs : List Char} {m : Match} {number n : Nat}

theorem run_allBut {c : Char} {run rest : List Char} :
    Run (.allBut c) cs run rest ↔ cs = run ++ rest ∧ run ≠ [] ∧ c ∉ run := by
  have hwithin : (∀ d ∈ run, (CharSet.allBut c).contains d) ↔ c ∉ run := by
    simp only [contains_allBut, ← List.forall_mem_ne']
  rw [← hwithin]
  exact ⟨fun h => ⟨h.split, h.ne_nil, h.within⟩, fun h => ⟨h.1, h.2.1, h.2.2⟩⟩

/-- Where a character stands that is not of the set, no run goes on. -/
theorem Run.length_le {front behind run rest : List Char} {c : Char}
    (h : Run s (front ++ c :: behind) run rest) (hc : ¬ s.contains c) : run.length ≤ front.length := by
  rcases List.append_eq_append_iff.1 h.split with ⟨beyond, hrun, hbehind⟩ | ⟨beyond, hfront, -⟩
  · cases beyond with
    | nil => simp [hrun]
    | cons d beyond =>
      obtain ⟨rfl, -⟩ := List.cons.inj hbehind
      exact absurd (h.within c (by simp [hrun])) hc
  · simp [hfront]

private theorem mem_runs : n ∈ runs s cs ↔ ∃ run rest, Run s cs run rest ∧ run.length = n := by
  induction cs generalizing n with
  | nil =>
    refine iff_of_false (by simp [runs]) ?_
    rintro ⟨run, rest, h, -⟩
    exact h.ne_nil (List.append_eq_nil_iff.1 h.split.symm).1
  | cons c cs ih =>
    unfold runs
    split
    · rename_i hc
      rw [List.mem_append, List.mem_map, List.mem_singleton]
      constructor
      · rintro (⟨k, hk, rfl⟩ | rfl)
        · obtain ⟨run, rest, h, rfl⟩ := ih.1 hk
          exact ⟨c :: run, rest, ⟨by rw [h.split]; rfl, by simp, List.forall_mem_cons.2 ⟨hc, h.within⟩⟩,
            rfl⟩
        · exact ⟨[c], cs, ⟨rfl, by simp, by simpa using hc⟩, rfl⟩
      · rintro ⟨run, rest, h, rfl⟩
        obtain ⟨d, run, rfl⟩ := List.exists_cons_of_ne_nil h.ne_nil
        obtain ⟨rfl, hsplit⟩ := List.cons.inj h.split
        cases run with
        | nil => exact .inr rfl
        | cons d run =>
          have hrun : Run s cs (d :: run) rest := ⟨hsplit, by simp, (List.forall_mem_cons.1 h.within).2⟩
          exact .inl ⟨_, ih.2 ⟨_, rest, hrun, rfl⟩, rfl⟩
    · rename_i hc
      refine iff_of_false (by simp) ?_
      rintro ⟨run, rest, h, -⟩
      obtain ⟨d, run, rfl⟩ := List.exists_cons_of_ne_nil h.ne_nil
      obtain ⟨rfl, -⟩ := List.cons.inj h.split
      exact hc (h.within c List.mem_cons_self)

private theorem pairwise_runs : (runs s cs).Pairwise fun m n => n < m := by
  induction cs with
  | nil => exact List.Pairwise.nil
  | cons c cs ih =>
    unfold runs
    split
    · refine List.pairwise_append.2 ⟨?_, List.pairwise_singleton _ _, ?_⟩
      · exact ih.map _ fun m n hlt => Nat.succ_lt_succ hlt
      · intro m hm n hn
        obtain ⟨k, hk, rfl⟩ := List.mem_map.1 hm
        obtain rfl := List.mem_singleton.1 hn
        obtain ⟨run, rest, h, rfl⟩ := mem_runs.1 hk
        exact Nat.succ_lt_succ (List.length_pos_iff.2 h.ne_nil)
    · exact List.Pairwise.nil

/-- The first of the runs with a certain outcome is the longest of them. -/
private theorem findSome?_runs {β : Type} {f : Nat → Option β} {y : β} :
    (runs s cs).findSome? f = some y ↔
    ∃ run rest, Run s cs run rest ∧ f run.length = some y ∧
      ∀ run' rest', Run s cs run' rest' → run.length < run'.length → f run'.length = none := by
  -- the runs stand by their length, so those in front of one are the longer ones
  have hsorted : (runs s cs).Pairwise fun m n => n < m := pairwise_runs
  constructor
  · intro h
    obtain ⟨longer, n, shorter, hruns, hn, hlonger⟩ := List.findSome?_eq_some_iff.1 h
    rw [hruns, List.pairwise_append, List.pairwise_cons] at hsorted
    have hmem : n ∈ runs s cs := by simp [hruns]
    obtain ⟨run, rest, hrun, rfl⟩ := mem_runs.1 hmem
    refine ⟨run, rest, hrun, hn, fun run' rest' hrun' hlt => hlonger _ ?_⟩
    have hmem' := mem_runs.2 ⟨run', rest', hrun', rfl⟩
    rw [hruns, List.mem_append, List.mem_cons] at hmem'
    rcases hmem' with hlong | heq | hshort
    · exact hlong
    · exact absurd heq (Nat.ne_of_gt hlt)
    · exact absurd (hsorted.2.1.1 _ hshort) (Nat.lt_asymm hlt)
  · rintro ⟨run, rest, hrun, hf, hlonger⟩
    obtain ⟨longer, shorter, hruns⟩ := List.append_of_mem (mem_runs.2 ⟨run, rest, hrun, rfl⟩)
    rw [hruns, List.pairwise_append] at hsorted
    refine List.findSome?_eq_some_iff.2 ⟨longer, _, shorter, hruns, hf, fun n hn => ?_⟩
    have hmem : n ∈ runs s cs := by simp [hruns, hn]
    obtain ⟨run', rest', hrun', rfl⟩ := mem_runs.1 hmem
    exact hlonger _ _ hrun' (hsorted.2.2 _ hn _ List.mem_cons_self)

/-! ### Which ways there are -/

private theorem ways_set_nil : (set s).ways [] = [] := rfl

private theorem ways_set_cons {c : Char} :
    (set s).ways (c :: cs) = if s.contains c then [⟨1, []⟩] else [] := rfl

private theorem ways_seq :
    (seq a b).ways cs = (a.ways cs).flatMap fun m => (b.ways (cs.drop m.length)).map m.followedBy := rfl

private theorem ways_optional : (optional a).ways cs = a.ways cs ++ [.empty] := rfl

private theorem ways_group_oneOrMore :
    (group number (oneOrMore s)).ways cs = (runs s cs).map fun n => ⟨n, [(number, cs.take n)]⟩ := by
  have hgroup : (group number (oneOrMore s)).ways cs = ((oneOrMore s).ways cs).map fun m =>
      ⟨m.length, (number, cs.take m.length) :: m.groups⟩ := rfl
  have hruns : (oneOrMore s).ways cs = (runs s cs).map (⟨·, []⟩) := rfl
  rw [hgroup, hruns, List.map_map]
  rfl

/-! ### Which way comes first -/

private theorem first?_seq : (seq a b).first? cs =
    (a.ways cs).findSome? fun m => (b.first? (cs.drop m.length)).map m.followedBy := by
  simp only [first?, ways_seq, List.head?_flatMap, List.head?_map]

/-- It does not matter how a sequence of three is put together. -/
theorem first?_seq_seq {c : Expression} : (seq (seq a b) c).first? cs = (seq a (seq b c)).first? cs := by
  have hassoc : ∀ x y : Match, (x.followedBy y).followedBy = x.followedBy ∘ y.followedBy := by
    intro x y
    funext z
    simp [Match.followedBy, Nat.add_assoc]
  have hways : (seq (seq a b) c).ways cs = (seq a (seq b c)).ways cs := by
    simp only [ways_seq, List.flatMap_assoc, List.flatMap_map, List.map_flatMap, List.map_map,
      hassoc, List.drop_drop]
    rfl
  rw [first?, hways, ← first?]

theorem first?_set :
    (set s).first? cs = some m ↔ ∃ c rest, cs = c :: rest ∧ s.contains c ∧ m = ⟨1, []⟩ := by
  cases cs with
  | nil => simp [first?, ways_set_nil]
  | cons c cs =>
    rw [first?, ways_set_cons]
    constructor
    · intro h
      split at h
      · rename_i hc
        exact ⟨c, cs, rfl, hc, (Option.some.inj h).symm⟩
      · simp at h
    · rintro ⟨d, rest, hsplit, hd, rfl⟩
      obtain ⟨rfl, rfl⟩ := List.cons.inj hsplit
      rw [if_pos hd]
      rfl

/-- A character of the set, and then what the rest prefers behind it. -/
theorem first?_seq_set : (seq (set s) e).first? cs = some m ↔
    ∃ c rest y, cs = c :: rest ∧ s.contains c ∧ e.first? rest = some y ∧
      m = Match.followedBy ⟨1, []⟩ y := by
  cases cs with
  | nil => simp [first?_seq, ways_set_nil]
  | cons c cs =>
    rw [first?_seq, ways_set_cons]
    constructor
    · intro h
      split at h
      · rename_i hc
        rw [List.findSome?_singleton, Option.map_eq_some_iff] at h
        obtain ⟨y, hy, rfl⟩ := h
        exact ⟨c, cs, y, rfl, hc, hy, rfl⟩
      · simp at h
    · rintro ⟨d, rest, y, hsplit, hd, hy, rfl⟩
      obtain ⟨rfl, rfl⟩ := List.cons.inj hsplit
      rw [if_pos hd, List.findSome?_singleton, List.drop_succ_cons, List.drop_zero, hy]
      rfl

/-- The longest run behind which the rest matches, and then what the rest prefers. -/
theorem first?_seq_group : (seq (group number (oneOrMore s)) e).first? cs = some m ↔
    ∃ run rest y, Run s cs run rest ∧ e.first? rest = some y ∧
      m = Match.followedBy ⟨run.length, [(number, run)]⟩ y ∧
      ∀ run' rest', Run s cs run' rest' → run.length < run'.length → e.first? rest' = none := by
  have hrest : ∀ {run rest}, Run s cs run rest →
      (e.first? (cs.drop run.length)).map
        (Match.followedBy ⟨run.length, [(number, cs.take run.length)]⟩) =
        (e.first? rest).map (Match.followedBy ⟨run.length, [(number, run)]⟩) := by
    intro run rest hrun
    rw [hrun.split, List.drop_left, List.take_left]
  rw [first?_seq, ways_group_oneOrMore, List.findSome?_map, findSome?_runs]
  constructor
  · rintro ⟨run, rest, hrun, hfirst, hlonger⟩
    obtain ⟨y, hy, rfl⟩ := Option.map_eq_some_iff.1 ((hrest hrun).symm.trans hfirst)
    refine ⟨run, rest, y, hrun, hy, rfl, fun run' rest' hrun' hlt => ?_⟩
    exact Option.map_eq_none_iff.1 ((hrest hrun').symm.trans (hlonger _ _ hrun' hlt))
  · rintro ⟨run, rest, y, hrun, hy, rfl, hlonger⟩
    refine ⟨run, rest, hrun, (hrest hrun).trans (by rw [hy]; rfl), fun run' rest' hrun' hlt => ?_⟩
    exact (hrest hrun').trans (by rw [hlonger _ _ hrun' hlt]; rfl)

/-- There is no choice if the rest begins with a character that the group does not take. -/
theorem first?_seq_group_closed {c : Char} (hc : ¬ s.contains c)
    (he : ∀ rest y, e.first? rest = some y → ∃ rest', rest = c :: rest') :
    (seq (group number (oneOrMore s)) e).first? cs = some m ↔
      ∃ run rest y, Run s cs run rest ∧ e.first? rest = some y ∧
        m = Match.followedBy ⟨run.length, [(number, run)]⟩ y := by
  rw [first?_seq_group]
  constructor
  · rintro ⟨run, rest, y, hrun, hy, rfl, -⟩
    exact ⟨run, rest, y, hrun, hy, rfl⟩
  · rintro ⟨run, rest, y, hrun, hy, rfl⟩
    obtain ⟨rest', rfl⟩ := he _ _ hy
    refine ⟨run, _, y, hrun, hy, rfl, fun run' rest'' hrun' hlt => ?_⟩
    rw [hrun.split] at hrun'
    exact absurd (hrun'.length_le hc) (Nat.not_le.2 hlt)

/-- A group that goes up to the character by which the rest begins. -/
theorem first?_seq_group_allBut {c : Char} {tail : List Char}
    (he : ∀ rest y, e.first? rest = some y ↔
      ∃ rest', rest = c :: (tail ++ rest') ∧ y = ⟨tail.length + 1, []⟩) :
    (seq (group number (oneOrMore (.allBut c))) e).first? cs = some m ↔
      ∃ run rest, cs = run ++ c :: (tail ++ rest) ∧ run ≠ [] ∧ c ∉ run ∧
        m = ⟨run.length + (tail.length + 1), [(number, run)]⟩ := by
  rw [first?_seq_group_closed not_contains_allBut]
  · simp only [run_allBut, he]
    constructor
    · rintro ⟨run, _, _, ⟨rfl, hne, hunclosed⟩, ⟨rest, rfl, rfl⟩, rfl⟩
      exact ⟨run, rest, rfl, hne, hunclosed, rfl⟩
    · rintro ⟨run, rest, rfl, hne, hunclosed, rfl⟩
      exact ⟨run, _, _, ⟨rfl, hne, hunclosed⟩, ⟨rest, rfl, rfl⟩, rfl⟩
  · intro rest y hy
    obtain ⟨rest', rfl, -⟩ := (he _ _).1 hy
    exact ⟨_, rfl⟩

/-- What starts with an option tries first to take it. -/
theorem first?_seq_optional :
    (seq (optional a) e).first? cs = ((seq a e).first? cs).or (e.first? cs) := by
  have hempty : Match.followedBy .empty = id := by
    funext m
    simp [Match.followedBy, Match.empty]
  have hlength : Match.empty.length = 0 := rfl
  rw [first?_seq, ways_optional, List.findSome?_append, ← first?_seq]
  simp [hempty, hlength]

end Expression

end PassageEditor.Pattern
