import Mathlib.Data.List.Forall2
import Mathlib.Data.List.ReduceOption
import PassageEditor.Proofs.Markup.Matches
import PassageEditor.Proofs.Pattern.Expression

/-!
# Scans as grammars

A grammar says which texts begin with a match.  On a line its matches are taken from the left, each the
first that begins where the one before has ended or later (`Leftmost`); from every match something is kept
or not (`OnLine`), and the lines come one after the other (`InLines`).  A scan gives exactly that if its
recogniser finds what the grammar admits (`onLine_iff`, `inLines_scanLines_iff`), and likewise for an
expression if what it prefers is what the grammar admits (`onLine_prefers_iff`).
-/

namespace PassageEditor.Markup

section Line

variable {α β : Type}

/-- The matches of a line from the column `start` on. -/
inductive Leftmost (grammar : List Char → α → Nat → Prop) (line : List Char) : Nat → List (Found α) → Prop
  | done {start : Nat} (absent : ∀ i, start ≤ i → ∀ value length, ¬ grammar (line.drop i) value length) :
      Leftmost grammar line start []
  | next {start : Nat} {f : Found α} {rest : List (Found α)} (behind : start ≤ f.column)
      (here : grammar (line.drop f.column) f.value f.length)
      (first : ∀ i, start ≤ i → i < f.column → ∀ value length, ¬ grammar (line.drop i) value length)
      (more : Leftmost grammar line (f.column + f.length) rest) : Leftmost grammar line start (f :: rest)

/-- What a line holds, where `keeps` says what comes of a match. -/
def OnLine (grammar : List Char → α → Nat → Prop) (keeps : Nat → List Char → Found α → Option β → Prop)
    (number : Nat) (line : List Char) (xs : List β) : Prop :=
  ∃ found kept, Leftmost grammar line 0 found ∧ List.Forall₂ (keeps number line) found kept ∧
    xs = kept.reduceOption

/-- What the lines of a text hold, of which the first has the number `number`. -/
inductive InLines (onLine : Nat → List Char → List β → Prop) : Nat → List (List Char) → List β → Prop
  | nil {number : Nat} : InLines onLine number [] []
  | cons {number : Nat} {line : List Char} {lines : List (List Char)} {xs ys : List β}
    (here : onLine number line xs)
      (more : InLines onLine (number + 1) lines ys) : InLines onLine number (line :: lines) (xs ++ ys)

variable {grammar : List Char → α → Nat → Prop} {line : List Char} {start : Nat}
  {found found' : List (Found α)}

/-- Where no match begins the matches are those from the next column on. -/
private theorem Leftmost.of_succ (h : Leftmost grammar line (start + 1) found)
    (hnone : ∀ value length, ¬ grammar (line.drop start) value length) :
    Leftmost grammar line start found := by
  have hextend : ∀ i, start ≤ i → i = start ∨ start + 1 ≤ i := fun i hi => by omega
  cases h with
  | done absent =>
    refine .done fun i hi => ?_
    rcases hextend i hi with rfl | hi
    · exact hnone
    · exact absent i hi
  | next behind here first more =>
    refine .next (by omega) here (fun i hi hlt => ?_) more
    rcases hextend i hi with rfl | hi
    · exact hnone
    · exact first i hi hlt

/-- A grammar that admits one match at most at every place gives a line its matches. -/
private theorem Leftmost.unique
    (hgrammar : ∀ cs v n v' n', grammar cs v n → grammar cs v' n' → v = v' ∧ n = n')
    (h : Leftmost grammar line start found) (h' : Leftmost grammar line start found') :
    found = found' := by
  induction h generalizing found' with
  | done absent =>
    cases h' with
    | done => rfl
    | next behind here => exact absurd here (absent _ behind _ _)
  | @next start f rest behind here first more ih =>
    cases h' with
    | done absent => exact absurd here (absent _ behind _ _)
    | @next _ f' rest' behind' here' first' more' =>
      -- each begins at the first place where one can begin
      have hcolumn : f.column = f'.column := by
        rcases Nat.lt_trichotomy f.column f'.column with hlt | heq | hgt
        · exact absurd here (first' _ behind hlt _ _)
        · exact heq
        · exact absurd here' (first _ behind' hgt _ _)
      rw [← hcolumn] at here'
      obtain ⟨hvalue, hlength⟩ := hgrammar _ _ _ _ _ here here'
      obtain ⟨column, length, value⟩ := f
      obtain ⟨column', length', value'⟩ := f'
      dsimp only at hcolumn hvalue hlength more'
      subst hcolumn hvalue hlength
      rw [ih more']

/-- A recogniser that makes something else of the same matches. -/
private theorem scanFrom_map {γ : Type} {recognise : List Char → Option (α × Nat)}
    {recognise' : List Char → Option (γ × Nat)} {g : α → γ}
    (h : ∀ cs, recognise' cs = (recognise cs).map fun m => (g m.1, m.2)) (skip column : Nat)
    (cs : List Char) :
    scanFrom recognise' skip column cs =
      (scanFrom recognise skip column cs).map fun f => ⟨f.column, f.length, g f.value⟩ := by
  induction cs generalizing skip column with
  | nil => rfl
  | cons c cs ih =>
    cases skip with
    | succ skip => exact ih skip (column + 1)
    | zero =>
      unfold scanFrom
      rw [h]
      cases recognise (c :: cs) with
      | none => exact ih 0 (column + 1)
      | some m =>
        rw [Option.map_some, List.map_cons]
        exact congrArg _ (ih _ _)

variable {recognise : List Char → Option (α × Nat)}

/-- The recogniser finds the matches that the grammar admits, and no match is empty. -/
structure Recognises (recognise : List Char → Option (α × Nat))
    (grammar : List Char → α → Nat → Prop) : Prop where
  iff : ∀ cs value length, recognise cs = some (value, length) ↔ grammar cs value length
  pos : ∀ cs value length, grammar cs value length → 0 < length
  length_le : ∀ cs value length, grammar cs value length → length ≤ cs.length

namespace Recognises

variable (h : Recognises recognise grammar)

include h

private theorem functional (cs : List Char) (v : α) (n : Nat) (v' : α) (n' : Nat) (hv : grammar cs v n)
    (hv' : grammar cs v' n') : v = v' ∧ n = n' := by
  rw [← h.iff] at hv hv'
  exact Prod.mk.inj (Option.some.inj (hv.symm.trans hv'))

private theorem none_of_nil (value : α) (length : Nat) : ¬ grammar [] value length := by
  intro hmatch
  have hpos := h.pos _ _ _ hmatch
  have hle := h.length_le _ _ _ hmatch
  rw [List.length_nil] at hle
  omega

private theorem leftmost_scanFrom (line : List Char) (skip column : Nat) (cs : List Char)
    (hcs : line.drop column = cs) :
    Leftmost grammar line (column + skip) (scanFrom recognise skip column cs) := by
  induction cs generalizing skip column with
  | nil =>
    refine .done fun i hi => ?_
    have hnil : line.drop i = [] := by
      rw [List.drop_eq_nil_iff] at hcs ⊢
      omega
    rw [hnil]
    exact h.none_of_nil
  | cons c cs ih =>
    have hrest : line.drop (column + 1) = cs := by rw [← List.tail_drop, hcs, List.tail_cons]
    cases skip with
    | succ skip =>
      have hnext := ih skip (column + 1) hrest
      rwa [Nat.add_assoc, Nat.add_comm 1 skip] at hnext
    | zero =>
      unfold scanFrom
      split
      · rename_i hnone
        refine (ih 0 (column + 1) hrest).of_succ fun value length => ?_
        rw [hcs, ← h.iff, hnone]
        simp
      · rename_i value length hfound
        have hhere : grammar (line.drop column) value length := by rw [hcs, ← h.iff, hfound]
        have hpos := h.pos _ _ _ hhere
        refine .next (Nat.le_refl _) hhere (fun i hi hlt => ?_) ?_
        · exact absurd (Nat.lt_of_le_of_lt hi hlt) (Nat.lt_irrefl _)
        · have hbehind : column + length = column + 1 + (length - 1) := by omega
          rw [hbehind]
          exact ih (length - 1) (column + 1) hrest

private theorem leftmost_iff : Leftmost grammar line 0 found ↔ scanLine recognise line = found := by
  have hscan : Leftmost grammar line 0 (scanLine recognise line) := h.leftmost_scanFrom line 0 0 line rfl
  constructor
  · exact hscan.unique h.functional
  · rintro rfl
    exact hscan

end Recognises

/-- What comes of the matches of a line, if that is the same for all that are found. -/
theorem onLine_iff (h : Recognises recognise grammar)
    {keeps : Nat → List Char → Found α → Option β → Prop} {keep : Found α → Option β} {number : Nat}
    (hkeeps : ∀ f ∈ scanLine recognise line, ∀ x, keeps number line f x ↔ keep f = x) {xs : List β} :
    OnLine grammar keeps number line xs ↔ (scanLine recognise line).filterMap keep = xs := by
  have hkept : ∀ found : List (Found α), (∀ f ∈ found, ∀ x, keeps number line f x ↔ keep f = x) →
      ∀ kept, List.Forall₂ (keeps number line) found kept ↔ found.map keep = kept := by
    intro found hfound kept
    induction found generalizing kept with
    | nil => cases kept <;> simp
    | cons f found ih =>
      rw [List.forall_mem_cons] at hfound
      cases kept with
      | nil => simp
      | cons x kept => rw [List.forall₂_cons, hfound.1, ih hfound.2, List.map_cons, List.cons.injEq]
  unfold OnLine
  constructor
  · rintro ⟨found, kept, hfound, hforall, rfl⟩
    rw [h.leftmost_iff] at hfound
    subst hfound
    rw [hkept _ hkeeps] at hforall
    rw [← hforall, List.reduceOption, List.filterMap_map]
    rfl
  · rintro rfl
    have hfound := h.leftmost_iff.2 (Eq.refl (scanLine recognise line))
    refine ⟨_, (scanLine recognise line).map keep, hfound, (hkept _ hkeeps _).2 rfl, ?_⟩
    rw [List.reduceOption, List.filterMap_map]
    rfl

/-! ### Expressions -/

open Pattern

section Expression

variable {e : Expression} {value : Match → α}

/-- An expression that takes what the grammar admits. -/
private theorem Recognises.eq_first? (h : Recognises recognise grammar)
    (he : ∀ cs v n, grammar cs v n ↔ ∃ m, e.first? cs = some m ∧ value m = v ∧ m.length = n)
    (cs : List Char) :
    recognise cs = (e.first? cs).map fun m => (value m, m.length) := by
  refine Option.ext fun ⟨v, n⟩ => ?_
  rw [h.iff, he, Option.map_eq_some_iff]
  simp only [Prod.mk.injEq]

private theorem Recognises.prefers (h : Recognises recognise grammar)
    (he : ∀ cs v n, grammar cs v n ↔ ∃ m, e.first? cs = some m ∧ value m = v ∧ m.length = n) :
    Recognises (fun cs => (e.first? cs).map fun m => (m, m.length)) e.Prefers := by
  have hmatch : ∀ cs m length, e.Prefers cs m length → grammar cs (value m) length := by
    rintro cs m length ⟨hm, hlength⟩
    exact (he _ _ _).2 ⟨m, hm, rfl, hlength⟩
  refine ⟨fun cs m length => ?_, fun cs m length hm => h.pos _ _ _ (hmatch _ _ _ hm),
    fun cs m length hm => h.length_le _ _ _ (hmatch _ _ _ hm)⟩
  rw [Option.map_eq_some_iff]
  constructor
  · rintro ⟨m, hm, heq⟩
    obtain ⟨rfl, rfl⟩ := Prod.mk.inj heq
    exact ⟨hm, rfl⟩
  · rintro ⟨hm, rfl⟩
    exact ⟨m, hm, rfl⟩

/-- What comes of the matches of an expression on a line. -/
theorem onLine_prefers_iff (h : Recognises recognise grammar)
    (he : ∀ cs v n, grammar cs v n ↔ ∃ m, e.first? cs = some m ∧ value m = v ∧ m.length = n)
    {captures : Nat → List Char → Found Match → Option β → Prop} {keep : Found α → Option β}
    {number : Nat}
    (hkeeps : ∀ f : Found Match, f.column ≤ line.length → e.first? (line.drop f.column) = some f.value →
      ∀ x, captures number line f x ↔ keep ⟨f.column, f.length, value f.value⟩ = x)
    {xs : List β} :
    OnLine e.Prefers captures number line xs ↔ (scanLine recognise line).filterMap keep = xs := by
  have hscan : scanLine recognise line =
      (scanLine (fun cs => (e.first? cs).map fun m => (m, m.length)) line).map fun f =>
        ⟨f.column, f.length, value f.value⟩ := by
    refine scanFrom_map (fun cs => ?_) 0 0 line
    rw [h.eq_first? he, Option.map_map]
    rfl
  have hkept : ∀ f ∈ scanLine (fun cs => (e.first? cs).map fun m => (m, m.length)) line, ∀ x,
      captures number line f x ↔ keep ⟨f.column, f.length, value f.value⟩ = x := by
    intro f hf
    obtain ⟨-, hlt, hmatch⟩ := match_of_mem_scanFrom hf
    obtain ⟨m, hm, heq⟩ := Option.map_eq_some_iff.1 hmatch
    rw [Nat.sub_zero, (Prod.mk.inj heq).1] at hm
    exact hkeeps f (by omega) hm
  rw [onLine_iff (h.prefers he) hkept, hscan, List.filterMap_map]
  rfl

end Expression

end Line

theorem inLines_scanLines_iff {α β : Type} {recognise : List Char → Option (α × Nat)}
    {keep : Nat → Found α → Option β} {onLine : Nat → List Char → List β → Prop}
    (h : ∀ number line xs, onLine number line xs ↔ (scanLine recognise line).filterMap (keep number) = xs)
    {number : Nat} {lines : List (List Char)} {xs : List β} :
    InLines onLine number lines xs ↔ scanLines recognise keep number lines = xs := by
  induction lines generalizing number xs with
  | nil =>
    constructor
    · rintro ⟨⟩
      rfl
    · rintro rfl
      exact .nil
  | cons line lines ih =>
    rw [scanLines]
    constructor
    · rintro (_ | ⟨here, more⟩)
      rw [(h _ _ _).1 here, ih.1 more]
    · rintro rfl
      exact .cons ((h _ _ _).2 rfl) (ih.2 rfl)

end PassageEditor.Markup
