/-!
# Positions, ranges and selections

A position is a line and a column, both counted from zero; a column counts characters, never bytes.
Positions are ordered by line and then by column, and a range runs from its start up to, and without, its
end.
-/

namespace PassageEditor

structure Position where
  line : Nat
  ch : Nat
  deriving DecidableEq, Repr, Inhabited

namespace Position

/-- The start of a text. -/
def origin : Position := ⟨0, 0⟩

/-- Lexicographic: by line, then by column. -/
protected def lt (p q : Position) : Prop :=
  p.line < q.line ∨ (p.line = q.line ∧ p.ch < q.ch)

protected def le (p q : Position) : Prop :=
  p.line < q.line ∨ (p.line = q.line ∧ p.ch ≤ q.ch)

instance : LT Position := ⟨Position.lt⟩
instance : LE Position := ⟨Position.le⟩

theorem lt_def {p q : Position} : p < q ↔ p.line < q.line ∨ (p.line = q.line ∧ p.ch < q.ch) := Iff.rfl

theorem le_def {p q : Position} : p ≤ q ↔ p.line < q.line ∨ (p.line = q.line ∧ p.ch ≤ q.ch) := Iff.rfl

instance (p q : Position) : Decidable (p < q) := decidable_of_iff' _ lt_def
instance (p q : Position) : Decidable (p ≤ q) := decidable_of_iff' _ le_def

theorem not_lt {p q : Position} : ¬ p < q ↔ q ≤ p := by
  simp only [lt_def, le_def]; omega

theorem not_le {p q : Position} : ¬ p ≤ q ↔ q < p := by
  simp only [lt_def, le_def]; omega

theorem le_refl (p : Position) : p ≤ p := by
  simp [le_def]

theorem le_trans {p q r : Position} (h : p ≤ q) (h' : q ≤ r) : p ≤ r := by
  simp only [le_def] at *; omega

theorem le_antisymm {p q : Position} (h : p ≤ q) (h' : q ≤ p) : p = q := by
  obtain ⟨a, b⟩ := p
  obtain ⟨c, d⟩ := q
  simp only [le_def, Position.mk.injEq] at *
  omega

protected def min (p q : Position) : Position := if p ≤ q then p else q

/-- The later of two positions. -/
protected def max (p q : Position) : Position := if p ≤ q then q else p

end Position

/-- A half-open range: `start` belongs to it and `stop` does not. -/
structure Range where
  start : Position
  stop : Position
  deriving DecidableEq, Repr

namespace Range

/-- `len` characters of one line from column `ch` on. -/
def onLine (line ch len : Nat) : Range :=
  ⟨⟨line, ch⟩, ⟨line, ch + len⟩⟩

/-- Whether every position of `r` is one of `s`, ends included. -/
def Within (r s : Range) : Prop := s.start ≤ r.start ∧ r.stop ≤ s.stop

instance (r s : Range) : Decidable (r.Within s) := inferInstanceAs (Decidable (_ ∧ _))

end Range

/-- A selection; the cursor sits at `head`. -/
structure Selection where
  anchor : Position
  head : Position
  deriving DecidableEq, Repr

namespace Selection

def cursor (p : Position) : Selection := ⟨p, p⟩

def isEmpty (s : Selection) : Bool := s.anchor = s.head

def start (s : Selection) : Position := s.anchor.min s.head

def stop (s : Selection) : Position := s.anchor.max s.head

end Selection

end PassageEditor
