import Mathlib.Data.Int.Order.Basic
import Mathlib.Data.Prod.Lex
import PassageEditor.Proofs.Ranking.Narrowed

/-!
# Floating-point numbers on a line

Apart from what is not a number, floating-point numbers compare as their places on a line do
(`agrees_line`).  The two zeros have one place.
-/

namespace PassageEditor.Ranking

open Float.Model

/-- The place of a number: by its sign, then by its exponent and its significand, which both count
backwards for negative numbers. -/
def place : UnpackedFloat → ℤ ×ₗ ℤ ×ₗ ℤ
  | .infinity .negative => toLex (-2, toLex (0, 0))
  | .finite .negative significand exponent _ => toLex (-1, toLex (-exponent, -significand))
  | .zero _ | .notANumber => toLex (0, toLex (0, 0))
  | .finite .positive significand exponent _ => toLex (1, toLex (exponent, significand))
  | .infinity .positive => toLex (2, toLex (0, 0))

private theorem compare_toLex {γ δ : Type} [Ord γ] [Ord δ] (a c : γ) (b d : δ) :
    compare (toLex (a, b)) (toLex (c, d)) = (compare a c).then (compare b d) := rfl

private theorem compare_neg (a b : ℤ) : compare (-a) (-b) = (compare a b).swap := by
  rw [← Std.OrientedOrd.eq_swap, Int.compare_eq_ite_lt, Int.compare_eq_ite_lt]
  simp only [Int.neg_lt_neg_iff]

private theorem compare_natCast (m n : ℕ) : compare (m : ℤ) (n : ℤ) = compare m n := by
  rw [Int.compare_eq_ite_lt, Nat.compare_eq_ite_lt]
  simp only [Int.ofNat_lt]

private theorem compare_eq_place {a b : UnpackedFloat} (ha : a ≠ .notANumber) (hb : b ≠ .notANumber) :
    a.compare b = some (compare (place a) (place b)) := by
  cases a with
  | notANumber => exact absurd rfl ha
  | infinity s =>
    cases b with
    | notANumber => exact absurd rfl hb
    | infinity t => cases s <;> cases t <;> rfl
    | zero t => cases s <;> rfl
    | finite t n f hn => cases s <;> cases t <;> rfl
  | zero s =>
    cases b with
    | notANumber => exact absurd rfl hb
    | infinity t => cases t <;> rfl
    | zero t => rfl
    | finite t n f hn => cases t <;> rfl
  | finite s m e hm =>
    cases b with
    | notANumber => exact absurd rfl hb
    | infinity t => cases s <;> cases t <;> rfl
    | zero t => cases s <;> rfl
    | finite t n f hn =>
      -- only two numbers of one sign are told apart by exponent and significand
      cases s with
      | negative =>
        cases t with
        | negative =>
          show some ((compare e f).then (compare m n)).swap =
            some ((compare (-1 : ℤ) (-1)).then ((compare (-e) (-f)).then (compare (-(m : ℤ)) (-(n : ℤ)))))
          rw [compare_neg e, compare_neg (m : ℤ), compare_natCast, Ordering.swap_then]
          rfl
        | positive => rfl
      | positive =>
        cases t with
        | negative => rfl
        | positive =>
          show some ((compare e f).then (compare m n)) =
            some ((compare (1 : ℤ) 1).then ((compare e f).then (compare (m : ℤ) (n : ℤ))))
          rw [compare_natCast]
          rfl

private theorem unpackedLt_iff {a b : UnpackedFloat} (ha : a ≠ .notANumber) (hb : b ≠ .notANumber) :
    a.lt b = true ↔ place a < place b := by
  rw [UnpackedFloat.lt, compare_eq_place ha hb, ← compare_lt_iff_lt]
  simp

private theorem unpackedLe_iff {a b : UnpackedFloat} (ha : a ≠ .notANumber) (hb : b ≠ .notANumber) :
    a.le b = true ↔ place a ≤ place b := by
  rw [UnpackedFloat.le, compare_eq_place ha hb, Option.any_some, ← compare_le_iff_le,
    Ordering.isLE_iff_ne_gt]

/-- The place of a floating-point number. -/
def line (x : Float) : ℤ ×ₗ ℤ ×ₗ ℤ := place x.toModel.unpack

private theorem ne_notANumber {x : Float} (h : x.isNaN = false) : x.toModel.unpack ≠ .notANumber := by
  intro hnan
  have : x.toModel.unpack.isNaN = false := h
  rw [hnan] at this
  cases this

theorem agrees_line {P : Float → Prop} (h : ∀ s, P s → s.isNaN = false) : Agrees line P where
  lt_iff s t hs ht := by
    show (decide (s.toModel.unpack.lt t.toModel.unpack = true)) = true ↔ _
    rw [decide_eq_true_eq]
    exact unpackedLt_iff (ne_notANumber (h s hs)) (ne_notANumber (h t ht))
  le_iff s t hs ht := by
    show (decide (s.toModel.unpack.le t.toModel.unpack = true)) = true ↔ _
    rw [decide_eq_true_eq]
    exact unpackedLe_iff (ne_notANumber (h s hs)) (ne_notANumber (h t ht))

/-- What is below another is a number. -/
theorem isNaN_of_lt {s t : Float} (h : s < t) : s.isNaN = false := by
  have hlt : s.toModel.unpack.lt t.toModel.unpack = true := of_decide_eq_true h
  show s.toModel.unpack.isNaN = false
  cases hs : s.toModel.unpack with
  | notANumber =>
    rw [hs] at hlt
    cases hlt
  | infinity sign => rfl
  | zero sign => rfl
  | finite sign significand exponent hpos => rfl

end PassageEditor.Ranking
