import PassageEditor.Commit.Debounce

/-!
# Drafts, operation by operation

What an edit, a new target, a text from outside and a poll do to the text of a draft and to the write that
waits.
-/

namespace PassageEditor.Draft

variable {τ : Type}

theorem pending_edit (d : Draft τ) (text : String) (now : Nat) :
    (d.edit text now).pending = some ⟨text, d.target, now + d.delay⟩ := rfl

@[simp]
theorem text_retarget [DecidableEq τ] (d : Draft τ) (target : τ) (now : Nat) :
    (d.retarget target now).2.text = d.text := by
  unfold retarget
  split <;> rfl

theorem retarget_of_ne [DecidableEq τ] {d : Draft τ} {target : τ} (h : d.target ≠ target) (now : Nat) :
    d.retarget target now =
      (true,
        { d with
          target := target
          pending := d.pending.map fun p => ⟨p.text, target, now + d.delay⟩ }) := by
  unfold retarget
  rw [if_neg h]

@[simp]
theorem isPending_retarget [DecidableEq τ] (d : Draft τ) (target : τ) (now : Nat) :
    (d.retarget target now).2.isPending = d.isPending := by
  unfold retarget isPending
  split <;> simp

/-- A write that waits moves along to a new target with its text. -/
theorem pending_of_retarget [DecidableEq τ] {d : Draft τ} {target : τ} {now : Nat} {p' : Pending τ}
    (h : (d.retarget target now).2.pending = some p') : ∃ p, d.pending = some p ∧ p'.text = p.text := by
  unfold retarget at h
  split at h
  · exact ⟨p', h, rfl⟩
  · obtain ⟨p, hp, rfl⟩ := Option.map_eq_some_iff.1 h
    exact ⟨p, hp, rfl⟩

/-- A text from outside changes the text of a draft at most, and then to that text. -/
theorem adopt_eq (d : Draft τ) (text : String) :
    d.adopt text = (false, d) ∨ d.pending = none ∧ d.adopt text = (true, { d with text := text }) := by
  unfold adopt isPending
  cases d.pending with
  | some p => exact .inl rfl
  | none =>
    by_cases h : d.text = text
    · exact .inl (by simp [h])
    · exact .inr ⟨rfl, by simp [h]⟩

/-- A text from outside is no edit. -/
@[simp]
theorem pending_adopt (d : Draft τ) (text : String) : (d.adopt text).2.pending = d.pending := by
  rcases d.adopt_eq text with h | ⟨-, h⟩ <;> rw [h]

theorem adopt_of_pending {d : Draft τ} (h : d.isPending) (text : String) : d.adopt text = (false, d) := by
  simp [adopt, h]

theorem text_adopt_of_idle {d : Draft τ} (h : d.isPending = false) (text : String) :
    (d.adopt text).2.text = text := by
  unfold adopt
  by_cases hsame : d.text = text
  · simp [h, hsame]
  · simp [h, hsame]

/-- A poll takes the write that waits if it is due and does nothing else. -/
theorem poll_eq (d : Draft τ) (now : Nat) :
    d.poll now = (none, d) ∨
      ∃ p, d.pending = some p ∧ p.deadline ≤ now ∧ d.poll now = (some p, { d with pending := none }) := by
  unfold poll
  cases d.pending with
  | none => exact .inl rfl
  | some p =>
    by_cases h : p.deadline ≤ now
    · exact .inr ⟨p, rfl, h, by simp [h]⟩
    · exact .inl (by simp [h])

@[simp]
theorem text_poll (d : Draft τ) (now : Nat) : (d.poll now).2.text = d.text := by
  rcases d.poll_eq now with h | ⟨p, -, -, h⟩ <;> rw [h]

theorem pending_of_poll {d : Draft τ} {now : Nat} {p : Pending τ} (h : (d.poll now).2.pending = some p) :
    d.pending = some p := by
  rcases d.poll_eq now with hpoll | ⟨q, -, -, hpoll⟩ <;> rw [hpoll] at h
  · exact h
  · simp at h

end PassageEditor.Draft
