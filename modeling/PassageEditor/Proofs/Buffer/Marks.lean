import Mathlib.Data.List.Nodup
import PassageEditor.Proofs.Buffer.Covered

/-!
# Marks of a buffer

Marks stand in the order of their numbers, and every number is below the next one (`Buffer.Numbered`).  An
edit of the host puts a text in the place of another or leaves the buffer as it is (`Buffer.edit_cases`),
and a mark that is left after it is one from before, moved along (`Change.mark?_eq_some`).
-/

namespace PassageEditor

namespace Buffer

/-! ### Numbers -/

/-- The marks are in the order of their numbers, and the next number is still free. -/
structure Numbered (b : Buffer) : Prop where
  increasing : b.marks.Pairwise fun m n => m.id.value < n.id.value
  below : ∀ m ∈ b.marks, m.id.value < b.nextMark

theorem Numbered.nodup {b : Buffer} (h : b.Numbered) : (b.marks.map (·.id)).Nodup := by
  rw [List.Nodup, List.pairwise_map]
  refine h.increasing.imp ?_
  intro m n hlt heq
  rw [heq] at hlt
  omega

/-- A mark is the only one of its number. -/
theorem Numbered.eq_of_id_eq {b : Buffer} (h : b.Numbered) {m n : Mark} (hm : m ∈ b.marks)
    (hn : n ∈ b.marks) (hid : m.id = n.id) : m = n :=
  List.inj_on_of_nodup_map h.nodup hm hn hid

theorem mem_of_findMark? {b : Buffer} {id : MarkId} {m : Mark} (h : b.findMark? id = some m) :
    m ∈ b.marks ∧ m.id = id :=
  ⟨List.mem_of_find?_eq_some h, by simpa using List.find?_some h⟩

theorem Numbered.findMark?_eq_some_iff {b : Buffer} (h : b.Numbered) {id : MarkId} {m : Mark} :
    b.findMark? id = some m ↔ m ∈ b.marks ∧ m.id = id := by
  refine ⟨mem_of_findMark?, ?_⟩
  rintro ⟨hm, rfl⟩
  have hsome : (b.findMark? m.id).isSome := List.find?_isSome.2 ⟨m, hm, by simp⟩
  obtain ⟨n, hn⟩ := Option.isSome_iff_exists.1 hsome
  obtain ⟨hmem, hid⟩ := mem_of_findMark? hn
  rw [hn, h.eq_of_id_eq hmem hm hid]

theorem numbered_ofText (text : String) : (ofText text).Numbered :=
  ⟨List.Pairwise.nil, by simp [ofText]⟩

theorem Numbered.addMark {b : Buffer} (h : b.Numbered) (range : Range) (info : MarkInfo) :
    (b.addMark range info).2.Numbered := by
  refine ⟨?_, ?_⟩
  · show (b.marks ++ [_]).Pairwise _
    rw [List.pairwise_append]
    refine ⟨h.increasing, List.pairwise_singleton _ _, ?_⟩
    intro m hm n hn
    obtain rfl := List.mem_singleton.1 hn
    exact h.below m hm
  · show ∀ m ∈ b.marks ++ [_], m.id.value < b.nextMark + 1
    intro m hm
    rcases List.mem_append.1 hm with hm | hm
    · have := h.below m hm
      omega
    · obtain rfl := List.mem_singleton.1 hm
      exact Nat.lt_succ_self _

theorem Numbered.clearMark {b : Buffer} (h : b.Numbered) (id : MarkId) : (b.clearMark id).2.Numbered :=
  ⟨h.increasing.filter _, fun m hm => h.below m (List.mem_filter.1 hm).1⟩

/-! ### Edits of the host -/

/-- What the host does to the text. -/
inductive Edit
  | replace (text : String) (start stop : Position)
  | set (text : String)

def edit (b : Buffer) : Edit → Buffer
  | .replace text start stop => b.replaceRange text start stop
  | .set text => b.setText text

/-- What is put in and where, if anything changes. -/
def splice? (b : Buffer) : Edit → Option (String × Position × Position)
  | .replace text start stop => some (text, start, stop)
  | .set text => b.difference? text

/-- The change that an edit makes, with the characters put in. -/
def change? (b : Buffer) (e : Edit) : Option (Change × List Char) :=
  (b.splice? e).map fun (text, start, stop) => (b.changeAt text.toList start stop, text.toList)

private theorem edit_eq (b : Buffer) (e : Edit) :
    b.edit e = match b.splice? e with
      | none => b
      | some (text, start, stop) => b.replaceRange text start stop := by
  cases e <;> rfl

/-- An edit changes nothing, or it puts a text in the place of another and moves the marks along. -/
theorem edit_cases (b : Buffer) (e : Edit) :
    b.change? e = none ∧ b.edit e = b ∨
      ∃ change before old cs after, b.change? e = some (change, cs) ∧
        change.Splices b (b.edit e) before old cs after ∧
          (b.edit e).marks = b.marks.filterMap change.mark? ∧
        (b.edit e).nextMark = b.nextMark := by
  rw [edit_eq]
  unfold change?
  rcases b.splice? e with _ | ⟨text, start, stop⟩
  · exact .inl ⟨rfl, rfl⟩
  · obtain ⟨before, old, after, h⟩ := Change.splices_replaceRange b text start stop
    exact .inr ⟨_, before, old, text.toList, after, rfl, h, rfl, rfl⟩

end Buffer

theorem Change.mark?_eq_some {e : Change} {m n : Mark} (h : e.mark? m = some n) :
    ¬ e.Damages m.range ∧ n = { m with range := e.moved m.range } := by
  unfold mark? at h
  split at h
  · simp at h
  · exact ⟨‹_›, (Option.some.inj h).symm⟩

namespace Buffer

theorem Numbered.edit {b : Buffer} (h : b.Numbered) (e : Edit) : (b.edit e).Numbered := by
  rcases b.edit_cases e with ⟨-, hsame⟩ | ⟨change, before, old, cs, after, -, -, hmarks, hnext⟩
  · rw [hsame]
    exact h
  · refine ⟨?_, ?_⟩
    · rw [hmarks]
      refine h.increasing.filterMap _ ?_
      intro m n hlt m' hm' n' hn'
      rw [(Change.mark?_eq_some hm').2, (Change.mark?_eq_some hn').2]
      exact hlt
    · intro m hm
      rw [hmarks] at hm
      obtain ⟨n, hn, hmn⟩ := List.mem_filterMap.1 hm
      rw [hnext, (Change.mark?_eq_some hmn).2]
      exact h.below n hn

/-! ### What else may be done to a buffer -/

/-- A buffer after changes that take marks away, move them, or put new ones on it: none gets a number that
was used. -/
structure Ages (b b' : Buffer) : Prop where
  numbered : b.Numbered → b'.Numbered
  nextMark : b.nextMark ≤ b'.nextMark
  marks : ∀ m ∈ b'.marks, (∃ n ∈ b.marks, n.id = m.id ∧ n.info = m.info) ∨ b.nextMark ≤ m.id.value

/-- The numbers of the marks that were not there before. -/
def newMarks (b b' : Buffer) : List MarkId := (b'.marks.map (·.id)).filter (· ∉ b.marks.map (·.id))

/-- The marks on both are the same. -/
theorem Ages.of_same {b b' : Buffer} (hmarks : b'.marks = b.marks) (hnext : b'.nextMark = b.nextMark) :
    b.Ages b' := by
  refine ⟨fun h => ⟨hmarks ▸ h.increasing, by rw [hmarks, hnext]; exact h.below⟩,
    Nat.le_of_eq hnext.symm, ?_⟩
  intro m hm
  exact .inl ⟨m, hmarks ▸ hm, rfl, rfl⟩

theorem ages_addMark (b : Buffer) (range : Range) (info : MarkInfo) :
    b.Ages (b.addMark range info).2 := by
  refine ⟨fun h => h.addMark range info, Nat.le_succ _, ?_⟩
  intro m hm
  rcases List.mem_append.1 hm with hm | hm
  · exact .inl ⟨m, hm, rfl, rfl⟩
  · obtain rfl := List.mem_singleton.1 hm
    exact .inr (Nat.le_refl _)

theorem ages_edit (b : Buffer) (e : Edit) : b.Ages (b.edit e) ∧ b.newMarks (b.edit e) = [] := by
  have hold : ∀ m ∈ (b.edit e).marks, ∃ n ∈ b.marks, n.id = m.id ∧ n.info = m.info := by
    intro m hm
    rcases b.edit_cases e with ⟨-, hsame⟩ | ⟨change, before, old, cs, after, -, -, hmarks, -⟩
    · exact ⟨m, hsame ▸ hm, rfl, rfl⟩
    · rw [hmarks] at hm
      obtain ⟨n, hn, hmn⟩ := List.mem_filterMap.1 hm
      rw [(Change.mark?_eq_some hmn).2]
      exact ⟨n, hn, rfl, rfl⟩
  have hnext : (b.edit e).nextMark = b.nextMark := by
    rcases b.edit_cases e with ⟨-, hsame⟩ | ⟨change, before, old, cs, after, -, -, -, hnext⟩
    · rw [hsame]
    · exact hnext
  refine ⟨⟨fun h => h.edit e, Nat.le_of_eq hnext.symm, fun m hm => .inl (hold m hm)⟩, ?_⟩
  unfold newMarks
  rw [List.filter_eq_nil_iff]
  intro id hid
  obtain ⟨m, hm, rfl⟩ := List.mem_map.1 hid
  obtain ⟨n, hn, heq, -⟩ := hold m hm
  simp only [decide_not, Bool.not_eq_true', decide_eq_false_iff_not, not_not]
  exact List.mem_map.2 ⟨n, hn, heq⟩

end Buffer

end PassageEditor
