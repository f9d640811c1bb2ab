import Mathlib.Data.List.Induction
import PassageEditor.Proofs.Commit.Draft

/-!
# What a draft writes

A draft goes through any sequence of edits, new targets, texts from outside, polls and drops, at any
times.  All that it holds follows from three things: the latest text, the target set most recently and,
while an edit is unwritten, the time of the last edit or new target (`Account`).  Every operation keeps it
so (`step_draft`), and so a draft writes what the account of it says (`replies_draft`).  An edit is
unwritten as long as no edit, no drop and no poll after the quiet time has followed it
(`touched_afterAll`); that tells each write by what came before it (`writes_of_ops`).
-/

namespace PassageEditor.Draft

variable {τ : Type}

/-- What can be done to a draft. -/
inductive Op (τ : Type)
  | edit (text : String) (now : Nat)
  | retarget (target : τ) (now : Nat)
  | adopt (text : String)
  | poll (now : Nat)
  | drop

/-- A text that is written to a target. -/
structure Written (τ : Type) where
  text : String
  target : τ
  deriving DecidableEq, Repr

/-- What an operation writes, and the draft after it. -/
def step [DecidableEq τ] (d : Draft τ) : Op τ → Option (Written τ) × Draft τ
  | .edit text now => (none, d.edit text now)
  | .retarget target now => (none, (d.retarget target now).2)
  | .adopt text => (none, (d.adopt text).2)
  | .poll now => ((d.poll now).1.map fun p => ⟨p.text, p.target⟩, (d.poll now).2)
  | .drop => (none, d.drop.2)

/-! ### Sequences of operations -/

section Sequences

variable {σ : Type} (step : σ → Op τ → Option (Written τ) × σ)

/-- The state after operations. -/
def afterAll (s : σ) (ops : List (Op τ)) : σ := ops.foldl (fun s op => (step s op).2) s

/-- What each operation of a sequence writes. -/
def replies : σ → List (Op τ) → List (Option (Written τ))
  | _, [] => []
  | s, op :: ops => (step s op).1 :: replies (step s op).2 ops

variable {step}

private theorem getElem?_replies (s : σ) (ops : List (Op τ)) (i : Nat) :
    (replies step s ops)[i]? = ops[i]?.map fun op => (step (afterAll step s (ops.take i)) op).1 := by
  induction ops generalizing s i with
  | nil => rfl
  | cons op ops ih =>
    cases i with
    | zero => rfl
    | succ i => exact ih (step s op).2 i

private theorem afterAll_concat (s : σ) (ops : List (Op τ)) (op : Op τ) :
    afterAll step s (ops ++ [op]) = (step (afterAll step s ops) op).2 := by
  rw [afterAll, List.foldl_append]
  rfl

end Sequences

/-! ### The account -/

/-- What has to be remembered of a draft. -/
structure Account (τ : Type) where
  /-- The latest of the first text, the edits, and the texts from outside that came while nothing was
  unwritten. -/
  text : String
  /-- The target set most recently. -/
  target : τ
  /-- While an edit is neither written nor dropped, the time of the last edit or new target. -/
  touched : Option Nat

namespace Account

variable [DecidableEq τ] {delay : Nat}

def step (delay : Nat) (a : Account τ) : Op τ → Option (Written τ) × Account τ
  | .edit text now => (none, { a with text := text, touched := some now })
  | .retarget target now =>
    (none, if a.target = target then a
      else { a with target := target, touched := a.touched.map fun _ => now })
  | .adopt text => (none, if a.touched.isSome then a else { a with text := text })
  | .poll now =>
    match a.touched with
    | none => (none, a)
    | some time =>
      if time + delay ≤ now then (some ⟨a.text, a.target⟩, { a with touched := none }) else (none, a)
  | .drop => (none, { a with touched := none })

/-- The draft of an account: what waits has its text, its target, and the end of the quiet time for its
deadline. -/
def draft (delay : Nat) (a : Account τ) : Draft τ :=
  ⟨a.text, a.target, delay, a.touched.map fun time => ⟨a.text, a.target, time + delay⟩⟩

/-- One operation does to a draft what it does to the account of it. -/
theorem step_draft (a : Account τ) (op : Op τ) :
    (a.draft delay).step op = ((a.step delay op).1, (a.step delay op).2.draft delay) := by
  obtain ⟨text, target, touched⟩ := a
  cases op with
  | edit text now => rfl
  | retarget target' now =>
    by_cases h : target = target'
    · simp [Draft.step, step, draft, retarget, h]
    · cases touched <;> simp [Draft.step, step, draft, retarget, h]
  | adopt text' =>
    cases touched with
    | none => by_cases h : text = text' <;> simp [Draft.step, step, draft, adopt, isPending, h]
    | some time => simp [Draft.step, step, draft, adopt, isPending]
  | poll now =>
    cases touched with
    | none => rfl
    | some time => by_cases h : time + delay ≤ now <;> simp [Draft.step, step, draft, poll, h]
  | drop => rfl

private theorem afterAll_draft (a : Account τ) (ops : List (Op τ)) :
    afterAll Draft.step (a.draft delay) ops = (afterAll (step delay) a ops).draft delay := by
  induction ops generalizing a with
  | nil => rfl
  | cons op ops ih =>
    have hstep : afterAll Draft.step (a.draft delay) (op :: ops) =
        afterAll Draft.step ((a.draft delay).step op).2 ops := rfl
    rw [hstep, step_draft, ih]
    rfl

theorem replies_draft (a : Account τ) (ops : List (Op τ)) :
    replies Draft.step (a.draft delay) ops = replies (step delay) a ops := by
  induction ops generalizing a with
  | nil => rfl
  | cons op ops ih => rw [replies, replies, step_draft, ih]

end Account

/-! ### What came before -/

def Op.IsEdit : Op τ → Prop
  | .edit _ _ => True
  | _ => False

/-- Whether it puts an end to what is unwritten, whenever it comes. -/
def Op.Ends : Op τ → Prop
  | .edit _ _ => True
  | .drop => True
  | _ => False

/-- The target set most recently. -/
def latestTarget (target : τ) : List (Op τ) → τ
  | [] => target
  | .retarget target' _ :: ops => latestTarget target' ops
  | _ :: ops => latestTarget target ops

private theorem latestTarget_append (target : τ) (ops ops' : List (Op τ)) :
    latestTarget target (ops ++ ops') = latestTarget (latestTarget target ops) ops' := by
  induction ops generalizing target with
  | nil => rfl
  | cons op ops ih => cases op <;> exact ih _

private theorem latestTarget_edit (target : τ) (text : String) (now : Nat) (ops : List (Op τ)) :
    latestTarget target (.edit text now :: ops) = latestTarget target ops := rfl

variable [DecidableEq τ]

/-- When a target other than the one before was set last; `time` if that was not done. -/
def lastTouch (target : τ) (time : Nat) : List (Op τ) → Nat
  | [] => time
  | .retarget target' now :: ops =>
    if target = target' then lastTouch target time ops else lastTouch target' now ops
  | _ :: ops => lastTouch target time ops

private theorem lastTouch_append (target : τ) (time : Nat) (ops ops' : List (Op τ)) :
    lastTouch target time (ops ++ ops') =
      lastTouch (latestTarget target ops) (lastTouch target time ops) ops' := by
  induction ops generalizing target time with
  | nil => rfl
  | cons op ops ih =>
    cases op with
    | retarget target' now =>
      rw [List.cons_append, lastTouch, lastTouch, latestTarget]
      split
      · rename_i hsame
        rw [ih, hsame]
      · exact ih _ _
    | _ => exact ih _ _

/-- The operations end with an edit of that text that is still to be written: no edit and no drop has
followed, and no poll after the quiet time, which began at `touched`. -/
def Unwritten (target : τ) (delay : Nat) (ops : List (Op τ)) (text : String) (touched : Nat) : Prop :=
  ∃ earlier time later, ops = earlier ++ .edit text time :: later ∧
    (∀ op ∈ later, ¬ op.Ends) ∧
    (∀ between now rest, later = between ++ .poll now :: rest →
      now < lastTouch (latestTarget target earlier) time between + delay) ∧
    lastTouch (latestTarget target earlier) time later = touched

/-- The operation, which follows others, gives the draft a text: an edit does, and a text from outside
while nothing is unwritten. -/
def Tells (target : τ) (delay : Nat) (past : List (Op τ)) (text : String) : Op τ → Prop
  | .edit text' _ => text' = text
  | .adopt text' => text' = text ∧ ∀ typed touched, ¬ Unwritten target delay past typed touched
  | _ => False

/-- The text that was told last; the first text if none was. -/
def Latest (target : τ) (delay : Nat) (first : String) (ops : List (Op τ)) (text : String) : Prop :=
  (∃ past op later, ops = past ++ op :: later ∧ Tells target delay past text op ∧
    ∀ between op' rest, later = between ++ op' :: rest →
      ∀ text', ¬ Tells target delay (past ++ op :: between) text' op') ∨
  (text = first ∧ ∀ past op later, ops = past ++ op :: later →
    ∀ text', ¬ Tells target delay past text' op)

/-! ### One more operation -/

variable {target : τ} {delay : Nat} {past : List (Op τ)} {op : Op τ} {text : String} {touched : Nat}

/-- A member of a list that has been extended is the new one or stands in what was there before. -/
private theorem concat_eq_append_cons {α : Type} {l earlier later : List α} {a b : α}
    (h : l ++ [a] = earlier ++ b :: later) :
    (later = [] ∧ l = earlier ∧ a = b) ∨
      ∃ later', later = later' ++ [a] ∧ l = earlier ++ b :: later' := by
  rcases List.eq_nil_or_concat later with rfl | ⟨later, c, rfl⟩
  · obtain ⟨hl, hlast⟩ := List.append_inj' h rfl
    exact .inl ⟨rfl, hl, List.singleton_inj.1 hlast⟩
  · rw [List.concat_eq_append, ← List.cons_append, ← List.append_assoc] at h
    obtain ⟨hl, hlast⟩ := List.append_inj' h rfl
    exact .inr ⟨later, by rw [List.concat_eq_append, List.singleton_inj.1 hlast], hl⟩

/-- An edit is unwritten when it is made, and nothing else is. -/
private theorem unwritten_concat_edit {text' : String} {now : Nat} :
    Unwritten target delay (past ++ [.edit text' now]) text touched ↔ text' = text ∧ now = touched := by
  constructor
  · rintro ⟨earlier, time, later, hsplit, hends, -, htouched⟩
    rcases concat_eq_append_cons hsplit with ⟨rfl, -, hedit⟩ | ⟨later, rfl, -⟩
    · cases hedit
      exact ⟨rfl, htouched⟩
    · exact absurd trivial (hends _ (List.mem_append_right later (List.mem_singleton_self _)))
  · rintro ⟨rfl, rfl⟩
    exact ⟨past, now, [], rfl, by simp, by simp, rfl⟩

/-- What is unwritten stays so unless an operation ends it or a poll comes after the quiet time. -/
private theorem unwritten_concat (hop : ¬ op.IsEdit) :
    Unwritten target delay (past ++ [op]) text touched ↔
      ∃ before, Unwritten target delay past text before ∧ ¬ op.Ends ∧
        (∀ now, op = .poll now → now < before + delay) ∧
        lastTouch (latestTarget target past) before [op] = touched := by
  constructor
  · rintro ⟨earlier, time, later, hsplit, hends, hearly, htouched⟩
    rcases concat_eq_append_cons hsplit with ⟨-, -, rfl⟩ | ⟨later, rfl, rfl⟩
    · exact absurd trivial hop
    · refine ⟨_, ⟨earlier, time, later, rfl, fun op' hop' =>
        hends op' (List.mem_append_left _ hop'), ?_, rfl⟩,
        hends op (List.mem_append_right later (List.mem_singleton_self _)), ?_, ?_⟩
      · rintro between now rest rfl
        exact hearly between now (rest ++ [op]) (by simp)
      · rintro now rfl
        exact hearly later now [] rfl
      · rw [latestTarget_append, latestTarget_edit, ← lastTouch_append]
        exact htouched
  · rintro ⟨before, ⟨earlier, time, later, rfl, hends, hearly, rfl⟩, hend, hpoll, htouched⟩
    refine ⟨earlier, time, later ++ [op], by simp, ?_, ?_, ?_⟩
    · intro op' hop'
      rcases List.mem_append.1 hop' with hop' | hop'
      · exact hends op' hop'
      · rw [List.mem_singleton.1 hop']
        exact hend
    · intro between now rest hsplit
      rcases concat_eq_append_cons hsplit with ⟨-, rfl, hlast⟩ | ⟨rest, -, rfl⟩
      · exact hpoll now hlast
      · exact hearly between now rest rfl
    · rw [latestTarget_append, latestTarget_edit] at htouched
      rw [lastTouch_append]
      exact htouched

private theorem unwritten_concat_retarget {target' : τ} {now : Nat} :
    Unwritten target delay (past ++ [.retarget target' now]) text touched ↔
      ∃ before, Unwritten target delay past text before ∧
        (if latestTarget target past = target' then before else now) = touched := by
  rw [unwritten_concat (by simp [Op.IsEdit])]
  simp [Op.Ends, lastTouch]

private theorem unwritten_concat_adopt {text' : String} :
    Unwritten target delay (past ++ [.adopt text']) text touched ↔
      Unwritten target delay past text touched := by
  rw [unwritten_concat (by simp [Op.IsEdit])]
  simp [Op.Ends, lastTouch]

private theorem unwritten_concat_poll {now : Nat} :
    Unwritten target delay (past ++ [.poll now]) text touched ↔
      Unwritten target delay past text touched ∧ now < touched + delay := by
  rw [unwritten_concat (by simp [Op.IsEdit])]
  simp only [Op.Ends, not_false_eq_true, true_and, Op.poll.injEq, forall_eq', lastTouch]
  exact ⟨fun ⟨_, h, hearly, heq⟩ => heq ▸ ⟨h, hearly⟩, fun ⟨h, hearly⟩ => ⟨touched, h, hearly, rfl⟩⟩

private theorem not_unwritten_concat_drop : ¬ Unwritten target delay (past ++ [.drop]) text touched := by
  rw [unwritten_concat (by simp [Op.IsEdit])]
  rintro ⟨_, -, hend, -⟩
  exact hend trivial

/-! ### What the account remembers -/

variable {a : Account τ}

private theorem target_afterAll (delay : Nat) (a : Account τ) (ops : List (Op τ)) :
    (afterAll (Account.step delay) a ops).target = latestTarget a.target ops := by
  induction ops using List.reverseRecOn with
  | nil => rfl
  | append_singleton past op ih =>
    rw [afterAll_concat, latestTarget_append, ← ih]
    generalize afterAll (Account.step delay) a past = b
    cases op with
    | edit text now => rfl
    | retarget target' now =>
      rw [Account.step]
      split
      · assumption
      · rfl
    | adopt text =>
      rw [Account.step]
      split <;> rfl
    | poll now =>
      rw [Account.step]
      split
      · rfl
      · split <;> rfl
    | drop => rfl

/-- The account knows whether an edit is unwritten, which one it is, and when the quiet time began. -/
theorem touched_afterAll (hidle : a.touched = none) (ops : List (Op τ)) :
    (afterAll (Account.step delay) a ops).touched = some touched ∧
    (afterAll (Account.step delay) a ops).text = text ↔
      Unwritten a.target delay ops text touched := by
  induction ops using List.reverseRecOn generalizing text touched with
  | nil =>
    refine iff_of_false (by simp [afterAll, hidle]) ?_
    rintro ⟨earlier, time, later, hsplit, -⟩
    simp at hsplit
  | append_singleton past op ih =>
    -- of what came before, the account has the target as well, which decides whether a new one moves the
    -- quiet time
    rw [afterAll_concat]
    have htarget := target_afterAll delay a past
    generalize afterAll (Account.step delay) a past = b at ih htarget
    cases op with
    | edit text' now =>
      rw [unwritten_concat_edit, and_comm]
      simp [Account.step]
    | retarget target' now =>
      simp only [unwritten_concat_retarget, ← ih, ← htarget]
      by_cases hsame : b.target = target'
      · simp [Account.step, hsame, and_right_comm]
      · simp [Account.step, hsame, and_right_comm]
    | adopt text' =>
      rw [unwritten_concat_adopt, ← ih]
      cases hb : b.touched <;> simp [Account.step, hb]
    | poll now =>
      rw [unwritten_concat_poll, ← ih]
      cases hb : b.touched with
      | none => simp [Account.step, hb]
      | some time =>
        by_cases hdue : time + delay ≤ now
        · refine iff_of_false (by simp [Account.step, hb, hdue]) ?_
          rintro ⟨⟨heq, -⟩, hearly⟩
          obtain rfl := Option.some.inj heq
          omega
        · have hstep : (b.step delay (.poll now)).2 = b := by simp [Account.step, hb, hdue]
          rw [hstep, hb, Option.some.injEq, iff_self_and]
          rintro ⟨rfl, -⟩
          omega
    | drop => exact iff_of_false (by simp [Account.step]) not_unwritten_concat_drop

/-! ### What is written -/

private theorem Unwritten.unique {ops : List (Op τ)} {text' : String} {touched' : Nat}
    (h : Unwritten target delay ops text touched) (h' : Unwritten target delay ops text' touched') :
    text = text' ∧ touched = touched' := by
  have hidle : (⟨"", target, none⟩ : Account τ).touched = none := rfl
  obtain ⟨htouched, htext⟩ := (touched_afterAll hidle ops).2 h
  obtain ⟨htouched', htext'⟩ := (touched_afterAll hidle ops).2 h'
  exact ⟨htext.symm.trans htext', Option.some.inj (htouched.symm.trans htouched')⟩

/-- Without an edit nothing becomes unwritten. -/
private theorem not_unwritten_append {more : List (Op τ)}
    (h : ∀ text touched, ¬ Unwritten target delay past text touched) (hmore : ∀ op ∈ more, ¬ op.IsEdit) :
    ∀ text touched, ¬ Unwritten target delay (past ++ more) text touched := by
  induction more using List.reverseRecOn with
  | nil => simpa using h
  | append_singleton more op ih =>
    intro text touched hunwritten
    rw [← List.append_assoc, unwritten_concat (hmore op (by simp))] at hunwritten
    obtain ⟨before, hbefore, -⟩ := hunwritten
    exact ih (fun op' hop' => hmore op' (List.mem_append_left _ hop')) text before hbefore

/-- Only a poll writes: what is unwritten, if the quiet time is over. -/
private theorem written_iff (a : Account τ) (hidle : a.touched = none) (past : List (Op τ)) (op : Op τ)
    (w : Written τ) :
    ((afterAll (Account.step delay) a past).step delay op).1 = some w ↔
      ∃ now touched, op = .poll now ∧ Unwritten a.target delay past w.text touched ∧
        touched + delay ≤ now ∧
        w.target = latestTarget a.target past := by
  simp only [← touched_afterAll hidle, ← target_afterAll delay a past]
  generalize afterAll (Account.step delay) a past = b
  obtain ⟨text, target⟩ := w
  cases op with
  | poll now =>
    cases hb : b.touched with
    | none => simp [Account.step, hb]
    | some time =>
      by_cases hdue : time + delay ≤ now
      · simp [Account.step, hb, hdue, eq_comm]
      · simp [Account.step, hb, hdue]
  | _ => simp [Account.step]

/-- Between two writes there is an edit. -/
private theorem exists_edit_between {now : Nat} {more : List (Op τ)} {text' : String} {touched' : Nat}
    (h : Unwritten target delay past text touched) (hdue : touched + delay ≤ now)
    (h' : Unwritten target delay (past ++ .poll now :: more) text' touched') :
    ∃ op ∈ more, op.IsEdit := by
  by_contra hnone
  rw [not_exists] at hnone
  -- the poll leaves nothing unwritten, and without an edit it stays so
  have hwritten : ∀ text touched, ¬ Unwritten target delay (past ++ [.poll now]) text touched := by
    intro text'' touched'' hleft
    obtain ⟨hleft, hearly⟩ := unwritten_concat_poll.1 hleft
    obtain ⟨-, rfl⟩ := h.unique hleft
    omega
  rw [List.append_cons] at h'
  exact not_unwritten_append hwritten (fun op hop hedit => hnone op ⟨hop, hedit⟩) text' touched' h'

/-- The same by place: what the operation at a place writes. -/
private theorem getElem?_replies_iff (hidle : a.touched = none) (ops : List (Op τ)) (i : Nat)
    (w : Written τ) :
    (replies (Account.step delay) a ops)[i]? = some (some w) ↔
      ∃ now touched, ops[i]? = some (.poll now) ∧ Unwritten a.target delay (ops.take i) w.text touched ∧
        touched + delay ≤ now ∧ w.target = latestTarget a.target (ops.take i) := by
  rw [getElem?_replies, Option.map_eq_some_iff]
  simp only [written_iff a hidle]
  constructor
  · rintro ⟨_, hop, now, touched, rfl, hwrites⟩
    exact ⟨now, touched, hop, hwrites⟩
  · rintro ⟨now, touched, hop, hwrites⟩
    exact ⟨_, hop, now, touched, rfl, hwrites⟩

/-- Between the places of two writes there is the place of an edit. -/
private theorem exists_edit_place {ops : List (Op τ)} {i j now : Nat} {text' : String} {touched' : Nat}
    (hlt : i < j) (hpoll : ops[i]? = some (.poll now))
    (h : Unwritten target delay (ops.take i) text touched) (hdue : touched + delay ≤ now)
    (h' : Unwritten target delay (ops.take j) text' touched') :
    ∃ (k : Nat) (text : String) (now : Nat), i < k ∧ k < j ∧ ops[k]? = some (.edit text now) := by
  have hsplit : ops.take j = ops.take i ++ .poll now :: (ops.take j).drop (i + 1) := by
    conv_lhs => rw [← List.take_append_drop (i + 1) (ops.take j)]
    rw [List.take_take, Nat.min_eq_left hlt, List.take_add_one, hpoll,
      Option.toList_some, List.append_assoc]
    rfl
  rw [hsplit] at h'
  obtain ⟨op, hop, hedit⟩ := exists_edit_between h hdue h'
  obtain ⟨k, hk⟩ := List.mem_iff_getElem?.1 hop
  rw [List.getElem?_drop, List.getElem?_take, Option.ite_none_right_eq_some] at hk
  obtain ⟨hkj, hk⟩ := hk
  cases op with
  | edit text now => exact ⟨i + 1 + k, text, now, by omega, hkj, hk⟩
  | _ => exact hedit.elim

/-! ### Which text is shown -/

private theorem Latest.of_tells {first : String} (h : Tells target delay past text op) :
    Latest target delay first (past ++ [op]) text :=
  .inl ⟨past, op, [], rfl, h, by simp⟩

/-- An operation that tells no text leaves the latest one. -/
private theorem Latest.concat {first : String} (h : Latest target delay first past text)
    (hop : ∀ text', ¬ Tells target delay past text' op) :
    Latest target delay first (past ++ [op]) text := by
  rcases h with ⟨earlier, told, later, rfl, htells, hlater⟩ | ⟨rfl, hnone⟩
  · refine .inl ⟨earlier, told, later ++ [op], by simp, htells, fun between op' rest hsplit => ?_⟩
    rcases concat_eq_append_cons hsplit with ⟨-, rfl, rfl⟩ | ⟨rest, -, hsplit⟩
    · exact hop
    · exact hlater between op' rest hsplit
  · refine .inr ⟨rfl, fun earlier op' later hsplit => ?_⟩
    rcases concat_eq_append_cons hsplit with ⟨-, rfl, rfl⟩ | ⟨later, -, hsplit⟩
    · exact hop
    · exact hnone earlier op' later hsplit

private theorem latest_afterAll (hidle : a.touched = none) (ops : List (Op τ)) :
    Latest a.target delay a.text ops (afterAll (Account.step delay) a ops).text := by
  induction ops using List.reverseRecOn with
  | nil => exact .inr ⟨rfl, by simp⟩
  | append_singleton past op ih =>
    have hunwritten : ∀ text touched,
        (afterAll (Account.step delay) a past).touched = some touched ∧
          (afterAll (Account.step delay) a past).text = text ↔
            Unwritten a.target delay past text touched :=
      fun _ _ => touched_afterAll hidle past
    rw [afterAll_concat]
    generalize afterAll (Account.step delay) a past = b at ih hunwritten
    cases op with
    | edit text now => exact .of_tells rfl
    | retarget target now =>
      have htext : (b.step delay (.retarget target now)).2.text = b.text := by
        rw [Account.step]
        split <;> rfl
      rw [htext]
      exact ih.concat fun _ => id
    | adopt text =>
      cases hb : b.touched with
      | none =>
        have htext : (b.step delay (.adopt text)).2.text = text := by simp [Account.step, hb]
        rw [htext]
        refine .of_tells ⟨rfl, fun typed touched h => ?_⟩
        rw [← hunwritten, hb] at h
        exact absurd h.1 (by simp)
      | some time =>
        have htext : (b.step delay (.adopt text)).2.text = b.text := by simp [Account.step, hb]
        rw [htext]
        exact ih.concat fun _ htells => htells.2 b.text time ((hunwritten _ _).1 ⟨hb, rfl⟩)
    | poll now =>
      have htext : (b.step delay (.poll now)).2.text = b.text := by
        rw [Account.step]
        split
        · rfl
        · split <;> rfl
      rw [htext]
      exact ih.concat fun _ => id
    | drop => exact ih.concat fun _ => id

/-! ### All of it -/

/-- A draft writes what the account of it says, operation by operation.  A poll writes the text of the
edit that is unwritten, if the quiet time since the last edit or new target is over, and to the target set
most recently; nothing else is written, and between two writes there is an edit.  The text shown is the
latest one. -/
theorem writes_of_ops (text : String) (target : τ) (delay : Nat) (ops : List (Op τ)) :
    let d := ofText text target delay
    let account : Account τ := ⟨text, target, none⟩
    replies step d ops = replies (Account.step delay) account ops ∧
    (afterAll step d ops).text = (afterAll (Account.step delay) account ops).text ∧
    (∀ i w, (replies step d ops)[i]? = some (some w) ↔
      ∃ now touched, ops[i]? = some (.poll now) ∧ Unwritten target delay (ops.take i) w.text touched ∧
        touched + delay ≤ now ∧ w.target = latestTarget target (ops.take i)) ∧
    (∀ i j w w', i < j → (replies step d ops)[i]? = some (some w) →
      (replies step d ops)[j]? = some (some w') →
      ∃ (k : Nat) (text : String) (now : Nat), i < k ∧ k < j ∧ ops[k]? = some (.edit text now)) ∧
    Latest target delay text ops (afterAll step d ops).text := by
  intro d account
  have hdraft : d = account.draft delay := rfl
  have hreplies : replies step d ops = replies (Account.step delay) account ops :=
    account.replies_draft ops
  have htext : (afterAll step d ops).text = (afterAll (Account.step delay) account ops).text := by
    rw [hdraft, Account.afterAll_draft]
    rfl
  have hwritten : ∀ i w, (replies step d ops)[i]? = some (some w) ↔
      ∃ now touched, ops[i]? = some (.poll now) ∧ Unwritten target delay (ops.take i) w.text touched ∧
        touched + delay ≤ now ∧ w.target = latestTarget target (ops.take i) := by
    rw [hreplies]
    exact getElem?_replies_iff rfl ops
  refine ⟨hreplies, htext, hwritten, fun i j w w' hlt hi hj => ?_, htext ▸ latest_afterAll rfl ops⟩
  obtain ⟨now, touched, hpoll, hunwritten, hdue, -⟩ := (hwritten i w).1 hi
  obtain ⟨-, touched', -, hunwritten', -⟩ := (hwritten j w').1 hj
  exact exists_edit_place hlt hpoll hunwritten hdue hunwritten'

/-- A new target in the quiet time moves it, a text from outside does not come through meanwhile, and an
edit that is dropped is never written. -/
example :
    let ops : List (Op Nat) := [.edit "a" 0, .edit "ab" 300, .retarget 2 500, .adopt "x",
      .poll 1499, .poll 1500,
      .adopt "y", .edit "c" 1600, .drop, .poll 9000]
    replies step (ofText "" 1 1000) ops =
      [none, none, none, none, none, some ⟨"ab", 2⟩, none, none, none, none] ∧
      (afterAll step (ofText "" 1 1000) ops).text = "c" := by
  decide

end PassageEditor.Draft
