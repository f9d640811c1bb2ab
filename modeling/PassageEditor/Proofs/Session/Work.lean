import PassageEditor.Proofs.Session.Frames

/-!
# Work that is put off

The work that is waiting is done from the front, and what comes up on the way waits behind it
(`Session.Works`).  A drawing brings up one click at most, and a click nothing, so that all is done after
two pieces for each that was waiting (`exists_works`), and nothing is left (`tasks_runTasks`).
-/

namespace PassageEditor

/-- The most pieces that a piece of work comes to, with what it brings up. -/
def Task.weight : Task → Nat
  | .renderPlaceholders _ => 2
  | _ => 1

namespace Task

private theorem weight_le (task : Task) : task.weight ≤ 2 := by cases task <;> simp [weight]

/-- The most pieces that all of the work comes to. -/
def load : List Task → Nat
  | [] => 0
  | task :: tasks => task.weight + load tasks

private theorem load_append (tasks others : List Task) :
    load (tasks ++ others) = load tasks + load others := by
  induction tasks with
  | nil => exact (Nat.zero_add _).symm
  | cons task tasks ih => rw [List.cons_append, load, load, ih, Nat.add_assoc]

private theorem load_le (tasks : List Task) : load tasks ≤ 2 * tasks.length := by
  induction tasks with
  | nil => exact Nat.le_refl 0
  | cons task tasks ih =>
    have hle := task.weight_le
    rw [load, List.length_cons]
    omega

end Task

namespace Session

variable {s t u : Session} {m n : Nat}

/-- Does that many pieces of the work that is waiting, the first one first. -/
inductive Works : Session → Nat → Session → Prop
  | none (s : Session) : Works s 0 s
  | piece {s t : Session} {n : Nat} {task : Task} {rest : List Task} (htasks : s.tasks = task :: rest)
      (h : Works (({ s with tasks := rest } : Session).runTask task) n t) : Works s (n + 1) t

theorem Works.trans (h : s.Works m t) (h' : t.Works n u) : s.Works (m + n) u := by
  induction h with
  | none s =>
    rw [Nat.zero_add]
    exact h'
  | piece htasks _ ih =>
    rw [Nat.succ_add]
    exact .piece htasks (ih h')

/-- With enough fuel the work is done to its end. -/
private theorem drainTasks_of_works (h : s.Works n t) (hdone : t.tasks = []) {fuel : Nat}
    (hfuel : n ≤ fuel) :
    drainTasks fuel s = (n, t) := by
  induction h generalizing fuel with
  | none s =>
    cases fuel with
    | zero => rfl
    | succ fuel =>
      rw [drainTasks_succ, hdone]
  | piece htasks _ ih =>
    obtain ⟨fuel, rfl⟩ := Nat.exists_eq_add_of_le' (Nat.lt_of_lt_of_le (Nat.succ_pos _) hfuel)
    rw [drainTasks_succ, htasks]
    dsimp only
    rw [ih hdone (Nat.le_of_succ_le_succ hfuel)]

/-- What a piece of work brings up waits behind the rest, and is less work than the piece itself. -/
private theorem exists_added (s : Session) (task : Task) :
    ∃ added, (s.runTask task).tasks = s.tasks ++ added ∧ Task.load added < task.weight := by
  have hnothing : ∀ u : Session, u.tasks = s.tasks →
      ∃ added, u.tasks = s.tasks ++ added ∧ Task.load added < task.weight := by
    intro u hu
    refine ⟨[], by rw [hu, List.append_nil], ?_⟩
    cases task <;> simp [Task.load, Task.weight]
  rw [runTask_def]
  split
  · exact hnothing s rfl
  split
  · exact hnothing s rfl
  cases task with
  | restoreSelections ranges => exact hnothing _ rfl
  | renderPlaceholders focusFirst =>
    dsimp only
    split
    · split
      · exact ⟨_, rfl, by simp [Task.load, Task.weight]⟩
      · exact hnothing _ rfl
    · exact hnothing _ rfl
  | refreshToolbar => exact hnothing _ (keeps_refreshToolbar tasks (fun _ _ => rfl) s)
  | activatePlaceholder widget =>
    exact hnothing _ (keeps_dispatchEvent tasks (fun _ _ => rfl) (fun _ _ => rfl) (fun _ _ => rfl) s _)

/-- The work comes to an end. -/
theorem exists_works (s : Session) :
    ∃ n t, s.Works n t ∧ t.tasks = [] ∧ n ≤ Task.load s.tasks := by
  -- each piece takes its weight from what is waiting, and what it brings up is less
  induction hload : Task.load s.tasks using Nat.strongRecOn generalizing s with
  | ind load ih =>
    rcases htasks : s.tasks with _ | ⟨task, rest⟩
    · exact ⟨0, s, .none s, htasks, Nat.zero_le _⟩
    · obtain ⟨added, hadded, hless⟩ := exists_added { s with tasks := rest } task
      rw [htasks, Task.load] at hload
      have hleft : Task.load (({ s with tasks := rest } : Session).runTask task).tasks =
          Task.load rest + Task.load added := by
        rw [hadded, Task.load_append]
      obtain ⟨n, t, hworks, hdone, hle⟩ := ih _ (by omega) _ hleft
      exact ⟨n + 1, t, .piece htasks hworks, hdone, by omega⟩

/-- Doing all the work is doing it to its end. -/
theorem runTasks_of_works (h : s.Works n t) (hdone : t.tasks = []) : s.runTasks = (n, t) := by
  obtain ⟨m, u, hworks, hdone', hle⟩ := exists_works s
  have hsame : (n, t) = (m, u) := by
    rw [← drainTasks_of_works h hdone (Nat.le_max_left n m),
      drainTasks_of_works hworks hdone' (Nat.le_max_right n m)]
  rw [hsame]
  exact drainTasks_of_works hworks hdone' (Nat.le_trans hle (Task.load_le s.tasks))

/-- Nothing is waiting when all the work has been done. -/
theorem tasks_runTasks (s : Session) : s.runTasks.2.tasks = [] := by
  obtain ⟨n, t, hworks, hdone, -⟩ := exists_works s
  rw [runTasks_of_works hworks hdone]
  exact hdone

end Session

end PassageEditor
