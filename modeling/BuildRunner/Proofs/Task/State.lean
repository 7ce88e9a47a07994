import BuildRunner.Task.History
import Mathlib.Data.List.Induction

set_option autoImplicit false

/-! # The state and its history

A state is told by its history: a task is running exactly if it is the one that was begun last and
nothing was finished under its number since (`TaskHistory.Remains`). This goes by induction on the
operations: `apply_state` says what a single one does to the state, and `remains_concat` that it does
the same to what remains of the history. Numbers may come in any order and be used again, since tasks
are told apart by their lines.
-/

namespace BuildRunner

/-! ## One state -/

namespace TaskState

variable {s : TaskState} {id : TaskId} {h : TaskHandle}

theorem isCurrent_eq_true : s.isCurrent id = true ↔ ∃ h, s = .running h ∧ h.id = id := by
  cases s <;> simp [isCurrent, current?]

theorem finish_eq_running : s.finish id = .running h ↔ s = .running h ∧ h.id ≠ id := by
  cases s with
  | idle => simp [finish, isCurrent, current?]
  | running x =>
      simp only [finish, isCurrent, current?, Option.any_some]
      by_cases hx : x.id = id
      · simp only [hx, decide_true, if_true, reduceCtorEq, running.injEq, false_iff]
        rintro ⟨rfl, hne⟩
        exact hne hx
      · simp only [hx, decide_false, Bool.false_eq_true, if_false, running.injEq]
        constructor
        · rintro rfl
          exact ⟨rfl, hx⟩
        · exact fun h => h.1

theorem finish_eq_or (s : TaskState) (id : TaskId) : s.finish id = s ∨ s.finish id = .idle := by
  unfold finish
  split
  · exact .inr rfl
  · exact .inl rfl

theorem isCurrent_finish (s : TaskState) (id : TaskId) : (s.finish id).isCurrent id = false := by
  unfold finish
  split
  · rfl
  · rename_i hid
    exact Bool.eq_false_iff.mpr hid

theorem decide_eq_start {force : Bool} : s.decide force = .start ↔ ∀ h, s ≠ .running h := by
  cases s <;> cases force <;> simp [decide]

theorem decide_eq_drop {force : Bool} :
    s.decide force = .drop ↔ force = false ∧ ∃ h, s = .running h := by
  cases s <;> cases force <;> simp [decide]

theorem decide_eq_preempt {force : Bool} :
    s.decide force = .preempt h ↔ force = true ∧ s = .running h := by
  cases s <;> cases force <;> simp [decide]

end TaskState

/-! ## Histories -/

namespace TaskHistory

/-- Whether an operation opens a line to a new task. -/
def Operation.opensLine : Operation → Bool
  | .begin _ _ => true
  | _ => false

/-- **The handle with which an operation begins a task**, if it does, where `line` is the next line
that is opened. -/
def Operation.begins? (line : Nat) : Operation → Option TaskHandle
  | .begin id commandLine => some ⟨id, commandLine, line⟩
  | .beginAgain h => some h
  | _ => none

def Operation.isBegin : Operation → Bool
  | .begin _ _ => true
  | .beginAgain _ => true
  | _ => false

/-- **The task that remains** behind a history: it was begun last, and nothing was finished under its
number since. Lines are opened one after another, so the next one is told by their number. -/
def Remains (ops : List Operation) (h : TaskHandle) : Prop :=
  ∃ before o after, ops = before ++ o :: after ∧
    o.begins? (before.countP Operation.opensLine) = some h ∧
    ∀ o ∈ after, o.isBegin = false ∧ o ≠ .finish h.id

variable {t : TaskHistory} {ops : List Operation} {o : Operation} {h : TaskHandle}

/-! ### One operation -/

/-- **What one operation does to the state**: a task is running behind it if it was begun by it, or if
it was running before and the operation begins no other and does not finish it. -/
theorem apply_state : (t.apply o).state = .running h ↔
    o.begins? t.begun.length = some h ∨
      t.state = .running h ∧ o.isBegin = false ∧ o ≠ .finish h.id := by
  cases o with
  | finish id =>
      simp [apply, TaskState.finish_eq_running, Operation.begins?, Operation.isBegin, eq_comm]
  | _ => simp [apply, onLine, handle, Operation.begins?, Operation.isBegin]

/-- **What it does to what remains.** -/
theorem remains_concat : Remains (ops ++ [o]) h ↔
    o.begins? (ops.countP Operation.opensLine) = some h ∨
      Remains ops h ∧ o.isBegin = false ∧ o ≠ .finish h.id := by
  constructor
  · rintro ⟨before, b, after, told, begins, since⟩
    -- The last operation is the one that begins the task, or comes after it.
    rcases List.eq_nil_or_concat after with rfl | ⟨after, last, rfl⟩
    · obtain ⟨rfl, same⟩ := List.append_inj' told rfl
      obtain rfl := List.singleton_inj.mp same
      exact .inl begins
    · rw [List.concat_eq_append] at told since
      rw [← List.cons_append, ← List.append_assoc] at told
      obtain ⟨rfl, same⟩ := List.append_inj' told rfl
      obtain rfl := List.singleton_inj.mp same
      rw [List.forall_mem_append, List.forall_mem_singleton] at since
      exact .inr ⟨⟨before, b, after, rfl, begins, since.1⟩, since.2⟩
  · rintro (begins | ⟨⟨before, b, after, rfl, begins, since⟩, harmless⟩)
    · exact ⟨ops, o, [], rfl, begins, List.forall_mem_nil _⟩
    · refine ⟨before, b, after ++ [o], by simp, begins, ?_⟩
      rw [List.forall_mem_append, List.forall_mem_singleton]
      exact ⟨since, harmless⟩

theorem length_begun_apply :
    (t.apply o).begun.length = t.begun.length + if o.opensLine then 1 else 0 := by
  cases o <;> simp [apply, onLine, Operation.opensLine]

/-! ### All operations -/

theorem run_concat (t : TaskHistory) (ops : List Operation) (o : Operation) :
    t.run (ops ++ [o]) = (t.run ops).apply o := by
  simp [run]

theorem length_begun_run (ops : List Operation) :
    (run {} ops).begun.length = ops.countP Operation.opensLine := by
  induction ops using List.reverseRecOn with
  | nil => rfl
  | append_singleton ops o ih =>
      rw [run_concat, length_begun_apply, ih, List.countP_append, List.countP_singleton]

/-- **The state is told by its history.** -/
theorem run_state (ops : List Operation) : (run {} ops).state = .running h ↔ Remains ops h := by
  induction ops using List.reverseRecOn with
  | nil =>
      constructor
      · nofun
      · rintro ⟨before, o, after, told, -⟩
        simp at told
  | append_singleton ops o ih => rw [run_concat, apply_state, length_begun_run, ih, remains_concat]

/-- **The state tracks the task begun last**, over every history.

A history is any list of operations on a new state and on the lines of its tasks, with numbers in any
order and used again, and with new handles or old ones; so what is said of it holds behind every
operation. A task is running exactly if it was begun last and nothing was finished under its number
since. To finish under a number is answered by whether the running task has it; if so the state is
idle behind it, else nothing has changed. To decide is answered by what remains of the history, and
changes nothing. What happens to the lines, whether they lead to the running task or not, does not
change the state. -/
theorem state_tracks_last_begun (ops : List Operation) :
    let t := run {} ops
    (∀ h, t.state = .running h ↔ Remains ops h) ∧
    (∀ id, (t.answer (.finish id) = .ended true ↔ ∃ h, t.state = .running h ∧ h.id = id) ∧
      (t.answer (.finish id) = .ended true ∧ t.apply (.finish id) = { t with state := .idle } ∨
        t.answer (.finish id) = .ended false ∧ t.apply (.finish id) = t)) ∧
    (∀ force, t.apply (.decide force) = t ∧
      (t.answer (.decide force) = .decided .start ↔ ∀ h, ¬ Remains ops h) ∧
      (t.answer (.decide force) = .decided .drop ↔ force = false ∧ ∃ h, Remains ops h) ∧
      ∀ h, t.answer (.decide force) = .decided (.preempt h) ↔ force = true ∧ Remains ops h) ∧
    ∀ line, (t.apply (.kill line)).state = t.state ∧
      (∀ value, (t.apply (.send line value)).state = t.state) ∧
      (t.apply (.release line)).state = t.state := by
  intro t
  have told : ∀ h, t.state = .running h ↔ Remains ops h := fun h => run_state ops
  refine ⟨told, fun id => ⟨?_, ?_⟩, fun force => ⟨rfl, ?_, ?_, fun h => ?_⟩,
    fun line => ⟨rfl, fun value => rfl, rfl⟩⟩
  · rw [answer, Answer.ended.injEq, TaskState.isCurrent_eq_true]
  · cases current : t.state.isCurrent id with
    | true => exact .inl ⟨by rw [answer, current], by simp [apply, TaskState.finish, current]⟩
    | false => exact .inr ⟨by rw [answer, current], by simp [apply, TaskState.finish, current]⟩
  · simp only [answer, Answer.decided.injEq, TaskState.decide_eq_start, ← told, ne_eq]
  · simp only [answer, Answer.decided.injEq, TaskState.decide_eq_drop, ← told]
  · simp only [answer, Answer.decided.injEq, TaskState.decide_eq_preempt, ← told]

/-- A number that is used again, and late calls for the older task: only the line tells the two
apart. -/
example : (run {} [.begin 7 "build", .begin 7 "test", .kill 0, .release 0, .finish 6]).state =
    .running ⟨7, "test", 1⟩ := by decide

end TaskHistory
end BuildRunner
