import BuildRunner.Proofs.Coordinator.Move

set_option autoImplicit false

/-! # What time does to a task

Tasks are never taken away, and a task keeps its handle. A driver that has left the state does
not come back to work, and an end that somebody can learn of stays known: `Task.Follows` says so
of one task, `Coordinator.Grows` of all tasks. `run_grows` holds of every run.
-/

namespace BuildRunner

/-- Whether a driver is **at work**: it has not yet left the state. -/
def Driver.isAtWork : Driver → Bool
  | .following _ | .publishing _ _ | .closing _ _ | .abandoning | .finishing _ => true
  | .signalling _ | .releasing _ | .done _ | .vanished => false

def Driver.result? : Driver → Option TicketResult
  | .finishing r | .signalling r | .releasing r | .done r => some r
  | _ => none

/-- A driver that has left the state has come to a result, unless it is gone without one. -/
theorem Driver.exists_result {d : Driver} (left : d.isAtWork = false) (present : d ≠ .vanished) :
    ∃ r, d.result? = some r := by
  cases d <;> simp_all [Driver.isAtWork, Driver.result?]

namespace Task

/-- **How a task changes** in one step: it is killed, or its driver does something. -/
inductive Change (b : Breakdown) (t : Task) : Task → Prop
  | kill : Change b t t.kill
  | work {calls : List SinkCall} {line : Nat} {o : Option Occurrence} {t' : Task}
      {call : Option SinkCall} (work : t.Work b calls line o t' call) : Change b t t'
  | leave {r : TicketResult} (finishing : t.driver = .finishing r) :
      Change b t { t with driver := .signalling r }
  | signal {r : TicketResult} (signalling : t.driver = .signalling r) :
      Change b t { t with line := t.line.send true, driver := .releasing r }
  | release {r : TicketResult} (releasing : t.driver = .releasing r) :
      Change b t { t with line := t.line.release, driver := .done r }

/-- **What time keeps of a task.** -/
structure Follows (t t' : Task) : Prop where
  handle : t'.handle = t.handle
  atWork : t'.driver.isAtWork = true → t.driver.isAtWork = true
  ended : t.line.isOver = true → t'.line.isOver = true

theorem Follows.refl (t : Task) : t.Follows t := ⟨rfl, fun h => h, fun h => h⟩

theorem Follows.trans {t t' t'' : Task} (h : t.Follows t') (h' : t'.Follows t'') : t.Follows t'' :=
  ⟨h'.handle.trans h.handle, h.atWork ∘ h'.atWork, h'.ended ∘ h.ended⟩

variable {b : Breakdown} {calls : List SinkCall} {line : Nat} {t t' : Task}
  {o : Option Occurrence} {call : Option SinkCall}

@[simp] theorem kill_handle (t : Task) : t.kill.handle = t.handle := by
  unfold kill; split <;> rfl

@[simp] theorem kill_driver (t : Task) : t.kill.driver = t.driver := by
  unfold kill; split <;> rfl

@[simp] theorem kill_isOver (t : Task) : t.kill.line.isOver = t.line.isOver := by
  unfold kill; split <;> rfl

@[simp] theorem kill_directory (t : Task) : t.kill.directory = t.directory := by
  unfold kill; split <;> rfl

@[simp] theorem kill_routing (t : Task) : t.kill.routing = t.routing := by
  unfold kill; split <;> rfl

@[simp] theorem kill_killed (t : Task) : t.kill.line.killed = true := by
  unfold kill
  split
  · assumption
  · rfl

theorem isAtWork_afterRun (t : Task) (elapsed : Elapsed) (r : RunResult) :
    (Coordinator.afterRun t elapsed r).isAtWork = true := by
  unfold Coordinator.afterRun
  split <;> rfl

@[simp] theorem killed_send (l : TaskLine) (value : Bool) : (l.send value).killed = l.killed := by
  unfold TaskLine.send; split <;> rfl

theorem isOver_send (l : TaskLine) : l.isOver = true → (l.send true).isOver = true := by
  unfold TaskLine.send TaskLine.isOver
  cases hh : l.held <;> simp [hh]

theorem isOver_release (l : TaskLine) : l.release.isOver = true := by
  simp [TaskLine.release, TaskLine.isOver]

/-- Work begins and ends with a driver at work. -/
theorem Work.isAtWork (h : t.Work b calls line o t' call) :
    t.driver.isAtWork = true ∧ t'.driver.isAtWork = true := by
  cases h with
  | ended elapsed following _ _ =>
      exact ⟨by simp [following, Driver.isAtWork], isAtWork_afterRun _ _ _⟩
  | _ => simp_all [Driver.isAtWork]

/-- Work says nothing on the line to the task. -/
theorem Work.isOver (h : t.Work b calls line o t' call) : t'.line.isOver = t.line.isOver := by
  cases h <;> simp

theorem Work.handle (h : t.Work b calls line o t' call) : t'.handle = t.handle := by
  cases h <;> simp

theorem Change.follows (h : t.Change b t') : t.Follows t' := by
  cases h with
  | kill => exact ⟨by simp, by simp, by simp⟩
  | work work => exact ⟨work.handle, fun _ => work.isAtWork.1, fun ho => work.isOver.trans ho⟩
  | leave _ => exact ⟨rfl, by simp [Driver.isAtWork], fun ho => ho⟩
  | signal _ => exact ⟨rfl, by simp [Driver.isAtWork], isOver_send _⟩
  | release _ => exact ⟨rfl, by simp [Driver.isAtWork], fun _ => isOver_release _⟩

/-- A task that was killed stays killed. -/
theorem Change.killed (h : t.Change b t') (hk : t.line.killed = true) : t'.line.killed = true := by
  cases h with
  | kill => exact kill_killed t
  | work work =>
      cases work with
      | abandon _ => exact kill_killed t
      | _ => exact hk
  | leave _ | release _ => exact hk
  | signal _ => exact (killed_send _ _).trans hk

/-- No step makes a driver vanish, -/
theorem Change.present (h : t.Change b t') (present : t.driver ≠ .vanished) :
    t'.driver ≠ .vanished := by
  cases h with
  | kill => rwa [kill_driver]
  | work work =>
      intro gone
      have working := work.isAtWork.2
      rw [gone] at working
      cases working
  | leave _ | signal _ | release _ => nofun

/-- and a result that was handed over stays. -/
theorem Change.done (h : t.Change b t') {r : TicketResult} (hd : t.driver = .done r) :
    t'.driver = .done r := by
  cases h with
  | kill => rwa [kill_driver]
  | work work =>
      have working := work.isAtWork.1
      rw [hd] at working
      cases working
  | leave other | signal other | release other =>
      rw [hd] at other
      cases other

end Task

namespace Coordinator

variable {b : Breakdown} {c c' c'' : Coordinator} {o : Option Occurrence} {i line : Nat}
  {t t' : Task}

theorem getElem?_set_tasks (ht : c.tasks[line]? = some t) :
    (c.tasks.set line t')[i]? = if i = line then some t' else c.tasks[i]? := by
  have hlt := (List.getElem?_eq_some_iff.mp ht).1
  by_cases hi : i = line
  · subst hi
    simp [hlt]
  · simp [hi, List.getElem?_set_ne (Ne.symm hi)]

theorem set_task (ht : c.tasks[line]? = some t) : (c.tasks.set line t')[line]? = some t' :=
  (getElem?_set_tasks ht).trans (if_pos rfl)

/-- An element of a list that has grown by one was there or is the new one. -/
theorem getElem?_concat_eq_some {α : Type} {xs : List α} {x y : α}
    (h : (xs ++ [x])[i]? = some y) : xs[i]? = some y ∨ (i = xs.length ∧ y = x) := by
  by_cases hi : i < xs.length
  · rw [List.getElem?_append_left hi] at h
    exact .inl h
  · rw [List.getElem?_append_right (by omega), List.getElem?_singleton] at h
    split at h
    · exact .inr ⟨by omega, (Option.some.inj h).symm⟩
    · cases h

/-- **Where a task comes from**: it was there and has changed at most once, or it has just been
launched. -/
theorem Move.task (hm : Move b c o c') (h : c'.tasks[i]? = some t') :
    (∃ t, c.tasks[i]? = some t ∧ (t' = t ∨ t.Change b t')) ∨
    (i = c.tasks.length ∧ ∃ k r, c.stage? k = some (.starting r .launching) ∧
      t' = c.newTask r ∧ c' = (c.register r).unlock k (.started c.nextId c.tasks.length)) := by
  -- A move that replaces a task leaves all others in their places.
  have put : ∀ {line : Nat} {t t'' : Task}, c.tasks[line]? = some t → t.Change b t'' →
      (c.tasks.set line t'')[i]? = some t' →
      ∃ t, c.tasks[i]? = some t ∧ (t' = t ∨ t.Change b t') := by
    intro line t t'' ht hc h
    rw [getElem?_set_tasks ht] at h
    split at h
    · rename_i hi
      exact ⟨t, hi ▸ ht, .inr (Option.some.inj h ▸ hc)⟩
    · exact ⟨t', h, .inl rfl⟩
  cases hm with
  | launch starting =>
      rename_i k r
      rcases getElem?_concat_eq_some (show (c.tasks ++ [c.newTask r])[i]? = some t' from h) with
        h | ⟨hi, rfl⟩
      · exact .inl ⟨t', h, .inl rfl⟩
      · exact .inr ⟨hi, k, r, starting, rfl, rfl⟩
  | kill signal killing =>
      rename_i h' _
      have h : (c.tasks.modify h'.line Task.kill)[i]? = some t' := h
      rw [List.getElem?_modify] at h
      obtain ⟨t, ht, rfl⟩ := Option.map_eq_some_iff.mp h
      refine .inl ⟨t, ht, ?_⟩
      split
      · exact .inr .kill
      · exact .inl rfl
  | work task work => exact .inl (put task (.work work) h)
  | finish task finishing _ => exact .inl (put task (.leave finishing) h)
  | signal task signalling => exact .inl (put task (.signal signalling) h)
  | release task releasing => exact .inl (put task (.release releasing) h)
  | _ => exact .inl ⟨t', h, .inl rfl⟩

/-- **Tasks only grow**: every task is still there, and follows what it was. -/
def Grows (c c' : Coordinator) : Prop :=
  ∀ (i : Nat) (t : Task), c.tasks[i]? = some t → ∃ t' : Task, c'.tasks[i]? = some t' ∧ t.Follows t'

theorem Grows.refl (c : Coordinator) : c.Grows c := fun _ t ht => ⟨t, ht, .refl t⟩

theorem Grows.trans (h : c.Grows c') (h' : c'.Grows c'') : c.Grows c'' := by
  intro i t ht
  obtain ⟨t', ht', hf⟩ := h i t ht
  obtain ⟨t'', ht'', hf'⟩ := h' i t' ht'
  exact ⟨t'', ht'', hf.trans hf'⟩

theorem Grows.length_le (h : c.Grows c') : c.tasks.length ≤ c'.tasks.length := by
  cases hn : c.tasks.length with
  | zero => omega
  | succ n =>
      have ht := List.getElem?_eq_getElem (show n < c.tasks.length by omega)
      obtain ⟨t', ht', -⟩ := h n _ ht
      exact (List.getElem?_eq_some_iff.mp ht').1

/-- A move takes no task away. -/
theorem Move.length_le (hm : Move b c o c') : c.tasks.length ≤ c'.tasks.length := by
  cases hm <;> simp [call, setStage, put, unlock, register]

/-- A move leaves the tool as it is. -/
theorem Move.tool (hm : Move b c o c') : c'.tool = c.tool := by
  cases hm <;> rfl

theorem Move.grows (hm : Move b c o c') : c.Grows c' := by
  intro i t ht
  have hlt := (List.getElem?_eq_some_iff.mp ht).1
  have ht' := List.getElem?_eq_getElem (Nat.lt_of_lt_of_le hlt hm.length_le)
  rcases hm.task ht' with ⟨x, hx, rest⟩ | ⟨hi, -⟩
  · obtain rfl := Option.some.inj (ht.symm.trans hx)
    refine ⟨_, ht', ?_⟩
    rcases rest with same | change
    · exact same ▸ .refl t
    · exact change.follows
  · omega

/-! ## Ends of tasks -/

/-- **A task has ended by itself**: its driver has come to a report, which says so. -/
structure Exited (c : Coordinator) (i : Nat) (t : Task) (x : TaskReport) : Prop where
  task : c.tasks[i]? = some t
  report : t.driver.result? = some (.report x)
  exited : x.isCancelled = false

def hasExited (c : Coordinator) (i : Nat) (dir : String) : Bool :=
  (c.tasks[i]?).any fun t => t.directory = dir ∧
    t.driver.result?.any fun
      | .report x => !x.isCancelled
      | .failed _ => false

theorem exists_exited {i : Nat} {dir : String} (h : c.hasExited i dir = true) :
    ∃ t x, c.Exited i t x ∧ t.directory = dir := by
  obtain ⟨t, ht, h⟩ := (Option.any_eq_true _ _).mp h
  obtain ⟨directory, result⟩ := of_decide_eq_true h
  obtain ⟨r, hr, h⟩ := (Option.any_eq_true _ _).mp result
  cases r with
  | report x => exact ⟨t, x, ⟨ht, hr, by simpa using h⟩, directory⟩
  | failed e => cases h

/-! ## Runs -/

theorem run_append (b : Breakdown) (c : Coordinator) (as as' : List Action) :
    run b c (as ++ as') = run b (run b c as) as' := by
  simp [run]

/-- What every move keeps holds after every run. -/
theorem run_induction {P : Coordinator → Prop} (hstep : ∀ c o c', Move b c o c' → P c → P c')
    (hc : P c) (as : List Action) : P (run b c as) := by
  induction as generalizing c with
  | nil => exact hc
  | cons a as ih => exact ih (hstep c _ _ (step_move b c a) hc)

theorem run_grows (b : Breakdown) (c : Coordinator) (as : List Action) : c.Grows (run b c as) :=
  run_induction (fun _ _ _ hm hg => hg.trans hm.grows) (.refl c) as

/-- Every driver that has been there is still there. -/
theorem run_present (tool : Tool) (b : Breakdown) (as : List Action) :
    ∀ t ∈ (run b (new tool) as).tasks, t.driver ≠ .vanished :=
  run_induction (P := fun c => ∀ t ∈ c.tasks, t.driver ≠ .vanished)
    (fun c o c' hm present t' ht' => by
      obtain ⟨i, hi⟩ := List.mem_iff_getElem?.mp ht'
      rcases hm.task hi with ⟨t, ht, rfl | change⟩ | ⟨-, k, r, -, rfl, -⟩
      · exact present t' (List.mem_of_getElem? ht)
      · exact change.present (present t (List.mem_of_getElem? ht))
      · exact nofun)
    (by simp [new]) as

theorem run_tool (b : Breakdown) (c : Coordinator) (as : List Action) :
    (run b c as).tool = c.tool :=
  run_induction (P := fun x => x.tool = c.tool) (fun _ _ _ hm h => hm.tool.trans h) rfl as

end Coordinator
end BuildRunner
