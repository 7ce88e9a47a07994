import BuildRunner.Proofs.Coordinator.SingleFlight

set_option autoImplicit false

/-! # Waiting for a task

Whoever learns that a task is over learns it late: from the line to the task, from its ticket, or
from the wait of a caller that has killed it. By then the task has left the state for good, and a
caller that takes it out of the state once more, however late, does no harm to a newer task.
-/

namespace BuildRunner

/-- Whether the **end of a task can be learnt**: its line tells, or its ticket has a result. -/
def Task.isKnownOver (t : Task) : Bool := t.line.isOver || t.result?.isSome

namespace Coordinator

/-- A task **has left the state**: the state does not name it, nor any task of its number as long as
numbers tell tasks apart. -/
def HasLeft (c : Coordinator) (h : TaskHandle) : Prop :=
  c.state ≠ .running h ∧ (c.tasks.length < UInt64.size → c.state.isCurrent h.id = false)

variable {b : Breakdown} {c c' : Coordinator} {o : Option Occurrence} {i k : Nat} {t t' : Task}
  {p : Purpose} {h : TaskHandle}

/-- A driver that is not at work any more has left the state. -/
theorem Orderly.hasLeft (hc : c.Orderly) (ht : c.tasks[i]? = some t)
    (hw : t.driver.isAtWork = false) : c.HasLeft t.handle := by
  refine ⟨fun hs => hc.line_ne ht hw hs (hc.numbered i t ht).1, fun hn => ?_⟩
  rw [← Bool.not_eq_true, TaskState.isCurrent_eq_true]
  rintro ⟨h, hs, hid⟩
  -- The task in the state has the same number, so it has the same line.
  obtain ⟨x, hx, rfl, -⟩ := hc.running h hs
  exact hc.line_ne ht hw hs (hc.eq_of_id_eq hn hx ht hid)

/-- What has left the state stays out of it. -/
theorem Orderly.hasLeft_of_grows (hc' : c'.Orderly) (hg : c.Grows c') (ht : c.tasks[i]? = some t)
    (hw : t.driver.isAtWork = false) : c'.HasLeft t.handle := by
  obtain ⟨t', ht', hf⟩ := hg i t ht
  rw [← hf.handle]
  refine hc'.hasLeft ht' ?_
  cases hw' : t'.driver.isAtWork with
  | false => rfl
  | true => exact absurd (hf.atWork hw') (by simp [hw])

/-- A driver leaves the state before anybody can learn of the end of its task. -/
theorem Orderly.not_isAtWork_of_known (hc : c.Orderly) (ht : c.tasks[i]? = some t)
    (hk : t.isKnownOver = true) : t.driver.isAtWork = false := by
  rcases (Bool.or_eq_true _ _).mp hk with ended | result
  · exact hc.ends i t ht ended
  · cases hd : t.driver with
    | done r => rfl
    | _ => simp [Task.result?, hd] at result

/-- The step that makes the end known is a step of a driver that has left the state. -/
theorem not_isAtWork_of_change (hc : t.Change b t') (hk : t.isKnownOver = false)
    (hk' : t'.isKnownOver = true) : t.driver.isAtWork = false := by
  obtain ⟨open', -⟩ := (Bool.or_eq_false_iff).mp hk
  cases hc with
  | kill =>
      have same : t.kill.isKnownOver = t.isKnownOver := by simp [Task.isKnownOver, Task.result?]
      rw [same, hk] at hk'
      cases hk'
  | work work =>
      rcases (Bool.or_eq_true _ _).mp hk' with ended | result
      · rw [work.isOver, open'] at ended
        cases ended
      · have hw := work.isAtWork.2
        cases hd : t'.driver <;> simp [Task.result?, hd] at result
        simp [hd, Driver.isAtWork] at hw
  | leave _ => simp [Task.isKnownOver, Task.result?, open'] at hk'
  | signal signalling => simp [signalling, Driver.isAtWork]
  | release releasing => simp [releasing, Driver.isAtWork]

theorem not_isAtWork_of_move (hm : Move b c o c') (ht : c.tasks[i]? = some t)
    (ht' : c'.tasks[i]? = some t') (hk : t.isKnownOver = false) (hk' : t'.isKnownOver = true) :
    t.driver.isAtWork = false := by
  rcases hm.task ht' with ⟨x, hx, same | change⟩ | ⟨hi, -⟩
  · rw [ht] at hx
    obtain rfl := Option.some.inj hx
    rw [same, hk] at hk'
    cases hk'
  · rw [ht] at hx
    obtain rfl := Option.some.inj hx
    exact not_isAtWork_of_change change hk hk'
  · have hlt := (List.getElem?_eq_some_iff.mp ht).1
    omega

/-- A caller that was told that it has stopped a task has killed that task, which is over. -/
theorem Orderly.stopped (hc : c.Orderly) {killed : List TaskId}
    (hk : c.callers[k]? = some ⟨.answered (.stopped true), killed⟩) :
    ∃ (i : Nat) (t : Task), c.tasks[i]? = some t ∧ t.driver.isAtWork = false ∧ killed = [t.id] := by
  obtain ⟨t, ht, ended, hid⟩ := hc.callers k _ hk
  obtain ⟨i, hi⟩ := List.mem_iff_getElem?.mp ht
  exact ⟨i, t, hi, hc.ends i t hi ended, hid⟩

/-- A caller that takes a task out of the state leaves any task of another number there. -/
theorem step_clearing (hk : c.stage? k = some (.clearing p h)) (o : Obstacles)
    (hs : c.state.isCurrent h.id = false) : (step b c (.proceed k o)).state = c.state := by
  obtain ⟨killed, hkilled⟩ := stage?_eq_some.mp hk
  simp only [step, proceed, hkilled]
  split
  · rfl
  · simp [setStage, TaskState.finish, hs]

/-- **Nobody wakes early, and nobody who wakes late harms a newer task**, over every run `as` and
every continuation `as'` of it.

When the line to a task or its ticket comes to tell that the task is over, the task has left the
state already. From then on it is out of the state, just as it is from the moment at which the wait
of a caller for it ends, or at which a caller is told that it has stopped it. A caller that has
waited changes nothing when it takes its task out of the state while a task of another number runs;
as long as numbers tell tasks apart, it never changes anything. -/
theorem waiters_wake_late (tool : Tool) (b : Breakdown) (as as' : List Action) :
    let c := run b (new tool) as
    let c' := run b c as'
    (∀ (a : Action) (i : Nat) (t t' : Task), c.tasks[i]? = some t →
      (step b c a).tasks[i]? = some t' → t.isKnownOver = false → t'.isKnownOver = true →
      c.HasLeft t.handle ∧ (step b c a).HasLeft t.handle) ∧
    (∀ t ∈ c.tasks, t.isKnownOver = true → c'.HasLeft t.handle) ∧
    (∀ (k : Nat) (p : Purpose) (h : TaskHandle), c.stage? k = some (.clearing p h) →
      c'.HasLeft h) ∧
    (∀ (k : Nat) (killed : List TaskId),
      c.callers[k]? = some ⟨.answered (.stopped true), killed⟩ →
      ∃ t ∈ c.tasks, killed = [t.id] ∧ c'.HasLeft t.handle) ∧
    (∀ (k : Nat) (p : Purpose) (h : TaskHandle) (o : Obstacles),
      c.stage? k = some (.clearing p h) →
      (∀ h', c.state = .running h' → h'.id ≠ h.id →
        (step b c (.proceed k o)).state = .running h') ∧
      (c.tasks.length < UInt64.size → (step b c (.proceed k o)).state = c.state)) := by
  intro c c'
  have hc : c.Orderly := run_orderly tool b as
  have hg : c.Grows c' := run_grows b c as'
  have hc' : c'.Orderly := run_induction (fun _ _ _ hm hc => hc.move hm) hc as'
  refine ⟨?_, ?_, ?_, ?_, ?_⟩
  · -- The step that makes the end known is one of the driver that has left the state before.
    intro a i t t' ht ht' hk hk'
    have hm := step_move b c a
    have hw := not_isAtWork_of_move hm ht ht' hk hk'
    exact ⟨hc.hasLeft ht hw, (hc.move hm).hasLeft_of_grows hm.grows ht hw⟩
  · intro t ht hk
    obtain ⟨i, hi⟩ := List.mem_iff_getElem?.mp ht
    exact hc'.hasLeft_of_grows hg hi (hc.not_isAtWork_of_known hi hk)
  · intro k p h hk
    obtain ⟨t, ht, rfl, hw⟩ := hc.not_isAtWork_of_clearing hk
    exact hc'.hasLeft_of_grows hg ht hw
  · intro k killed hk
    obtain ⟨i, t, ht, hw, hid⟩ := hc.stopped hk
    exact ⟨t, List.mem_of_getElem? ht, hid, hc'.hasLeft_of_grows hg ht hw⟩
  · intro k p h o hk
    constructor
    · -- The number protects the newer task, however many starts there were.
      intro h' hs hne
      rw [step_clearing hk o (by simp [hs, TaskState.isCurrent, TaskState.current?, hne]), hs]
    · intro hn
      obtain ⟨t, ht, rfl, hw⟩ := hc.not_isAtWork_of_clearing hk
      exact step_clearing hk o ((hc.hasLeft ht hw).2 hn)

end Coordinator
end BuildRunner
