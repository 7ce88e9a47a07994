import BuildRunner.Proofs.Coordinator.Order

set_option autoImplicit false

/-! # Single flight

At most one driver is at work, and the state names its task. This holds as long as numbers tell
tasks apart, that is for fewer than `2^64` starts: a caller that takes the task it has waited for
out of the state finds it by its number. `single_flight` says this of every run, and with it that
a task enters an idle state only, that numbers grow, and that a dropped request changes nothing.
-/

namespace BuildRunner.Coordinator

variable {b : Breakdown} {c c' : Coordinator} {o : Option Occurrence} {i j : Nat} {t t' : Task}

/-- **Single flight**: the state names every task whose driver is at work. -/
def Single (c : Coordinator) : Prop :=
  ∀ (i : Nat) (t : Task), c.tasks[i]? = some t → t.driver.isAtWork = true →
    c.state = .running t.handle

/-- Fewer than `2^64` tasks are told apart by their numbers. -/
theorem Orderly.toNat_id (hc : c.Orderly) (hn : c.tasks.length < UInt64.size)
    (ht : c.tasks[i]? = some t) : t.id.toNat = i + 1 := by
  have hlt := (List.getElem?_eq_some_iff.mp ht).1
  rw [(hc.numbered i t ht).2]
  exact UInt64.toNat_ofNat_of_lt' (show i + 1 < UInt64.size by omega)

theorem Orderly.eq_of_id_eq (hc : c.Orderly) (hn : c.tasks.length < UInt64.size)
    (ht : c.tasks[i]? = some t) (ht' : c.tasks[j]? = some t') (h : t.id = t'.id) : i = j := by
  have hi := hc.toNat_id hn ht
  have hj := hc.toNat_id hn ht'
  rw [h] at hi
  omega

/-- The task that a caller takes out of the state is not at work any more. -/
theorem Orderly.not_isAtWork_of_clearing (hc : c.Orderly) {k : Nat} {p : Purpose} {h : TaskHandle}
    (hk : c.stage? k = some (.clearing p h)) :
    ∃ t, c.tasks[h.line]? = some t ∧ t.handle = h ∧ t.driver.isAtWork = false := by
  obtain ⟨killed, hkilled⟩ := stage?_eq_some.mp hk
  obtain ⟨⟨t, ht, hh⟩, ho, -⟩ := hc.callers k _ hkilled
  refine ⟨t, ht, hh, hc.ends _ t ht ?_⟩
  simpa [isOver, ht] using ho

/-- **Numbers tell the running task apart** from the tasks that callers take out of the state. -/
def TellsApart (c : Coordinator) : Prop :=
  ∀ (k : Nat) (p : Purpose) (h h' : TaskHandle), c.stage? k = some (.clearing p h) →
    c.state = .running h' → h'.id = h.id → h' = h

/-- Fewer than `2^64` tasks are always told apart. -/
theorem Orderly.tellsApart (hc : c.Orderly) (hn : c.tasks.length < UInt64.size) : c.TellsApart := by
  intro k p h h' hk running hid
  obtain ⟨t, ht, rfl, -⟩ := hc.not_isAtWork_of_clearing hk
  obtain ⟨t', ht', rfl, -⟩ := hc.running h' running
  have hlines := hc.eq_of_id_eq hn ht' ht hid
  rw [hlines, ht] at ht'
  rw [Option.some.inj ht']

/-- At most one driver is at work. -/
theorem Single.eq_of_isAtWork (hs : c.Single) (hc : c.Orderly) (ht : c.tasks[i]? = some t)
    (ht' : c.tasks[j]? = some t') (hw : t.driver.isAtWork = true) (hw' : t'.driver.isAtWork = true) :
    i = j := by
  have named := (hs i t ht hw).symm.trans (hs j t' ht' hw')
  have hlines : t.handle.line = t'.handle.line := by rw [TaskState.running.inj named]
  rwa [(hc.numbered i t ht).1, (hc.numbered j t' ht').1] at hlines

theorem Single.move_of_tellsApart (hs : c.Single) (hc : c.Orderly) (apart : c.TellsApart)
    (hm : Move b c o c') : c'.Single := by
  intro i t' ht' hw
  -- A task at work was at work before, or it has just been launched and is in the state.
  rcases hm.task ht' with ⟨t, ht, rest⟩ | ⟨-, k, r, -, rfl, rfl⟩
  · have hf : t.Follows t' := by
      rcases rest with rfl | change
      · exact .refl t'
      · exact change.follows
    have running := hs i t ht (hf.atWork hw)
    rw [hf.handle]
    cases hm with
    | launch hk =>
        -- The state is idle while a caller starts a task, so no task was at work.
        rw [(hc.idle_of_starting hk).2] at running
        cases running
    | clear hk free =>
        -- The caller has waited for a task that is over, so it is another one.
        refine TaskState.finish_eq_running.mpr ⟨running, fun hid => ?_⟩
        obtain ⟨x, hx, hxh, hxw⟩ := hc.not_isAtWork_of_clearing hk
        obtain rfl := apart _ _ _ _ hk running hid
        rw [(hc.numbered i t ht).1, ht] at hx
        obtain rfl := Option.some.inj hx
        simp [hf.atWork hw] at hxw
    | finish task finishing free =>
        rename_i line x r
        -- Both tasks were at work, so they are one, and it has just left the state.
        obtain rfl : i = line :=
          hs.eq_of_isAtWork hc ht task (hf.atWork hw) (by simp [finishing, Driver.isAtWork])
        have ht' : (c.tasks.set i { x with driver := .signalling r })[i]? = some t' := ht'
        rw [getElem?_set_tasks task] at ht'
        simp only [if_true, Option.some.injEq] at ht'
        subst ht'
        cases hw
    | _ => exact running
  · rfl

theorem Single.move (hs : c.Single) (hc : c.Orderly) (hn : c.tasks.length < UInt64.size)
    (hm : Move b c o c') : c'.Single :=
  hs.move_of_tellsApart hc (hc.tellsApart hn) hm

theorem single_new (tool : Tool) : (new tool).Single := by
  simp [Single, new]

theorem Single.run (hs : c.Single) (hc : c.Orderly) (as : List Action)
    (hn : (Coordinator.run b c as).tasks.length < UInt64.size) : (Coordinator.run b c as).Single := by
  have h := run_induction (b := b)
    (P := fun c => c.Orderly ∧ (c.tasks.length < UInt64.size → c.Single))
    (fun c o c' hm hc => ?_) ⟨hc, fun _ => hs⟩ as
  · exact h.2 hn
  · refine ⟨hc.1.move hm, fun hn => ?_⟩
    have hn' := Nat.lt_of_le_of_lt hm.length_le hn
    exact (hc.2 hn').move hc.1 hn' hm

/-- Single flight holds after every run with fewer than `2^64` starts. -/
theorem run_single (tool : Tool) (b : Breakdown) (as : List Action)
    (hn : (run b (new tool) as).tasks.length < UInt64.size) : (run b (new tool) as).Single :=
  (single_new tool).run (orderly_new tool) as hn

/-! ## Steps into the state -/

/-- A task enters the state only while the state is idle. -/
theorem Orderly.idle_of_begin (hc : c.Orderly) (hm : Move b c o c')
    (h : c.tasks.length < c'.tasks.length) :
    c.state = .idle ∧ ∃ t, c'.tasks = c.tasks ++ [t] ∧ c'.state = .running t.handle := by
  cases hm with
  | launch hk => exact ⟨(hc.idle_of_starting hk).2, c.newTask _, rfl, rfl⟩
  | kill _ _ => simp at h
  | work _ _ | finish _ _ _ | signal _ _ | release _ _ => simp [put] at h
  | _ => exact absurd h (Nat.lt_irrefl _)

/-- The state comes to name a task only when that task enters it. -/
theorem Move.begin_of_running {h : TaskHandle} (hm : Move b c o c') (hs : c'.state = .running h) :
    c.state = .running h ∨ c.tasks.length < c'.tasks.length := by
  cases hm with
  | launch _ =>
      refine .inr ?_
      show c.tasks.length < (c.tasks ++ [_]).length
      simp
  | clear _ _ | finish _ _ _ => exact .inl (TaskState.finish_eq_running.mp hs).1
  | _ => exact .inl hs

theorem Orderly.pairwise_id (hc : c.Orderly) (hn : c.tasks.length < UInt64.size) :
    (c.tasks.map Task.id).Pairwise (· < ·) := by
  rw [List.pairwise_map, List.pairwise_iff_getElem]
  intro i j hi hj hij
  rw [UInt64.lt_iff_toNat_lt, hc.toNat_id hn (List.getElem?_eq_getElem hi),
    hc.toNat_id hn (List.getElem?_eq_getElem hj)]
  omega

theorem step_drop {k : Nat} {r : TaskRequest} (o : Obstacles)
    (hk : c.stage? k = some (.deciding (.invoke r))) (hf : r.force = false) (free : c.lock = none)
    (running : c.state.isRunning = true) :
    step b c (.proceed k o) = c.setStage k (.answered .dropped) := by
  obtain ⟨killed, hkilled⟩ := stage?_eq_some.mp hk
  cases hs : c.state with
  | idle => simp [hs, TaskState.isRunning, TaskState.current?] at running
  | running h =>
      simp [step, proceed, hkilled, isLocked, free, decide, hs, TaskState.decide, hf]

/-! ## Every run -/

/-- **Single flight over every run.** Callers and drivers may take their steps in any order, and any
sink may break down at any call.

A task enters the state only while the state is idle, and nothing else makes the state name a
task. At most one driver is at work, and the state names a task exactly if its driver is at work.
Later tasks have greater numbers. A request that is not forced and is decided while a task runs is
dropped, and nothing changes but that its caller is told so. -/
theorem single_flight (tool : Tool) (b : Breakdown) (as : List Action)
    (hn : (run b (new tool) as).tasks.length < UInt64.size) :
    let c := run b (new tool) as
    (∀ a, c.tasks.length < (step b c a).tasks.length →
      c.state = .idle ∧
        ∃ t, (step b c a).tasks = c.tasks ++ [t] ∧ (step b c a).state = .running t.handle) ∧
    (∀ a h, (step b c a).state = .running h →
      c.state = .running h ∨ c.tasks.length < (step b c a).tasks.length) ∧
    (∀ (i j : Nat) (t t' : Task), c.tasks[i]? = some t → c.tasks[j]? = some t' →
      t.driver.isAtWork = true → t'.driver.isAtWork = true → i = j) ∧
    (∀ h, c.state = .running h ↔ ∃ t ∈ c.tasks, t.driver.isAtWork = true ∧ t.handle = h) ∧
    (c.tasks.map Task.id).Pairwise (· < ·) ∧
    (∀ (k : Nat) (r : TaskRequest) (o : Obstacles), c.stage? k = some (.deciding (.invoke r)) →
      r.force = false → c.lock = none → c.state.isRunning = true →
      step b c (.proceed k o) = c.setStage k (.answered .dropped)) := by
  intro c
  have hc : c.Orderly := run_orderly tool b as
  have hs : c.Single := run_single tool b as hn
  refine ⟨fun a h => hc.idle_of_begin (step_move b c a) h,
    fun a h hr => (step_move b c a).begin_of_running hr, fun i j t t' => hs.eq_of_isAtWork hc, ?_,
    hc.pairwise_id hn, fun k r o => step_drop o⟩
  intro h
  constructor
  · intro hr
    obtain ⟨t, ht, hh, hw⟩ := hc.running h hr
    exact ⟨t, List.mem_of_getElem? ht, hw, hh⟩
  · rintro ⟨t, ht, hw, rfl⟩
    obtain ⟨i, hi⟩ := List.mem_iff_getElem?.mp ht
    exact hs i t hi hw

def cargo : Tool := { program := "cargo" }

/-- A forced request makes a running task end, and starts its own. -/
def preemption : List Action :=
  let go (k : Nat) : Action := .proceed k {}
  let offer (o : Offer) : Action := .drive 0 o (.ofMicros 0)
  [.call (.invoke { command := "build", workingDirectory := "/w" }),
    .call (.invoke { command := "test", workingDirectory := "/w", force := true }),
    go 0, go 0, go 0, offer { arrival := .line (.error "warming up") }, go 1, go 1,
    offer {}, offer { exit := .exited none }, offer { arrival := .ended },
    offer {}, offer {}, offer {}, go 1, go 1, go 1, go 1, go 1]

theorem single_flight_preemption :
    (run .never (new cargo) preemption).tasks.length = 2 ∧
      ((run .never (new cargo) preemption).tasks.map Task.id).Pairwise (· < ·) :=
  ⟨by decide, (single_flight cargo .never preemption (by decide)).2.2.2.2.1⟩

end BuildRunner.Coordinator
