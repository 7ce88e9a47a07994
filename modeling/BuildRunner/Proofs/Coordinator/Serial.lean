import BuildRunner.Proofs.Coordinator.Launches
import BuildRunner.Proofs.Coordinator.SingleFlight

set_option autoImplicit false

/-! # One call at a time

If somebody calls a coordinator only when all earlier calls have ended, no task is started while a
caller waits for the end of another one. `Serial` says so, and it is kept by every step
(`Serial.step`) and by the next call (`Serial.call`). So single flight does not depend on how many
tasks are started: numbers may come round, for a caller that takes its task out of the state finds
that task there or none (`Serial.tellsApart`).

A caller that stops whatever is running leaves the state idle (`Serial.halts_step`).
-/

namespace BuildRunner

/-- The task that a caller in a stage has aimed at and not yet taken out of the state. -/
def Stage.aim? : Stage → Option TaskHandle
  | .killing _ h | .awaiting _ h | .clearing _ h => some h
  | _ => none

/-- Who aims at a task is on its way, -/
theorem Stage.isEnded_of_aim {s : Stage} {h : TaskHandle} (aims : s.aim? = some h) :
    s.isEnded = false := by
  cases s with
  | killing _ _ | awaiting _ _ | clearing _ _ => rfl
  | probing _ _ | deciding _ | starting _ _ | answered _ | unsignalled _ => cases aims

/-- and so is who starts one. -/
theorem Stage.isEnded_of_isStarting {s : Stage} (starts : s.isStarting = true) : s.isEnded = false := by
  cases s with
  | starting _ _ => rfl
  | probing _ _ | deciding _ | killing _ _ | awaiting _ _ | clearing _ _ | answered _ | unsignalled _ =>
      cases starts

namespace Coordinator

variable {b : Breakdown} {c c' : Coordinator} {a : Action} {o : Option Occurrence} {current : Option Nat}
  {k : Nat} {s : Stage} {h : TaskHandle}

/-- **One call at a time**: all calls have ended but that of the current caller, and the state names
the task that it has aimed at, or none. -/
structure Serial (c : Coordinator) (current : Option Nat) : Prop where
  orderly : c.Orderly
  single : c.Single
  alone : ∀ k s, c.stage? k = some s → s.isEnded = false → current = some k
  aims : ∀ k s h, c.stage? k = some s → s.aim? = some h → c.state = .running h ∨ c.state = .idle

theorem serial_new (tool : Tool) : (new tool).Serial none where
  orderly := orderly_new tool
  single := single_new tool
  alone := by simp [new, stage?]
  aims := by simp [new, stage?]

theorem Serial.tellsApart (hc : c.Serial current) : c.TellsApart := by
  intro k p h h' hk running _
  rcases hc.aims k _ h hk rfl with named | idle
  · exact TaskState.running.inj (running.symm.trans named)
  · rw [running] at idle
    cases idle

/-! ## Who goes on -/

/-- Whoever goes on after a step went on before it, unless it has just come. -/
theorem open_of_step (nobody : ∀ d, a ≠ .call d) (hk : (step b c a).stage? k = some s)
    (open' : s.isEnded = false) : ∃ s₀, c.stage? k = some s₀ ∧ s₀.isEnded = false := by
  cases before : c.stage? k with
  | none =>
      rw [step_stage?_none before nobody] at hk
      cases hk
  | some s₀ =>
      refine ⟨s₀, rfl, (Bool.not_eq_true _).mp fun ended => ?_⟩
      obtain ⟨killed, record⟩ := stage?_eq_some.mp before
      have stays : (step b c a).stage? k = some s₀ :=
        stage?_eq_some.mpr ⟨killed, step_ended record ended a⟩
      obtain rfl := Option.some.inj (stays.symm.trans hk)
      rw [ended] at open'
      cases open'

/-- A caller **aims at a task** only if the state names it, and goes on to aim at the same one. -/
theorem Move.aimed (hm : Move b c o c') (hk : c'.stage? k = some s) (ha : s.aim? = some h) :
    (∃ s₀, c.stage? k = some s₀ ∧ s₀.aim? = some h) ∨ c'.state = .running h := by
  rcases hm.passage hk with before | ⟨d, rfl⟩ | ⟨s₀, before, passes⟩
  · exact .inl ⟨s, before, ha⟩
  · cases d <;> cases ha
  · cases passes with
    | aim running _ aims =>
        obtain rfl := Option.some.inj ha
        rw [aims]
        exact .inr running
    | kill | wake => exact .inl ⟨_, before, ha⟩
    | answer _ | decide | start | launch _ _ | giveUp => cases ha

/-! ## Steps and calls -/

/-- A task is added only while nobody but the caller that starts it goes on. -/
theorem Serial.starting_of_added (hc : c.Serial current) (hm : Move b c o c')
    (added : c.tasks.length < c'.tasks.length) :
    ∃ k r, current = some k ∧ c.stage? k = some (.starting r .launching) := by
  have ht := List.getElem?_eq_getElem added
  rcases hm.task ht with ⟨t, before, -⟩ | ⟨-, k, r, starting, -⟩
  · have := (List.getElem?_eq_some_iff.mp before).1
    omega
  · exact ⟨k, r, hc.alone k _ starting rfl, starting⟩

/-- No task is added while nobody goes on. -/
theorem Serial.length_step (hc : c.Serial none) (b : Breakdown) (a : Action) :
    (Coordinator.step b c a).tasks.length = c.tasks.length := by
  have grows := (step_move b c a).length_le
  have none' : ¬ c.tasks.length < (Coordinator.step b c a).tasks.length := fun added => by
    obtain ⟨k, r, current, -⟩ := hc.starting_of_added (step_move b c a) added
    cases current
  omega

theorem Serial.aims_move (hc : c.Serial current) (hm : Move b c o c') (hk : c'.stage? k = some s)
    (ha : s.aim? = some h) : c'.state = .running h ∨ c'.state = .idle := by
  rcases hm.aimed hk ha with ⟨s₀, before, aimed⟩ | named
  · cases after : c'.state with
    | idle => exact .inr rfl
    | running h' =>
        rcases hm.begin_of_running after with stays | added
        · rcases hc.aims k s₀ h before aimed with named | idle
          · exact .inl (named ▸ stays.symm)
          · rw [idle] at stays
            cases stays
        · -- Whoever starts a task does not aim at another one, and nobody else goes on.
          obtain ⟨j, r, current_eq, starting⟩ := hc.starting_of_added hm added
          have going := Stage.isEnded_of_aim aimed
          have same := (hc.alone k s₀ before going).symm.trans current_eq
          obtain rfl : k = j := Option.some.inj same
          obtain rfl := Option.some.inj (before.symm.trans starting)
          cases aimed
  · exact .inl named

/-- **Every step keeps to one call at a time**, -/
theorem Serial.step (hc : c.Serial current) (b : Breakdown) (nobody : ∀ d, a ≠ .call d) :
    (Coordinator.step b c a).Serial current where
  orderly := hc.orderly.move (step_move b c a)
  single := hc.single.move_of_tellsApart hc.orderly hc.tellsApart (step_move b c a)
  alone k s hk open' := by
    obtain ⟨s₀, before, going⟩ := open_of_step nobody hk open'
    exact hc.alone k s₀ before going
  aims k s h := hc.aims_move (step_move b c a)

/-- and so does the next call. -/
theorem Serial.call (hc : c.Serial none) (d : Demand) :
    (c.call d).Serial (some c.callers.length) where
  orderly := hc.orderly.move (b := .never) (.arrive d)
  single := hc.single.move_of_tellsApart (b := .never) hc.orderly hc.tellsApart (.arrive d)
  alone k s hk open' := by
    obtain ⟨killed, record⟩ := stage?_eq_some.mp hk
    rcases getElem?_concat_eq_some
      (show (c.callers ++ [⟨d.stage, []⟩])[k]? = some _ from record) with before | ⟨rfl, -⟩
    · cases hc.alone k s (stage?_eq_some.mpr ⟨killed, before⟩) open'
    · rfl
  aims k s h := hc.aims_move (b := .never) (.arrive d)

/-- A caller whose call has ended is not current any more. -/
theorem Serial.rest (hc : c.Serial (some k)) (hk : c.stage? k = some s) (ended : s.isEnded = true) :
    c.Serial none where
  orderly := hc.orderly
  single := hc.single
  alone j s' hj open' := by
    obtain rfl : k = j := Option.some.inj (hc.alone j s' hj open')
    obtain rfl := Option.some.inj (hk.symm.trans hj)
    rw [ended] at open'
    cases open'
  aims := hc.aims

/-- Nobody holds the lock but a current caller that starts a task. -/
theorem Serial.free (hc : c.Serial current)
    (other : ∀ k s, current = some k → c.stage? k = some s → s.isStarting = false) :
    c.lock = none := by
  cases held : c.lock with
  | none => rfl
  | some j =>
      have starting := (hc.orderly.holder j).mp held
      obtain ⟨s, hj, hs⟩ := (Option.any_eq_true _ _).mp starting
      have going := Stage.isEnded_of_isStarting hs
      rw [other j s (hc.alone j s hj going) hj] at hs
      cases hs

/-- A current caller that starts no task finds the lock free. -/
theorem Serial.free_of_stage (hc : c.Serial (some k)) (hk : c.stage? k = some s)
    (other : s.isStarting = false) : c.lock = none :=
  hc.free fun j s' same hj => by
    obtain rfl := Option.some.inj same
    obtain rfl := Option.some.inj (hk.symm.trans hj)
    exact other

/-- **An idle state stays idle** unless the current caller launches a process. -/
theorem Serial.idle_step (hc : c.Serial current) (b : Breakdown) (idle : c.state = .idle)
    (quiet : ∀ k r, current = some k → c.stage? k ≠ some (.starting r .launching)) (a : Action) :
    (Coordinator.step b c a).state = .idle := by
  cases after : (Coordinator.step b c a).state with
  | idle => rfl
  | running h =>
      rcases (step_move b c a).begin_of_running after with before | added
      · rw [idle] at before
        cases before
      · obtain ⟨k, r, current_eq, starting⟩ := hc.starting_of_added (step_move b c a) added
        exact absurd starting (quiet k r current_eq)

/-! ## Stopping -/

/-- **A caller halts whatever is running**: it is on its way, or has been answered and nothing is
running. -/
def Halts (c : Coordinator) (k : Nat) : Prop :=
  ∃ s, c.stage? k = some s ∧
    (s.purpose? = some .stop ∨ (∃ any, s = .answered (.stopped any)) ∧ c.state = .idle)

theorem halts_call (c : Coordinator) : (c.call .stop).Halts c.callers.length :=
  ⟨.deciding .stop, by simp [stage?, Coordinator.call, Demand.stage], .inl rfl⟩

/-- A stop that can signal the task it has aimed at **leaves the state idle**. -/
theorem Serial.halts_proceed (hc : c.Serial (some k)) (hk : c.stage? k = some s)
    (purpose : s.purpose? = some .stop) {x : Obstacles} (delivered : x.signal = none) :
    (c.proceed b k x).Halts k := by
  obtain ⟨killed, record⟩ := stage?_eq_some.mp hk
  have waits : c.Halts k := ⟨s, hk, .inl purpose⟩
  have put : ∀ (y : Coordinator) (s' : Stage), y.callers = c.callers →
      (y.setStage k s').stage? k = some s' := fun y s' same =>
    stage?_eq_some.mpr ⟨killed, callers_setStage (same ▸ record) s'⟩
  -- Only the stages of a stop remain; those behind `| starting` have another purpose or none.
  cases s with
  | deciding p =>
      obtain rfl : p = .stop := Option.some.inj purpose
      rw [proceed_of_deciding record (hc.free_of_stage hk rfl)]
      cases named : c.state with
      | idle =>
          rw [show c.decide b k .stop = c.setStage k (.answered (.stopped false)) by
            simp [decide, named, TaskState.current?]]
          exact ⟨_, put c _ rfl, .inr ⟨⟨false, rfl⟩, named⟩⟩
      | running h =>
          rw [decide_of_running named (fun _ other => by cases other)]
          exact ⟨_, put c _ rfl, .inl rfl⟩
  | killing p h =>
      obtain rfl : p = .stop := Option.some.inj purpose
      rw [proceed_of_killing record, delivered]
      refine ⟨.awaiting .stop h, stage?_eq_some.mpr ⟨h.id :: killed, ?_⟩, .inl rfl⟩
      exact List.getElem?_set_self (List.getElem?_eq_some_iff.mp record).1
  | awaiting p h =>
      obtain rfl : p = .stop := Option.some.inj purpose
      rw [proceed_of_awaiting record]
      split
      · exact ⟨_, put c _ rfl, .inl rfl⟩
      · exact waits
  | clearing p h =>
      obtain rfl : p = .stop := Option.some.inj purpose
      rw [proceed_of_clearing record (hc.free_of_stage hk rfl)]
      refine ⟨_, put { c with state := _ } _ rfl, .inr ⟨⟨true, rfl⟩, ?_⟩⟩
      show c.state.finish h.id = .idle
      -- The state can have become idle in the meantime, but names no other task.
      rcases hc.aims k _ h hk rfl with named | idle
      · simp [named, TaskState.finish, TaskState.isCurrent, TaskState.current?]
      · simp [idle, TaskState.finish]
  | starting r n => cases purpose
  | probing dir next => cases purpose
  | answered a => cases purpose
  | unsignalled reason => cases purpose

/-- **A stop goes on to an idle state**, whatever step is taken. -/
theorem Serial.halts_step (hc : c.Serial (some k)) (hs : c.Halts k)
    (delivered : ∀ j x, a = .proceed j x → x.signal = none) :
    (Coordinator.step b c a).Halts k := by
  obtain ⟨s, hk, going | ⟨⟨any, rfl⟩, idle⟩⟩ := hs
  · by_cases own : a.actor? = some (.caller k)
    · obtain ⟨x, rfl⟩ := Action.eq_proceed own
      exact hc.halts_proceed hk going (delivered k x rfl)
    · obtain ⟨killed, record⟩ := stage?_eq_some.mp hk
      exact ⟨s, stage?_eq_some.mpr ⟨killed, step_caller_of_ne record own⟩, .inl going⟩
  · obtain ⟨killed, record⟩ := stage?_eq_some.mp hk
    have stays := step_ended (b := b) record rfl a
    refine ⟨_, stage?_eq_some.mpr ⟨killed, stays⟩, .inr ⟨⟨any, rfl⟩, ?_⟩⟩
    refine hc.idle_step b idle (fun j r same starting => ?_) a
    obtain rfl : k = j := Option.some.inj same
    rw [hk] at starting
    cases starting

/-- What has been stopped is no longer running. -/
theorem Halts.idle (hs : c.Halts k) (hk : c.stage? k = some s) (ended : s.isEnded = true) :
    c.state = .idle := by
  obtain ⟨s', hk', going | ⟨-, idle⟩⟩ := hs
  · obtain rfl := Option.some.inj (hk.symm.trans hk')
    cases s <;> simp [Stage.isEnded, Stage.purpose?] at ended going
  · exact idle

end Coordinator
end BuildRunner
