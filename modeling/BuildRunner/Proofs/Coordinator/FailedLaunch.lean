import BuildRunner.Proofs.Coordinator.Caller
import BuildRunner.Proofs.Coordinator.Flights

set_option autoImplicit false

/-! # Failed launches

A caller that starts a request holds the lock on an idle state, so no driver is at work and nobody
else calls a sink: `Begins` says what the coordinator then is, up to the calls that the caller has
made itself, and `Begins.others` that everybody else leaves this as it is. So what a failed launch
leaves behind are the calls of its own caller: diagnostics are cleared, the start is announced, and
the user is told.
-/

namespace BuildRunner.Coordinator

variable {b : Breakdown} {c c₀ : Coordinator} {k : Nat} {r : TaskRequest} {killed : List TaskId}
  {n : Starting} {calls : List SinkCall} {e : LaunchError} {a : Action}

/-! ## While a caller starts a request -/

/-- **A request begins**: its caller has got to a stage of its start, and has made some calls since
the coordinator was `c₀`; nothing else has happened to what starts depend on. -/
structure Begins (c₀ : Coordinator) (k : Nat) (r : TaskRequest) (n : Starting)
    (calls : List SinkCall) (c : Coordinator) : Prop where
  caller : c.stage? k = some (.starting r n)
  orderly : c.Orderly
  single : c.Single
  few : c.tasks.length < UInt64.size
  tasks : c.tasks.length = c₀.tasks.length
  nextId : c.nextId = c₀.nextId
  tool : c.tool = c₀.tool
  calls : c.calls = calls ++ c₀.calls

namespace Begins

/-- **Nobody else has a part in it**: others wait for the lock, and no driver is at work. -/
theorem other (h : Begins c₀ k r n calls c) (ha : a.actor? ≠ some (.caller k)) :
    Begins c₀ k r n calls (step b c a) := by
  obtain ⟨holds, idle⟩ := h.orderly.idle_of_starting h.caller
  obtain ⟨killed, there⟩ := stage?_eq_some.mp h.caller
  have stays := step_caller_of_ne (b := b) there ha
  have hm := step_move b c a
  generalize step b c a = c', c.occurrence? a = o at stays hm
  have same : c'.tasks.length = c.tasks.length ∧ c'.nextId = c.nextId ∧ c'.calls = c.calls := by
    -- The lock is held by `k` alone, and a step of its own would have changed its stage.
    have own {j : Nat} {r' : TaskRequest} {n' : Starting}
        (hj : c.stage? j = some (.starting r' n')) : j = k ∧ n' = n := by
      have lock := (h.orderly.idle_of_starting hj).1
      obtain rfl : k = j := Option.some.inj (holds.symm.trans lock)
      rw [h.caller] at hj
      cases hj
      exact ⟨rfl, rfl⟩
    cases hm with
    | rest | arrive _ | probe _ _ | learn _ _ | wake _ _ => exact ⟨rfl, rfl, rfl⟩
    | drop _ free _ _ | pass _ free _ | aim _ free _ _ | engage _ free _ _ | brokenEngage _ free _ _
    | clear _ free | finish _ _ free =>
        rw [holds] at free
        cases free
    | kill _ _ => exact ⟨List.length_modify .., rfl, rfl⟩
    | work task work =>
        have running := h.single _ _ task work.isAtWork.1
        rw [idle] at running
        cases running
    | signal _ _ | release _ _ => exact ⟨List.length_set, rfl, rfl⟩
    | announce starting _ =>
        obtain ⟨rfl, rfl⟩ := own starting
        cases stays.symm.trans (callers_setStage (c := { c with calls := _ }) there _)
    | brokenAnnounce starting _ | notify starting =>
        obtain ⟨rfl, rfl⟩ := own starting
        cases stays.symm.trans (callers_setStage (c := { c with calls := _, lock := none }) there _)
    | launch starting =>
        obtain ⟨rfl, rfl⟩ := own starting
        cases stays.symm.trans
          (callers_setStage (c := { c.register _ with lock := none }) there _)
    | fail e starting =>
        obtain ⟨rfl, rfl⟩ := own starting
        cases stays.symm.trans (callers_setStage there _)
  exact ⟨stage?_eq_some.mpr ⟨killed, stays⟩, h.orderly.move hm, h.single.move h.orderly h.few hm,
    same.1 ▸ h.few, same.1.trans h.tasks, same.2.1.trans h.nextId, hm.tool.trans h.tool,
    same.2.2.trans h.calls⟩

theorem others {as : List Action} (h : Begins c₀ k r n calls c)
    (ha : ∀ a ∈ as, a.actor? ≠ some (.caller k)) : Begins c₀ k r n calls (run b c as) := by
  induction as generalizing c with
  | nil => exact h
  | cons a as ih =>
      obtain ⟨first, rest⟩ := List.forall_mem_cons.mp ha
      exact ih (h.other first) rest

theorem trans {c' : Coordinator} {n' : Starting} {calls' : List SinkCall}
    (h : Begins c₀ k r n calls c) (h' : Begins c k r n' calls' c') :
    Begins c₀ k r n' (calls' ++ calls) c' :=
  ⟨h'.caller, h'.orderly, h'.single, h'.few, h'.tasks.trans h.tasks, h'.nextId.trans h.nextId,
    h'.tool.trans h.tool, by rw [h'.calls, h.calls, List.append_assoc]⟩

/-- A step of the caller that leads to the next stage of its start. -/
theorem of_step {x : Coordinator} {s : Stage} (orderly : c.Orderly) (single : c.Single)
    (few : c.tasks.length < UInt64.size) (there : c.callers[k]? = some ⟨s, killed⟩)
    (stepped : step b c a = x.setStage k (.starting r n)) (callers : x.callers = c.callers)
    (tasks : x.tasks = c.tasks) (nextId : x.nextId = c.nextId) (made : x.calls = calls ++ c.calls) :
    Begins c k r n calls (step b c a) := by
  have hm := step_move b c a
  have caller := callers_setStage (c := x) (callers ▸ there) (.starting r n)
  refine ⟨?_, orderly.move hm, single.move orderly few hm, ?_, ?_, ?_, hm.tool, ?_⟩ <;> rw [stepped]
  · exact stage?_eq_some.mpr ⟨killed, caller⟩
  · exact tasks ▸ few
  · exact congrArg List.length tasks
  · exact nextId
  · exact made

/-- A caller that decides to start a request clears the diagnostics. -/
theorem engage (orderly : c.Orderly) (single : c.Single) (few : c.tasks.length < UInt64.size)
    (deciding : c.stage? k = some (.deciding (.invoke r))) (free : c.lock = none)
    (idle : c.state = .idle) (fine : b c.calls .clear = false) (x : Obstacles) :
    Begins c k r .announcing [.clear] (step b c (.proceed k x)) := by
  obtain ⟨killed, there⟩ := stage?_eq_some.mp deciding
  refine of_step (x := { c with calls := .clear :: c.calls, lock := some k }) orderly single few
    there ?_ rfl rfl rfl rfl
  rw [step, proceed_of_deciding there free, decide_of_idle idle, engage_eq, fine]
  rfl

/-- It announces the start. -/
theorem announce (h : Begins c₀ k r .announcing calls c)
    (fine : b (calls ++ c₀.calls) (.text (c₀.tool.announcement r)) = false) (x : Obstacles) :
    Begins c₀ k r .launching (.text (c₀.tool.announcement r) :: calls)
      (step b c (.proceed k x)) := by
  obtain ⟨killed, there⟩ := stage?_eq_some.mp h.caller
  rw [← h.calls, ← h.tool] at fine
  rw [← h.tool]
  have announced : Begins c k r .launching [.text (c.tool.announcement r)]
      (step b c (.proceed k x)) := by
    refine of_step (x := { c with calls := .text (c.tool.announcement r) :: c.calls })
      h.orderly h.single h.few there ?_ rfl rfl rfl rfl
    rw [step, proceed_of_starting there, start_announcing, fine]
    rfl
  exact h.trans announced

/-- It learns that nothing can be launched. -/
theorem fail (h : Begins c₀ k r .launching calls c) {x : Obstacles} (hx : x.launch = some e) :
    Begins c₀ k r (.notifying e) calls (step b c (.proceed k x)) := by
  obtain ⟨killed, there⟩ := stage?_eq_some.mp h.caller
  have failed : Begins c k r (.notifying e) [] (step b c (.proceed k x)) := by
    refine of_step (x := c) h.orderly h.single h.few there ?_ rfl rfl rfl rfl
    rw [step, proceed_of_starting there, hx]
    rfl
  exact h.trans failed

/-- It tells the user, gives back the lock, and has failed. -/
theorem notify (h : Begins c₀ k r (.notifying e) calls c)
    (fine : b (calls ++ c₀.calls) (.notify (.toolNotAvailable c₀.tool.program)) = false)
    (x : Obstacles) :
    let c' := step b c (.proceed k x)
    c'.stage? k = some (.answered (.failed e)) ∧ c'.state = .idle ∧ c'.lock = none ∧
      c'.nextId = c₀.nextId ∧ c'.tasks.length = c₀.tasks.length ∧
      c'.calls = .notify (.toolNotAvailable c₀.tool.program) :: calls ++ c₀.calls := by
  obtain ⟨killed, there⟩ := stage?_eq_some.mp h.caller
  have idle := (h.orderly.idle_of_starting h.caller).2
  rw [← h.calls, ← h.tool] at fine
  have stepped : step b c (.proceed k x) =
      { c with
        calls := .notify (.toolNotAvailable c.tool.program) :: c.calls
        lock := none }.setStage k (.answered (.failed e)) := by
    rw [step, proceed_of_starting there, start_notifying, fine]
    rfl
  have caller := callers_setStage
    (c := { c with calls := .notify (.toolNotAvailable c.tool.program) :: c.calls, lock := none })
    there (.answered (.failed e))
  rw [← h.tool, List.cons_append, ← h.calls, ← h.nextId, ← h.tasks, stepped]
  exact ⟨stage?_eq_some.mpr ⟨killed, caller⟩, idle, rfl, rfl, rfl, rfl⟩

end Begins

/-! ## What a failed launch leaves behind -/

/-- The calls of a request whose launch fails, the last one first. -/
def failureCalls (tool : Tool) (r : TaskRequest) : List SinkCall :=
  [.notify (.toolNotAvailable tool.program), .text (tool.announcement r), .clear]

/-- **A failed launch**, over every run and however its steps interleave with those of others.

Let a caller get to start a request, and let the process not be launched, for whatever reason; no
sink breaks down meanwhile. Then its call fails for that reason; the state is idle and nobody holds
the lock; no number has been used up, so the next task that is started gets the one that it would
have got; and the sinks have got three calls: the diagnostics are cleared, one line announces the
start, and one notice names the program. -/
theorem failed_launch (tool : Tool) (b : Breakdown) (as as₁ as₂ as₃ : List Action) (k : Nat)
    (r : TaskRequest) (e : LaunchError) (x₁ x₂ x₃ x₄ : Obstacles)
    (few : (run b (new tool) as).tasks.length < UInt64.size)
    (deciding : (run b (new tool) as).stage? k = some (.deciding (.invoke r)))
    (free : (run b (new tool) as).lock = none) (idle : (run b (new tool) as).state = .idle)
    (others : ∀ a ∈ as₁ ++ as₂ ++ as₃, a.actor? ≠ some (.caller k)) (failure : x₃.launch = some e)
    (fine : ∀ later call earlier, failureCalls tool r = later ++ call :: earlier →
      b (earlier ++ (run b (new tool) as).calls) call = false) :
    let c := run b (new tool) as
    let c' := run b c (.proceed k x₁ :: as₁ ++ .proceed k x₂ :: as₂ ++ .proceed k x₃ :: as₃ ++
      [.proceed k x₄])
    c'.stage? k = some (.answered (.failed e)) ∧ c'.state = .idle ∧ c'.lock = none ∧
    c'.nextId = c.nextId ∧ c'.tasks.length = c.tasks.length ∧
    (∀ as' t, (run b c' as').tasks[c.tasks.length]? = some t → t.id = c.nextId) ∧
    c'.calls = failureCalls tool r ++ c.calls ∧
    c'.memory.notices = c.memory.notices ++ [.toolNotAvailable tool.program] ∧
    c'.memory.lines = c.memory.lines ++ [tool.announcement r] := by
  intro c c'
  have orderly : c.Orderly := run_orderly tool b as
  have single : c.Single := run_single tool b as few
  have named : c.tool = tool := run_tool b (new tool) as
  rw [List.append_assoc, List.forall_mem_append, List.forall_mem_append] at others
  obtain ⟨others₁, others₂, others₃⟩ := others
  -- The four steps of the caller, each followed by what the others do meanwhile.
  have engaged := (Begins.engage orderly single few deciding free idle (fine [_, _] _ [] rfl)
    x₁).others (b := b) others₁
  have announced := (engaged.announce (b := b) (named ▸ fine [_] _ [_] rfl) x₂).others (b := b)
    others₂
  have failed := (announced.fail (b := b) failure).others (b := b) others₃
  obtain ⟨answer, idle', free', nextId, tasks, calls⟩ :=
    failed.notify (b := b) (named ▸ fine [] _ [_, _] rfl) x₄
  rw [named] at calls
  have last : c' = step b (run b (step b (run b (step b (run b (step b c (.proceed k x₁)) as₁)
      (.proceed k x₂)) as₂) (.proceed k x₃)) as₃) (.proceed k x₄) := by
    simp only [c', run, List.foldl_append, List.foldl_cons, List.foldl_nil, List.cons_append]
  rw [← last] at answer idle' free' nextId tasks calls
  have remembered : c'.memory = ((c.memory.apply .clear).apply (.text (tool.announcement r))).apply
      (.notify (.toolNotAvailable tool.program)) := by
    simp [memory, history, calls, MemorySinks.ofCalls]
  refine ⟨answer, idle', free', nextId, tasks, fun as' t ht => ?_, calls, ?_, ?_⟩
  · -- Tasks are numbered by their lines, whatever is done until the next one is started.
    have later : (run b c' as').Orderly := (orderly.run _).run as'
    rw [(later.numbered _ t ht).2, orderly.nextId]
  · rw [remembered]
    rfl
  · rw [remembered]
    rfl

/-- A caller wants to build, and another one wants to stop meanwhile. -/
theorem failed_launch_whileStopping :
    let c := run .never (new cargo)
      [.call (.invoke { command := "build", workingDirectory := "/w", force := true })]
    let c' := run .never c [.proceed 0 {}, .call .stop, .proceed 1 {}, .proceed 0 {}, .proceed 1 {},
      .proceed 0 { launch := some (.notFound "cargo") }, .proceed 1 {}, .proceed 0 {}]
    c'.stage? 0 = some (.answered (.failed (.notFound "cargo"))) ∧ c'.state = .idle ∧
      c'.nextId = 1 ∧ c'.memory.notices = [.toolNotAvailable "cargo"] := by
  intro c c'
  obtain ⟨answer, idle, -, nextId, -, -, -, notices, -⟩ := failed_launch cargo .never
    [.call (.invoke { command := "build", workingDirectory := "/w", force := true })]
    [.call .stop, .proceed 1 {}] [.proceed 1 {}] [.proceed 1 {}] 0 _ (.notFound "cargo") {} {}
    { launch := some (.notFound "cargo") } {} (by decide) rfl rfl rfl (by decide) rfl
    (fun _ _ _ _ => rfl)
  exact ⟨answer, idle, nextId, notices⟩

/-- The line that announces the start is written even if there is no such tool, so a failed launch
is not reported by its notice alone. -/
theorem failed_launch_announced :
    let request : TaskRequest := { command := "build", workingDirectory := "/w" }
    let c := run .never (new cargo) [.call (.invoke request)]
    let c' := run .never c [.proceed 0 {}, .proceed 0 {},
      .proceed 0 { launch := some (.notFound "cargo") }, .proceed 0 {}]
    c'.stage? 0 = some (.answered (.failed (.notFound "cargo"))) ∧ c.memory.lines = [] ∧
      c'.memory.lines = ["Started cargo build --message-format json"] ∧
      c'.memory.lines ≠ c.memory.lines := by
  decide

end BuildRunner.Coordinator
