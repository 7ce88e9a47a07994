import BuildRunner.Coordinator.Step

set_option autoImplicit false

/-! # What one step can do

An action changes a coordinator in one of a few ways. `Task.Work` lists what a driver can do
before it leaves the state, `Coordinator.Stride` what it can do in any step of its own, and
`Coordinator.Move` what anybody can do, each with its conditions. `drive_stride` and `step_move`
say that there is nothing else. What holds over all runs is derived from these lists; nothing below
them opens the steps again.

A move also says what *occurs* in it: that a request is decided to be started, that a process is
launched for it, that a line is delivered, that a diagnostic is published.
-/

namespace BuildRunner

/-! ## Occurrences -/

/-- **What occurs in a step** and belongs to a request that was decided to be started. -/
inductive Occurrence where
  /-- A caller finds the state idle and decides to start a request. -/
  | decided (caller : Nat) (r : TaskRequest)
  /-- A process is launched for a caller. -/
  | launched (caller line : Nat)
  /-- The run of a task delivers a line of its process. -/
  | delivered (line : Nat) (l : OutputLine)
  /-- The driver of a task publishes a diagnostic. -/
  | published (line : Nat) (directory : String) (d : Diagnostic)

def Task.occurrence? (t : Task) (line : Nat) (o : Offer) : Option Occurrence :=
  match t.driver with
  | .following run => (run.turn { o with killed := t.line.killed }).2.map (.delivered line)
  | .publishing _ (d :: _) => some (.published line t.directory d)
  | _ => none

def Coordinator.occurrence? (c : Coordinator) : Coordinator.Action → Option Occurrence
  | .call _ | .follow _ => none
  | .proceed caller o =>
    match c.stage? caller with
    | some (.deciding (.invoke r)) =>
      if c.lock = none ∧ c.state = .idle then some (.decided caller r) else none
    | some (.starting _ .launching) =>
      if o.launch = none then some (.launched caller c.tasks.length) else none
    | _ => none
  | .drive line o _ => (c.tasks[line]?).bind fun t => t.occurrence? line o

/-! ## The work of a driver -/

namespace Task

/-- **The work of a driver**: a step that a driver takes before it leaves the state. It changes
its task, and calls a sink at most once; a breakdown of the sink makes it abandon the process. -/
inductive Work (b : Breakdown) (calls : List SinkCall) (line : Nat) (t : Task) :
    Option Occurrence → Task → Option SinkCall → Prop
  | turn {run run' : Run} {o : Offer}
      (following : t.driver = .following run)
      (turned : run.turn { o with killed := t.line.killed } = (run', none))
      (open' : run'.result? = none) :
      Work b calls line t none { t with driver := .following run' } none
  | ended {run run' : Run} {o : Offer} {r : RunResult} (elapsed : Elapsed)
      (following : t.driver = .following run)
      (turned : run.turn { o with killed := t.line.killed } = (run', none))
      (result : run'.result? = some r) :
      Work b calls line t none { t with driver := Coordinator.afterRun t elapsed r } none
  | text {run run' : Run} {o : Offer} {l : OutputLine} {s : String} {g : Routing}
      (following : t.driver = .following run)
      (turned : run.turn { o with killed := t.line.killed } = (run', some l))
      (routed : t.routing.route l = (.text s, g)) (fine : b calls (.text s) = false) :
      Work b calls line t (some (.delivered line l))
        { t with routing := g, driver := .following run' } (some (.text s))
  | brokenText {run run' : Run} {o : Offer} {l : OutputLine} {s : String} {g : Routing}
      (following : t.driver = .following run)
      (turned : run.turn { o with killed := t.line.killed } = (run', some l))
      (routed : t.routing.route l = (.text s, g)) (broken : b calls (.text s) = true) :
      Work b calls line t (some (.delivered line l))
        { t with routing := g, driver := .abandoning } (some (.text s))
  | found {run run' : Run} {o : Offer} {l : OutputLine} {ds : List Diagnostic} {g : Routing}
      (following : t.driver = .following run)
      (turned : run.turn { o with killed := t.line.killed } = (run', some l))
      (routed : t.routing.route l = (.diagnostics ds, g)) :
      Work b calls line t (some (.delivered line l))
        { t with routing := g, driver := .publishing run' ds } none
  | malformed {run run' : Run} {o : Offer} {l : OutputLine} {g : Routing}
      (following : t.driver = .following run)
      (turned : run.turn { o with killed := t.line.killed } = (run', some l))
      (routed : t.routing.route l = (.malformed, g)) :
      Work b calls line t (some (.delivered line l))
        { t with routing := g, driver := .following run' } none
  | published {run : Run} (publishing : t.driver = .publishing run []) :
      Work b calls line t none { t with driver := .following run } none
  | publish {run : Run} {d : Diagnostic} {ds : List Diagnostic}
      (publishing : t.driver = .publishing run (d :: ds))
      (fine : b calls (.publish t.directory d) = false) :
      Work b calls line t (some (.published line t.directory d))
        { t with driver := .publishing run ds } (some (.publish t.directory d))
  | brokenPublish {run : Run} {d : Diagnostic} {ds : List Diagnostic}
      (publishing : t.driver = .publishing run (d :: ds))
      (broken : b calls (.publish t.directory d) = true) :
      Work b calls line t (some (.published line t.directory d))
        { t with driver := .abandoning } (some (.publish t.directory d))
  | closed {outcome : TaskOutcome} (closing : t.driver = .closing [] outcome) :
      Work b calls line t none
        { t with driver := .finishing (.report (t.report outcome)) } none
  | close {s : String} {ss : List String} {outcome : TaskOutcome}
      (closing : t.driver = .closing (s :: ss) outcome) (fine : b calls (.text s) = false) :
      Work b calls line t none { t with driver := .closing ss outcome } (some (.text s))
  | brokenClose {s : String} {ss : List String} {outcome : TaskOutcome}
      (closing : t.driver = .closing (s :: ss) outcome) (broken : b calls (.text s) = true) :
      Work b calls line t none { t with driver := .abandoning } (some (.text s))
  | abandon (abandoning : t.driver = .abandoning) :
      Work b calls line t none { t.kill with driver := .finishing (.failed .join) } none

end Task

/-! ## Moves -/

namespace Coordinator

def put (c : Coordinator) (line : Nat) (t : Task) (call : Option SinkCall) : Coordinator :=
  { c with tasks := c.tasks.set line t, calls := call.toList ++ c.calls }

/-- **What a driver can do** in one step of its own, with what occurs in it: work, or one of the
three steps by which it leaves. -/
inductive Stride (b : Breakdown) (c : Coordinator) (line : Nat) (t : Task) :
    Option Occurrence → Coordinator → Prop
  | rest : Stride b c line t none c
  | work {t' : Task} {o : Option Occurrence} {call : Option SinkCall}
      (work : t.Work b c.calls line o t' call) : Stride b c line t o (c.put line t' call)
  | finish {r : TicketResult} (finishing : t.driver = .finishing r) (free : c.lock = none) :
      Stride b c line t none
        ({ c with state := c.state.finish t.id }.put line { t with driver := .signalling r } none)
  | signal {r : TicketResult} (signalling : t.driver = .signalling r) :
      Stride b c line t none
        (c.put line { t with line := t.line.send true, driver := .releasing r } none)
  | release {r : TicketResult} (releasing : t.driver = .releasing r) :
      Stride b c line t none (c.put line { t with line := t.line.release, driver := .done r } none)

/-- **What a step can do**, with what occurs in it. -/
inductive Move (b : Breakdown) (c : Coordinator) : Option Occurrence → Coordinator → Prop
  | rest : Move b c none c
  | arrive (d : Demand) : Move b c none (c.call d)
  | probe (p : Probe) (n : Nat) : Move b c none { c with probe := p, probes := n }
  /-- A caller has learnt whether the tool has a `check`. -/
  | learn {k : Nat} {dir : String} {next : AfterProbe} {s : Stage}
      (probing : c.stage? k = some (.probing dir next))
      (learnt : (∃ x, s = .answered (.support x)) ∨ ∃ r, s = .deciding (.invoke r)) :
      Move b c none (c.setStage k s)
  /-- A request is dropped. -/
  | drop {k : Nat} {r : TaskRequest} {h : TaskHandle}
      (deciding : c.stage? k = some (.deciding (.invoke r))) (free : c.lock = none)
      (running : c.state = .running h) (unforced : r.force = false) :
      Move b c none (c.setStage k (.answered .dropped))
  /-- There is nothing to stop. -/
  | pass {k : Nat} (deciding : c.stage? k = some (.deciding .stop)) (free : c.lock = none)
      (idle : c.state = .idle) : Move b c none (c.setStage k (.answered (.stopped false)))
  /-- A caller aims at the running task. -/
  | aim {k : Nat} {p : Purpose} {h : TaskHandle}
      (deciding : c.stage? k = some (.deciding p)) (free : c.lock = none)
      (running : c.state = .running h) (forced : ∀ r, p = .invoke r → r.force = true) :
      Move b c none (c.setStage k (.killing p h))
  /-- A caller decides to start a request, and takes the lock. -/
  | engage {k : Nat} {r : TaskRequest}
      (deciding : c.stage? k = some (.deciding (.invoke r))) (free : c.lock = none)
      (idle : c.state = .idle) (fine : b c.calls .clear = false) :
      Move b c (some (.decided k r))
        ({ c with calls := .clear :: c.calls, lock := some k }.setStage k
          (.starting r .announcing))
  | brokenEngage {k : Nat} {r : TaskRequest}
      (deciding : c.stage? k = some (.deciding (.invoke r))) (free : c.lock = none)
      (idle : c.state = .idle) (broken : b c.calls .clear = true) :
      Move b c (some (.decided k r)) ({ c with calls := .clear :: c.calls }.unlock k .broken)
  | announce {k : Nat} {r : TaskRequest}
      (starting : c.stage? k = some (.starting r .announcing))
      (fine : b c.calls (.text (c.tool.announcement r)) = false) :
      Move b c none
        ({ c with calls := .text (c.tool.announcement r) :: c.calls }.setStage k
          (.starting r .launching))
  | brokenAnnounce {k : Nat} {r : TaskRequest}
      (starting : c.stage? k = some (.starting r .announcing))
      (broken : b c.calls (.text (c.tool.announcement r)) = true) :
      Move b c none
        ({ c with calls := .text (c.tool.announcement r) :: c.calls }.unlock k .broken)
  /-- A process is launched, and its task enters the state. -/
  | launch {k : Nat} {r : TaskRequest} (starting : c.stage? k = some (.starting r .launching)) :
      Move b c (some (.launched k c.tasks.length))
        ((c.register r).unlock k (.started c.nextId c.tasks.length))
  | fail {k : Nat} {r : TaskRequest} (e : LaunchError)
      (starting : c.stage? k = some (.starting r .launching)) :
      Move b c none (c.setStage k (.starting r (.notifying e)))
  /-- The user is told of a failed launch, whether or not the sink breaks down. -/
  | notify {k : Nat} {r : TaskRequest} {e : LaunchError}
      (starting : c.stage? k = some (.starting r (.notifying e))) :
      Move b c none
        ({ c with calls := .notify (.toolNotAvailable c.tool.program) :: c.calls }.unlock k
          (if b c.calls (.notify (.toolNotAvailable c.tool.program)) then .broken else .failed e))
  /-- A caller kills the task it has aimed at. -/
  | kill {k : Nat} {p : Purpose} {h : TaskHandle} {killed : List TaskId} (signal : Option String)
      (killing : c.callers[k]? = some ⟨.killing p h, killed⟩) :
      Move b c none
        { c with
          tasks := c.tasks.modify h.line Task.kill
          callers := c.callers.set k ⟨c.afterKill p h signal, h.id :: killed⟩ }
  /-- A caller learns that the task it waits for is over. -/
  | wake {k : Nat} {p : Purpose} {h : TaskHandle}
      (awaiting : c.stage? k = some (.awaiting p h)) (ended : c.isOver h.line = true) :
      Move b c none (c.setStage k (.clearing p h))
  /-- A caller takes that task out of the state, should it still be there. -/
  | clear {k : Nat} {p : Purpose} {h : TaskHandle}
      (clearing : c.stage? k = some (.clearing p h)) (free : c.lock = none) :
      Move b c none ({ c with state := c.state.finish h.id }.setStage k (afterClearing p))
  | work {line : Nat} {t t' : Task} {o : Option Occurrence} {call : Option SinkCall}
      (task : c.tasks[line]? = some t) (work : t.Work b c.calls line o t' call) :
      Move b c o (c.put line t' call)
  /-- A driver leaves the state. -/
  | finish {line : Nat} {t : Task} {r : TicketResult} (task : c.tasks[line]? = some t)
      (finishing : t.driver = .finishing r) (free : c.lock = none) :
      Move b c none
        ({ c with state := c.state.finish t.id }.put line { t with driver := .signalling r } none)
  /-- A driver signals the end of its task. -/
  | signal {line : Nat} {t : Task} {r : TicketResult} (task : c.tasks[line]? = some t)
      (signalling : t.driver = .signalling r) :
      Move b c none (c.put line { t with line := t.line.send true, driver := .releasing r } none)
  /-- A driver gives up its end of the line and hands over its result. -/
  | release {line : Nat} {t : Task} {r : TicketResult} (task : c.tasks[line]? = some t)
      (releasing : t.driver = .releasing r) :
      Move b c none (c.put line { t with line := t.line.release, driver := .done r } none)

variable {b : Breakdown} {c : Coordinator} {k line : Nat}

/-! ## There is nothing else -/

theorem stage?_eq_some {s : Stage} :
    c.stage? k = some s ↔ ∃ killed, c.callers[k]? = some ⟨s, killed⟩ := by
  cases hk : c.callers[k]? with
  | none => simp [stage?, hk]
  | some x =>
      obtain ⟨stage, killed⟩ := x
      simp [stage?, hk]

theorem modify_eq_set {α : Type} {xs : List α} {x : α} {line : Nat} (h : xs[line]? = some x)
    (f : α → α) : xs.modify line f = xs.set line (f x) := by
  have hlt := (List.getElem?_eq_some_iff.mp h).1
  apply List.ext_getElem?
  intro i
  rw [List.getElem?_modify, List.getElem?_set]
  by_cases hi : line = i
  · subst hi
    rw [h, if_pos rfl, if_pos hlt]
    simp
  · simp [hi]

theorem modify_set_tasks (t : Task) (f : Task → Task) :
    (c.tasks.set line t).modify line f = c.tasks.set line (f t) := by
  apply List.ext_getElem?
  intro i
  rw [List.getElem?_modify, List.getElem?_set, List.getElem?_set]
  by_cases hi : line = i
  · subst hi
    by_cases hlt : line < c.tasks.length <;> simp [hlt]
  · simp [hi]

/-- A driver's call of a sink ends in one of two stages. -/
theorem emitFrom_eq_put {t : Task} (h : c.tasks[line]? = some t) (call : SinkCall) (d : Driver) :
    c.emitFrom b line call d =
      c.put line { t with driver := if b c.calls call then .abandoning else d } (some call) := by
  unfold emitFrom emit
  cases hb : b c.calls call <;> simp [setDriver, onTask, put, modify_eq_set h]

/-- What a driver does is a move. -/
theorem Stride.move {t : Task} {o : Option Occurrence} {c' : Coordinator}
    (ht : c.tasks[line]? = some t) (h : Stride b c line t o c') : Move b c o c' := by
  cases h with
  | rest => exact .rest
  | work work => exact .work ht work
  | finish finishing free => exact .finish ht finishing free
  | signal signalling => exact .signal ht signalling
  | release releasing => exact .release ht releasing

theorem deliver_stride {t : Task} {run run' : Run} {o : Offer} {l : OutputLine}
    (ht : c.tasks[line]? = some t) (hd : t.driver = .following run)
    (hr : run.turn { o with killed := t.line.killed } = (run', some l)) :
    Stride b c line t (some (.delivered line l)) (c.deliver b line t run' l) := by
  unfold deliver
  rcases hx : t.routing.route l with ⟨x, g⟩
  -- The counts are kept in the task before a sink is called.
  have ht' : ({ c with tasks := c.tasks.set line { t with routing := g } } : Coordinator).tasks[line]?
      = some { t with routing := g } := by
    simp [(List.getElem?_eq_some_iff.mp ht).1]
  cases x with
  | text s =>
      simp only [onTask, modify_eq_set ht, emitFrom_eq_put ht']
      cases hb : b c.calls (.text s) with
      | false => simpa [put] using Stride.work (.text hd hr hx hb)
      | true => simpa [put] using Stride.work (.brokenText hd hr hx hb)
  | diagnostics ds =>
      simpa [hx, onTask, setDriver, put, modify_eq_set ht, modify_set_tasks] using
        Stride.work (.found hd hr hx)
  | malformed =>
      simpa [hx, onTask, setDriver, put, modify_eq_set ht, modify_set_tasks] using
        Stride.work (.malformed hd hr hx)

theorem drive_stride {t : Task} (ht : c.tasks[line]? = some t) (o : Offer) (elapsed : Elapsed) :
    Stride b c line t (t.occurrence? line o) (c.drive b line o elapsed) := by
  -- One case for each stage of the driver, as in the definition.
  simp only [drive, ht, Task.occurrence?]
  cases hd : t.driver with
  | following run =>
      rcases hr : run.turn { o with killed := t.line.killed } with ⟨run', l⟩
      cases l with
      | some l => simpa [hr] using deliver_stride ht hd hr
      | none =>
          simp only [hr, Option.map_none]
          cases hres : run'.result? with
          | none =>
              simpa [hres, onTask, setDriver, put, modify_eq_set ht] using
                Stride.work (.turn hd hr hres)
          | some r =>
              simpa [hres, onTask, setDriver, put, modify_eq_set ht] using
                Stride.work (.ended elapsed hd hr hres)
  | publishing run ds =>
      cases ds with
      | nil => simpa [onTask, setDriver, put, modify_eq_set ht] using Stride.work (.published hd)
      | cons d ds =>
          simp only [emitFrom_eq_put ht]
          cases hb : b c.calls (.publish t.directory d) with
          | false => exact .work (.publish hd hb)
          | true => exact .work (.brokenPublish hd hb)
  | closing ss outcome =>
      cases ss with
      | nil => simpa [onTask, setDriver, put, modify_eq_set ht] using Stride.work (.closed hd)
      | cons s ss =>
          simp only [emitFrom_eq_put ht]
          cases hb : b c.calls (.text s) with
          | false => exact .work (.close hd hb)
          | true => exact .work (.brokenClose hd hb)
  | abandoning =>
      simpa [onTask, setDriver, put, modify_eq_set ht, modify_set_tasks] using
        Stride.work (.abandon hd)
  | finishing r =>
      cases hl : c.lock with
      | some x => simpa [isLocked, hl] using Stride.rest
      | none =>
          simpa [isLocked, hl, onTask, setDriver, put, modify_eq_set ht] using
            Stride.finish hd hl
  | signalling r => simpa [onTask, put, modify_eq_set ht] using Stride.signal hd
  | releasing r => simpa [onTask, put, modify_eq_set ht] using Stride.release hd
  | done r => exact .rest
  | vanished => exact .rest

theorem drive_move (line : Nat) (o : Offer) (elapsed : Elapsed) :
    Move b c (c.occurrence? (.drive line o elapsed)) (c.drive b line o elapsed) := by
  cases ht : c.tasks[line]? with
  | none => simpa [occurrence?, drive, ht] using Move.rest
  | some t =>
      have h : Move b c _ _ := (drive_stride ht o elapsed).move ht
      simpa [occurrence?, ht] using h

theorem ask_move {dir : String} {next : AfterProbe}
    (hk : c.stage? k = some (.probing dir next)) (failure : Option LaunchError) :
    Move b c none (c.ask k dir next failure) := by
  unfold ask
  cases c.probe with
  | unasked => cases failure <;> exact .probe _ _
  | running run => exact .rest
  | settled s =>
      cases next with
      | tell => exact .learn hk (.inl ⟨s, rfl⟩)
      | check target force => exact .learn hk (.inr ⟨_, rfl⟩)

theorem decide_move {p : Purpose} (hk : c.stage? k = some (.deciding p)) (hl : c.lock = none) :
    Move b c
      (match p with
        | .invoke r => if c.lock = none ∧ c.state = .idle then some (.decided k r) else none
        | .stop => none)
      (c.decide b k p) := by
  cases p with
  | stop =>
      cases hs : c.state with
      | idle => simpa [decide, hs, TaskState.current?] using Move.pass hk hl hs
      | running h =>
          simpa [decide, hs, TaskState.current?] using Move.aim hk hl hs (by simp)
  | invoke r =>
      cases hs : c.state with
      | idle =>
          cases hb : b c.calls .clear with
          | false =>
              simpa [decide, hs, hl, TaskState.decide, engage, emit, hb] using
                Move.engage hk hl hs hb
          | true =>
              simpa [decide, hs, hl, TaskState.decide, engage, emit, hb] using
                Move.brokenEngage hk hl hs hb
      | running h =>
          cases hf : r.force with
          | false => simpa [decide, hs, TaskState.decide, hf] using Move.drop hk hl hs hf
          | true => simpa [decide, hs, TaskState.decide, hf] using Move.aim hk hl hs (by simp [hf])

theorem start_move {r : TaskRequest} {s : Starting} (hk : c.stage? k = some (.starting r s))
    (failure : Option LaunchError) :
    Move b c
      (match s with
        | .launching => if failure = none then some (.launched k c.tasks.length) else none
        | _ => none)
      (c.start b k r failure s) := by
  cases s with
  | announcing =>
      cases hb : b c.calls (.text (c.tool.announcement r)) with
      | false => simpa [start, emit, hb] using Move.announce hk hb
      | true => simpa [start, emit, hb] using Move.brokenAnnounce hk hb
  | launching =>
      cases failure with
      | none => exact .launch hk
      | some e => exact .fail e hk
  | notifying e =>
      have h : Move b c none _ := Move.notify hk
      cases hb : b c.calls (.notify (.toolNotAvailable c.tool.program)) <;>
        simpa [start, emit, hb] using h

theorem proceed_move (k : Nat) (o : Obstacles) :
    Move b c (c.occurrence? (.proceed k o)) (c.proceed b k o) := by
  unfold proceed
  cases hk : c.callers[k]? with
  | none => simpa [occurrence?, stage?, hk] using Move.rest
  | some x =>
      obtain ⟨stage, killed⟩ := x
      have hs : c.stage? k = some stage := by simp [stage?, hk]
      simp only [occurrence?, hs]
      -- What occurs depends on the stage alone; where the lock is held nothing does.
      cases stage with
      | probing dir next => exact ask_move hs o.launch
      | deciding p =>
          cases hl : c.lock with
          | none =>
              have h := decide_move (b := b) hs hl
              cases p <;> simpa [isLocked, hl] using h
          | some x => cases p <;> simpa [isLocked, hl] using Move.rest
      | starting r s =>
          have h := start_move (b := b) hs o.launch
          cases s <;> simpa using h
      | killing p h => exact .kill o.signal hk
      | awaiting p h =>
          cases ho : c.isOver h.line with
          | false => simpa [ho] using Move.rest
          | true => simpa [ho] using Move.wake hs ho
      | clearing p h =>
          cases hl : c.lock with
          | none => simpa [isLocked, hl] using Move.clear hs hl
          | some x => simpa [isLocked, hl] using Move.rest
      | answered a => exact .rest
      | unsignalled reason => exact .rest

/-- What the probe's process does changes the probe only. -/
theorem follow_eq (c : Coordinator) (o : Offer) :
    c.follow o = { c with probe := (c.follow o).probe } := by
  unfold follow
  cases c.probe with
  | running run => dsimp only; split <;> rfl
  | unasked | settled s => rfl

theorem follow_move (o : Offer) : Move b c none (c.follow o) := by
  rw [follow_eq]
  exact .probe _ _

/-- **Nothing else happens**: every action is a move, and what occurs in it is what the move says. -/
theorem step_move (b : Breakdown) (c : Coordinator) (a : Action) :
    Move b c (c.occurrence? a) (step b c a) := by
  cases a with
  | call d => exact .arrive d
  | proceed caller o => exact proceed_move caller o
  | drive line o elapsed => exact drive_move line o elapsed
  | follow o => exact follow_move o

end Coordinator
end BuildRunner
