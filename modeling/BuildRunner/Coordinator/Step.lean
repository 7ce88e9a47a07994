import BuildRunner.Coordinator.Basic

set_option autoImplicit false

/-! # Steps of the coordinator

The steps of callers, drivers and the probe. A caller that finds the state idle keeps the lock on
the state until its task is in the state or cannot be started; whoever wants to look at the state
or to change it waits for the lock. No step reaches more than one thing that others reach without
the lock: a sink, a process, or the line to a task.

A sink may break down at any call. In a start that ends the start, and nothing has been
launched; in a driver it makes the driver kill its process and leave.
-/

namespace BuildRunner

namespace Coordinator

/-! ## Starting a task -/

def newTask (c : Coordinator) (r : TaskRequest) : Task where
  handle := ⟨c.nextId, (c.tool.launchFor r).commandLine, c.tasks.length⟩
  directory := r.workingDirectory

/-- The coordinator after a process was launched for a request. -/
def register (c : Coordinator) (r : TaskRequest) : Coordinator :=
  let t := c.newTask r
  { c with state := .running t.handle, nextId := c.nextId + 1, tasks := c.tasks ++ [t] }

/-- Gives back the lock, and tells the caller that has held it how its start went. -/
def unlock (c : Coordinator) (caller : Nat) (a : Answer) : Coordinator :=
  { c with lock := none }.setStage caller (.answered a)

/-- Begins to start a task: the caller keeps the lock, and earlier diagnostics are forgotten. -/
def engage (c : Coordinator) (b : Breakdown) (caller : Nat) (r : TaskRequest) : Coordinator :=
  match c.emit b .clear with
  | (true, c) => c.unlock caller .broken
  | (false, c) => { c with lock := some caller }.setStage caller (.starting r .announcing)

/-- One step of a start: it is announced, and the process is launched unless `failure` says why it
cannot be, which the user is told. -/
def start (c : Coordinator) (b : Breakdown) (caller : Nat) (r : TaskRequest)
    (failure : Option LaunchError) : Starting → Coordinator
  | .announcing =>
    match c.emit b (.text (c.tool.announcement r)) with
    | (true, c) => c.unlock caller .broken
    | (false, c) => c.setStage caller (.starting r .launching)
  | .launching =>
    match failure with
    | none => (c.register r).unlock caller (.started c.nextId c.tasks.length)
    | some e => c.setStage caller (.starting r (.notifying e))
  | .notifying e =>
    match c.emit b (.notify (.toolNotAvailable c.tool.program)) with
    | (true, c) => c.unlock caller .broken
    | (false, c) => c.unlock caller (.failed e)

/-! ## Callers -/

/-- What stands in the way of a caller. -/
structure Obstacles where
  /-- Why nothing can be launched, if that is so. -/
  launch : Option LaunchError := none
  /-- Why no signal can be delivered, if that is so. -/
  signal : Option String := none
deriving Repr, DecidableEq

/-- The coordinator after a caller has looked at the state. -/
def decide (c : Coordinator) (b : Breakdown) (caller : Nat) (p : Purpose) : Coordinator :=
  match p with
  | .stop =>
    match c.state.current? with
    | none => c.setStage caller (.answered (.stopped false))
    | some h => c.setStage caller (.killing p h)
  | .invoke r =>
    match c.state.decide r.force with
    | .drop => c.setStage caller (.answered .dropped)
    | .preempt h => c.setStage caller (.killing p h)
    | .start => c.engage b caller r

/-- The coordinator after a caller has asked for the tool's `check`. -/
def ask (c : Coordinator) (caller : Nat) (dir : String) (next : AfterProbe)
    (failure : Option LaunchError) : Coordinator :=
  match c.probe with
  | .unasked =>
    match failure with
    -- What cannot be launched says nothing against the tool.
    | some _ => { c with probe := .settled .supported }
    | none => { c with probe := .running .start, probes := c.probes + 1 }
  -- Whoever comes while the probe runs waits for it, and starts no second one.
  | .running _ => c
  | .settled s =>
    match next with
    | .tell => c.setStage caller (.answered (.support s))
    | .check target force =>
      c.setStage caller (.deciding (.invoke (c.tool.checkRequest s dir target force)))

/-- The stage of a caller that has killed a task. Only the first kill sends a signal, so only that
one can fail. -/
def afterKill (c : Coordinator) (p : Purpose) (h : TaskHandle) : Option String → Stage
  | none => .awaiting p h
  | some reason => if c.wasKilled h.line then .awaiting p h else .unsignalled reason

/-- The stage of a caller behind the end of the task that it has waited for. -/
def afterClearing (p : Purpose) : Stage :=
  match p with
  | .invoke _ => .deciding p
  | .stop => .answered (.stopped true)

/-- One step of a caller, with what stands in its way. -/
def proceed (c : Coordinator) (b : Breakdown) (caller : Nat) (o : Obstacles) : Coordinator :=
  match c.callers[caller]? with
  | none => c
  | some k =>
    match k.stage with
    | .probing dir next => c.ask caller dir next o.launch
    | .deciding p => if c.isLocked then c else c.decide b caller p
    | .starting r s => c.start b caller r o.launch s
    | .killing p h =>
      -- Whether this kill is the first is to be asked before it is noted.
      let stage := c.afterKill p h o.signal
      let c := c.onTask h.line Task.kill
      { c with callers := c.callers.set caller ⟨stage, h.id :: k.killed⟩ }
    | .awaiting p h => if c.isOver h.line then c.setStage caller (.clearing p h) else c
    | .clearing p h =>
      if c.isLocked then c
      else { c with state := c.state.finish h.id }.setStage caller (afterClearing p)
    | .answered _ | .unsignalled _ => c

/-! ## Drivers -/

def setDriver (c : Coordinator) (line : Nat) (d : Driver) : Coordinator :=
  c.onTask line fun t => { t with driver := d }

/-- A driver's call of a sink, and its stage if the sink does not break down. -/
def emitFrom (c : Coordinator) (b : Breakdown) (line : Nat) (call : SinkCall) (next : Driver) :
    Coordinator :=
  match c.emit b call with
  | (true, c) => c.setDriver line .abandoning
  | (false, c) => c.setDriver line next

def afterRun (t : Task) (elapsed : Elapsed) : RunResult → Driver
  | .waitFailed => .finishing (.failed .wait)
  | .outcome .cancelled => .finishing (.report (t.report .cancelled))
  | .outcome (.exited code) =>
    .closing (TaskReport.closingLines code elapsed) (.exited code elapsed)

/-- The coordinator after a driver was given a line. -/
def deliver (c : Coordinator) (b : Breakdown) (line : Nat) (t : Task) (run : Run)
    (l : OutputLine) : Coordinator :=
  let (routed, routing) := t.routing.route l
  let c := c.onTask line fun t => { t with routing := routing }
  match routed with
  | .text s => c.emitFrom b line (.text s) (.following run)
  | .diagnostics ds => c.setDriver line (.publishing run ds)
  | .malformed => c.setDriver line (.following run)

/-- One step of a driver. Its run is offered `o` with the truth about kills, and `elapsed` is the
time since the start. -/
def drive (c : Coordinator) (b : Breakdown) (line : Nat) (o : Offer) (elapsed : Elapsed) :
    Coordinator :=
  match c.tasks[line]? with
  | none => c
  | some t =>
    match t.driver with
    | .following run =>
      match run.turn { o with killed := t.line.killed } with
      | (run, some l) => c.deliver b line t run l
      | (run, none) =>
        -- Nothing was delivered in this turn, but it may have been the last.
        match run.result? with
        | none => c.setDriver line (.following run)
        | some r => c.setDriver line (afterRun t elapsed r)
    | .publishing run [] => c.setDriver line (.following run)
    | .publishing run (d :: ds) =>
      c.emitFrom b line (.publish t.directory d) (.publishing run ds)
    | .closing [] outcome => c.setDriver line (.finishing (.report (t.report outcome)))
    | .closing (s :: ss) outcome => c.emitFrom b line (.text s) (.closing ss outcome)
    | .abandoning => (c.onTask line Task.kill).setDriver line (.finishing (.failed .join))
    | .finishing r =>
      -- The state is left before the waiters hear of it: who comes behind them finds it idle.
      if c.isLocked then c
      else { c with state := c.state.finish t.id }.setDriver line (.signalling r)
    | .signalling r =>
      c.onTask line fun t => { t with line := t.line.send true, driver := .releasing r }
    | .releasing r =>
      c.onTask line fun t => { t with line := t.line.release, driver := .done r }
    | .done _ | .vanished => c

/-- The coordinator after a driver has gone without leaving the state. No driver does this by itself,
so it is no action. -/
def vanish (c : Coordinator) (line : Nat) : Coordinator :=
  c.onTask line fun t =>
    match t.driver with
    | .done _ => t
    | _ => { t with line := t.line.release, driver := .vanished }

/-! ## The probe -/

/-- What the end of the probe says about the tool; a probe whose end cannot be learnt says
nothing against it. -/
def supportOf : RunResult → CheckSupport
  | .outcome (.exited (some 0)) | .waitFailed => .supported
  | .outcome _ => .unsupported

/-- One step of the probe. Nobody kills it. -/
def follow (c : Coordinator) (o : Offer) : Coordinator :=
  match c.probe with
  | .running run =>
    let (run, _) := run.turn { o with killed := false }
    match run.result? with
    | none => { c with probe := .running run }
    | some r => { c with probe := .settled (supportOf r) }
  | _ => c

/-! ## Actions -/

/-- What can happen. -/
inductive Action where
  /-- A new caller comes. -/
  | call (d : Demand)
  /-- A caller takes a step. -/
  | proceed (caller : Nat) (o : Obstacles)
  /-- A driver takes a step. -/
  | drive (line : Nat) (o : Offer) (elapsed : Elapsed)
  /-- The probe takes a step. -/
  | follow (o : Offer)
deriving Repr

def call (c : Coordinator) (d : Demand) : Coordinator :=
  { c with callers := c.callers ++ [⟨d.stage, []⟩] }

def step (b : Breakdown) (c : Coordinator) : Action → Coordinator
  | .call d => c.call d
  | .proceed caller o => c.proceed b caller o
  | .drive line o elapsed => c.drive b line o elapsed
  | .follow o => c.follow o

def run (b : Breakdown) (c : Coordinator) (as : List Action) : Coordinator := as.foldl (step b) c

/-! ## Rests

Callers and drivers do some of their steps in one go: until they have to wait for somebody
else. -/

def driverRests (c : Coordinator) (line : Nat) : Bool := (c.tasks[line]?).all (·.driver.rests)

/-- Whether a caller waits for somebody else, or has been answered. -/
def callerRests (c : Coordinator) (caller : Nat) : Bool :=
  (c.callers[caller]?).all fun k =>
    match k.stage with
    | .answered _ | .unsignalled _ => true
    | .awaiting _ h => !c.isOver h.line
    | .probing _ _ => c.probe.isRunning
    | .deciding _ | .clearing _ _ => c.isLocked
    | .starting _ _ | .killing _ _ => false

/-- Steps of a driver up to its next rest, at most `n`. -/
def driveOn (c : Coordinator) (b : Breakdown) (line : Nat) (o : Offer) (elapsed : Elapsed) :
    Nat → Coordinator
  | 0 => c
  | n + 1 =>
    if c.driverRests line then c else (c.drive b line o elapsed).driveOn b line o elapsed n

/-- A step of a driver and what it does in the same go. -/
def driveToRest (c : Coordinator) (b : Breakdown) (line : Nat) (o : Offer) (elapsed : Elapsed) :
    Coordinator :=
  let c := c.drive b line o elapsed
  -- The first step may have been given a message, so the bound is taken behind it.
  let n := ((c.tasks[line]?).map fun t => t.driver.bound).getD 0
  c.driveOn b line o elapsed n

end Coordinator
end BuildRunner
