import BuildRunner.Coordinator.Step
import BuildRunner.Host.Follow

set_option autoImplicit false

/-! # A coordinator on a host

A coordinator together with the host on which its processes run. What the coordinator leaves to
an outsider is decided by the host: a launch succeeds if the host can launch the process, a run
is offered what the pipes hold, and a kill becomes a signal to the group of the process.

The host moves on only while somebody waits. Then everybody who can take a step takes it, and
when nobody can the clock goes on.
-/

namespace BuildRunner

open Host (Follower Launched Machine Ongoing Surroundings)

/-- The process of a task. -/
structure Attended where
  follower : Follower
  /-- The time of the start. -/
  since : Nat

/-- A coordinator on a host. -/
structure Live where
  host : Machine
  surroundings : Surroundings
  coordinator : Coordinator
  breakdown : Breakdown := .never
  /-- The processes of the tasks, by their lines. -/
  processes : List Attended := []
  /-- The process of the probe. -/
  probe : Option Follower := none

namespace Live

/-! ## Steps of the coordinator -/

/-- The children whose tasks were killed between two moments. -/
def killedSince (l : Live) (c : Coordinator) : List Launched :=
  ((l.coordinator.tasks.zip c.tasks).zip l.processes).filterMap fun ((before, after), p) =>
    if before.signals < after.signals then some p.follower.child else none

/-- Replaces the coordinator, and signals the processes whose tasks were killed. -/
def adopt (l : Live) (c : Coordinator) : Live :=
  { l with coordinator := c, host := (l.killedSince c).foldl Machine.terminate l.host }

/-- The launch that the next step of a caller needs. -/
def nextLaunch? (l : Live) (caller : Nat) : Option Launch :=
  match l.coordinator.stage? caller with
  | some (.probing dir _) =>
    match l.coordinator.probe with
    | .unasked => some (l.coordinator.tool.probeIn dir)
    | _ => none
  | some (.starting r .launching) => some (l.coordinator.tool.launchFor r)
  | _ => none

/-- One step of a caller. The host delivers every signal. -/
def proceed (l : Live) (caller : Nat) : Live :=
  let go := fun (failure : Option LaunchError) =>
    l.coordinator.proceed l.breakdown caller { launch := failure }
  match l.nextLaunch? caller with
  | none => l.adopt (go none)
  | some launch =>
    match l.host.spawn l.surroundings launch with
    | .error e => l.adopt (go (some e))
    | .ok (child, host) =>
      let c := go none
      if l.coordinator.tasks.length < c.tasks.length then
        { l with
          coordinator := c
          host := host
          processes := l.processes ++ [⟨{ child := child }, host.clock⟩] }
      else if l.coordinator.probes < c.probes then
        { l with coordinator := c, host := host, probe := some { child := child } }
      else l.adopt c

/-- Steps of a caller up to its next rest, at most `n`. -/
def proceedOn (l : Live) (caller : Nat) : Nat → Live
  | 0 => l
  | n + 1 => if l.coordinator.callerRests caller then l else (l.proceed caller).proceedOn caller n

def stepsInOneGo : Nat := 16

/-- Steps of a caller up to its next rest, and whether there were any. -/
def advance (l : Live) (caller : Nat) : Bool × Live :=
  if l.coordinator.callerRests caller then (false, l) else (true, l.proceedOn caller stepsInOneGo)

/-- Lets go of the process of a task whose driver is gone. -/
def release (l : Live) (line : Nat) : Live :=
  match (l.coordinator.tasks[line]?).bind Task.result?, l.processes[line]? with
  | some _, some p =>
    { l with host := (l.host.signal .kill p.follower.child.id).close p.follower.child }
  | _, _ => l

/-- A step of a driver and what it does in the same go, if there is anything to do. -/
def drive (l : Live) (line : Nat) : Bool × Live :=
  match l.coordinator.tasks[line]?, l.processes[line]? with
  | some t, some p =>
    match t.driver with
    | .following run =>
      let o := p.follower.offer l.host t.line.killed
      let (after, delivered) := run.turn o
      if delivered.isNone ∧ after = run then (false, l)
      else
        let elapsed := Elapsed.ofMicros (l.host.clock - p.since)
        let c := l.coordinator.driveToRest l.breakdown line o elapsed
        let p := { p with follower := p.follower.afterTurn l.host after delivered.isSome }
        (true, ({ l with processes := l.processes.set line p }.adopt c).release line)
    | _ => (false, l)
  | _, _ => (false, l)

/-- A step of the probe, if there is anything to do. -/
def follow (l : Live) : Bool × Live :=
  match l.coordinator.probe, l.probe with
  | .running run, some f =>
    let o := f.offer l.host false
    let (after, delivered) := run.turn o
    if delivered.isNone ∧ after = run then (false, l)
    else
      let l := { l with
        coordinator := l.coordinator.follow o
        probe := some (f.afterTurn l.host after delivered.isSome) }
      (true, if l.coordinator.probe.isRunning then l else { l with host := l.host.close f.child })
  | _, _ => (false, l)

/-- Everybody takes a step who can; whether there was anybody. -/
def poll (l : Live) : Bool × Live :=
  let also := fun (x : Bool × Live) (f : Live → Bool × Live) =>
    let (moved, l) := f x.2
    (x.1 || moved, l)
  let x := (List.range l.coordinator.tasks.length).foldl (fun x k => also x (·.drive k)) (false, l)
  let x := also x follow
  (List.range l.coordinator.callers.length).foldl (fun x k => also x (·.advance k)) x

/-! ## Time -/

def isAttended (l : Live) (line : Nat) : Bool :=
  (l.coordinator.tasks[line]?).any fun t => t.result?.isNone

/-- Lets the host do what it can do now, and takes what was written. Whether the host is at rest
is said as well. -/
def pull (l : Live) : Bool × Live :=
  let (rests, h) := l.host.quiet
  let (h, processes) := (l.processes.zip (List.range l.processes.length)).foldl
    (fun (h, ps) (p, k) =>
      if l.isAttended k then
        let (f, h) := p.follower.pullAll h
        (h, ps ++ [{ p with follower := f }])
      else (h, ps ++ [p])) (h, [])
  let (h, probe) := match l.probe with
    | some f =>
      let (f, h) := f.pullAll h
      (h, some f)
    | none => (h, none)
  (rests, { l with host := h, processes := processes, probe := probe })

/-- The moments for which drivers and the probe wait. -/
def deadlines (l : Live) : List Nat :=
  ((l.processes.zip (List.range l.processes.length)).filterMap fun (p, k) =>
    if l.isAttended k then p.follower.deadline else none) ++
    (if l.coordinator.probe.isRunning then (l.probe.bind (·.deadline)).toList else [])

/-- The coordinator at the next moment at which anybody can go on, if there is one. -/
def later? (limit : Option Nat) (l : Live) : Option Live :=
  (l.host.later? (l.deadlines ++ limit.toList)).map fun h => { l with host := h }

def ongoing : Ongoing Live where
  poll := poll
  pull := pull
  later? := later?
  clock := fun l => l.host.clock

/-! ## Demands -/

def answer? (l : Live) (caller : Nat) : Option Answer :=
  match l.coordinator.stage? caller with
  | some (.answered a) => some a
  | _ => none

/-- Makes a demand: the number of its caller. The caller goes as far as it can without waiting. -/
def call (l : Live) (d : Demand) : Nat × Live :=
  let caller := l.coordinator.callers.length
  (caller, ({ l with coordinator := l.coordinator.call d }.advance caller).2)

def demandAll (l : Live) (ds : List Demand) : List Answer × Live :=
  let (callers, l) := ds.foldl (fun (callers, l) d =>
    let (caller, l) := l.call d
    (callers ++ [caller], l)) (([] : List Nat), l)
  let l := ongoing.reach (fun l => callers.all fun k => (l.answer? k).isSome) l
  (callers.filterMap l.answer?, l)

def demand (l : Live) (d : Demand) : Option Answer × Live :=
  let (answers, l) := l.demandAll [d]
  (answers.head?, l)

def finish (l : Live) (line : Nat) : Option TicketResult × Live :=
  let result := fun (l : Live) => (l.coordinator.tasks[line]?).bind Task.result?
  let l := ongoing.reach (fun l => (result l).isSome) l
  (result l, l)

/-- Waits until a line was written or a time has passed; whether it was written. -/
def awaitText (l : Live) (line : String) (time : Nat) : Bool × Live :=
  let found := fun (l : Live) => l.coordinator.calls.contains (.text line)
  let l := ongoing.within found time l
  (found l, l)

end Live
end BuildRunner
