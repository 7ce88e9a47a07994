import BuildRunner.Coordinator.Live
import BuildRunner.Session.Opening

set_option autoImplicit false

/-! # A session at a terminal

A session whose coordinator runs on a host, with the input that a person has typed and the
output that the person sees. What has been typed is dealt with before the host moves on.
-/

namespace BuildRunner

open Host (Machine Ongoing Surroundings)
open Session (Event Reaction)

structure Terminal where
  live : Live
  directory : String
  /-- The text that is shown with notices for a time of the host. -/
  timeText : Nat → String
  diagnostics : Console.Diagnostics
  stage : Session.Stage
  /-- The tasks whose results are still to be told. -/
  watched : List Nat := []
  /-- How many calls of sinks have been printed. -/
  seen : Nat := 0
  /-- What was printed, the last part first. -/
  printed : List Console.Printed := []
  /-- What was typed and has not been read. -/
  input : List UInt8 := []
  inputEnded : Bool := false
  /-- Whether an interrupt has ended the program. -/
  isKilled : Bool := false

namespace Terminal

def time (t : Terminal) : String := t.timeText t.live.host.clock

/-! ## Output -/

def print (t : Terminal) (ps : List Console.Printed) : Terminal :=
  { t with printed := ps.reverse ++ t.printed }

/-- Prints what the sinks were given since the last time. -/
def flush (t : Terminal) : Terminal :=
  let calls := t.live.coordinator.calls
  let new := (calls.take (calls.length - t.seen)).reverse
  { t.print (new.flatMap (Console.ofCall t.time t.diagnostics)) with seen := calls.length }

def output (t : Terminal) (s : Console.Stream) : String := Console.written s t.printed.reverse

/-- What was printed behind the first `n` lines. -/
def printedAfter (t : Terminal) (n : Nat) : List Console.Printed :=
  (t.printed.take (t.printed.length - n)).reverse

def isOver (t : Terminal) : Bool :=
  t.isKilled ||
  match t.stage with
  | .finished _ => true
  | _ => false

/-! ## Input -/

/-- The line that bytes without a line feed are. -/
def lineOf (bytes : List UInt8) : Event :=
  match Utf8.decodeStrict bytes with
  | .error e => .unreadable e.message
  | .ok s => .line s

/-- The next event of the input, and the input behind it. A line feed and a carriage return
before it are no part of a line. -/
def nextEvent? (t : Terminal) : Option (Event × List UInt8) :=
  let line := t.input.takeWhile (· ≠ Line.feed)
  match t.input.dropWhile (· ≠ Line.feed) with
  | _ :: rest => some (lineOf (Line.dropReturn line), rest)
  | [] =>
    if !t.inputEnded then none
    else if line.isEmpty then some (.ended, [])
    else some (lineOf line, [])

/-! ## Reactions -/

def react (t : Terminal) (r : Reaction) : Terminal :=
  let started := match t.stage with
    | .obeying caller =>
      match t.live.answer? caller with
      | some (.started _ line) => [line]
      | _ => []
    | _ => []
  let t := { t.print r.printed with stage := r.stage, watched := t.watched ++ started }
  match r.demand with
  | none => t
  | some d => { t with live := (t.live.call d).2 }.flush

/-- Lets the session do one thing, if it can. -/
def goOn? (t : Terminal) : Option Terminal :=
  match Session.goOn t.time t.live.coordinator t.stage with
  | some r => some (t.react r)
  | none =>
    match t.nextEvent? with
    | none => none
    | some (e, rest) =>
      (Session.notice t.directory t.live.coordinator t.stage e).map fun r =>
        { t with input := rest }.react r

/-- Tells the results of tasks that have ended. -/
def tell (t : Terminal) : Terminal :=
  let result := Session.result? t.live.coordinator
  let told := (t.watched.filterMap result).flatMap Session.watchedLines
  { t.print told with watched := t.watched.filter fun line => (result line).isNone }

/-- Lets the session do what it can do without waiting. -/
def settle : Nat → Terminal → Terminal
  | 0, t => t
  | fuel + 1, t =>
    match t.goOn? with
    | some t => settle fuel t
    | none => t

def poll (t : Terminal) : Bool × Terminal :=
  let t := t.flush.tell
  match t.goOn? with
  | some t => (true, t)
  | none =>
    let (moved, live) := t.live.poll
    (moved, { t with live := live }.flush.tell)

def ongoing : Ongoing Terminal where
  poll := poll
  pull := fun t =>
    let (rests, live) := t.live.pull
    (rests, { t with live := live })
  later? := fun limit t => (t.live.later? limit).map fun live => { t with live := live }
  clock := fun t => t.live.host.clock

/-! ## A person -/

def start (live : Live) (dir : String) (timeText : Nat → String) (w : CommandLine.Work) :
    Terminal :=
  let r := Session.opening dir live.coordinator w
  let t : Terminal := {
    live := live
    directory := dir
    timeText := timeText
    diagnostics := Session.isStreaming w
    stage := r.stage }
  t.react r

/-- A program that has ended before a session began. -/
def ended (live : Live) (timeText : Nat → String) (f : Session.Farewell) : Terminal where
  live := live
  directory := ""
  timeText := timeText
  diagnostics := .collect
  stage := .finished f.status
  printed := [f.printed]

def run (h : Machine) (s : Surroundings) (timeText : Nat → String) (args : List String) :
    Terminal :=
  match Session.ofArgs (timeText h.clock) h.files s args with
  | .error f => ended ⟨h, s, .new (.ofConfig {}), .never, [], none⟩ timeText f
  | .ok p => start ⟨h, s, .new p.tool, .never, [], none⟩ p.directory timeText p.work

def type (t : Terminal) (bytes : List UInt8) : Terminal :=
  { t with input := t.input ++ bytes }.settle (2 * bytes.length + 4)

def endInput (t : Terminal) : Terminal := { t with inputEnded := true }

def interrupt (t : Terminal) : Terminal :=
  if t.stage.isExposed then { t with isKilled := true }
  else
    match Session.notice t.directory t.live.coordinator t.stage .interrupt with
    | some r => t.react r
    | none => t

def finish (t : Terminal) : Terminal := ongoing.reach isOver t

/-- Waits for something, at most for some time, and not beyond the end of the program. -/
def wait (t : Terminal) (goal : Terminal → Bool) (time : Nat) : Terminal :=
  ongoing.within (fun t => t.isOver || goal t) time t

/-- The exit status of the program, unless an interrupt has ended it. -/
def status? (t : Terminal) : Option Nat :=
  if t.isKilled then none
  else
    match t.stage with
    | .finished n => some n
    | _ => none

end Terminal
end BuildRunner
