import BuildRunner.Host.Builtin.Flow

set_option autoImplicit false

/-! # Commands on jobs and signals

The commands of a shell that show its jobs, wait for them, send signals, or say what happens when
a signal arrives.
-/

namespace BuildRunner.Host

open Shell (quoted)

namespace Actor

/-! ## Jobs -/

def jobsNamed (a : Actor) : List String → Except String (List Nat)
  | [] => .ok []
  | name :: rest => do
    let (n, _) ← a.shell.jobs.named name
    return n :: (← a.jobsNamed rest)

def listJobs (a : Actor) (args : List String) : Actor :=
  a.withFlags { plain := "lp" } args fun flags =>
    let kind : Jobs.Listing := match flags.given.getLast?.map (·.1) with
      | some 'l' => .long
      | some _ => .groups
      | none => .plain
    let a := a.notice
    let numbers := if flags.left.isEmpty then .ok (a.shell.jobs.all.map (·.1))
      else a.jobsNamed flags.left
    match numbers with
    | .error reason => a.refuse reason
    | .ok ns =>
      let (text, jobs) := a.shell.jobs.list kind ns
      (a.withJobs jobs).say text 0

/-- Moves a job, which no shell without a terminal can do. -/
def moveJob (a : Actor) (args : List String) : Actor :=
  a.withFlags {} args fun flags =>
    match a.shell.jobs.named (flags.left.headD "%") with
    | .error reason => a.refuse reason
    | .ok _ =>
      a.refuse ("job " ++ flags.left.headD "(null)" ++ " not created under job control")

/-- For how many steps a signal is not heard by somebody who waits. -/
def wakingTime : Nat := 32

def wait (a : Actor) (args : List String) : Actor :=
  a.withFlags {} args fun flags =>
    a.push [if flags.left.isEmpty then .waitAll wakingTime else .wait flags.left 127 wakingTime]

/-! ## Sending signals -/

def killUsage : String :=
  "Usage: kill [-s sigspec | -signum | -sigspec] [pid | job]... or\nkill -l [exitstatus]"

/-- The processes that a text names: a process, or a group. -/
def receiverOf (a : Actor) (text : String) : Except String (Nat ⊕ Nat) :=
  match text.toList with
  | '%' :: _ => do
    let (_, j) ← a.shell.jobs.named text
    return .inr ((j.members.head?.map (·.1)).getD 0)
  | '-' :: rest => return .inr (← Shell.Numeral.count (String.ofList rest))
  | _ => do
    let n ← Shell.Numeral.count text
    return if n = 0 then .inr a.self.group else .inl n

/-- Whether there is a process that is meant. -/
def isThere (a : Actor) : Nat ⊕ Nat → Bool
  | .inl id => (a.host.process? id).isSome
  | .inr group => a.host.processes.any (·.group = group)

/-- Sends a signal to the processes that arguments name; `status` is the status so far. -/
def sendAll (a : Actor) (s : Signal) (status : Nat) : List String → Actor
  | [] => a.done status
  | arg :: rest =>
    match a.receiverOf arg with
    | .error reason => a.refuse reason
    | .ok receiver =>
      if a.isThere receiver then
        let a := match receiver with
          | .inl id => a.signal s id
          | .inr group => a.signalGroup s group
        a.sendAll s status rest
      else (a.complain "No such process\n").sendAll s 1 rest

def listSignals (a : Actor) : List String → Actor
  | [] =>
    let names := ((List.range Signal.count).drop 1).map fun n => Signal.name ⟨n⟩
    a.say (String.join ("0\n" :: names.map (· ++ "\n"))) 0
  | text :: _ => a.withCount text fun n =>
    let n := if n > 128 then n - 128 else n
    if 0 < n ∧ n < Signal.count then a.say (Signal.name ⟨n⟩ ++ "\n") 0
    else a.refuse ("invalid signal number or exit status: " ++ text)

def send (a : Actor) (args : List String) : Actor :=
  let sent := fun (s : Signal) (receivers : List String) =>
    if receivers.isEmpty then a.refuse killUsage else a.sendAll s 0 receivers
  match args with
  | [] => a.refuse killUsage
  | first :: rest =>
    -- A first argument behind a dash may be a signal; then it is no flag.
    let short := match first.toList with
      | '-' :: name => Signal.named? (String.ofList name)
      | _ => none
    match short with
    | some s => sent s rest
    | none =>
      a.withFlags { plain := "l", valued := "s" } args fun flags =>
        let named := flags.given.filterMap fun f => if f.1 = 's' then some f.2 else none
        match named.find? fun name => (Signal.named? name).isNone with
        | some name => a.refuse ("invalid signal number or name: " ++ name)
        | none =>
          match flags.has 'l', named.getLast?.bind Signal.named? with
          | true, some _ => if flags.left.isEmpty then a.listSignals [] else a.refuse killUsage
          | true, none => a.listSignals flags.left
          | false, s => sent (s.getD .terminate) flags.left

/-! ## Receiving signals -/

def conditionName (n : Nat) : String := if n = 0 then "EXIT" else Signal.name ⟨n⟩

def condition? (name : String) : Option Nat :=
  if String.ofList (name.toList.map Char.toUpper) = "EXIT" then some 0
  else (Signal.named? name).map (·.number)

def setTrap (a : Actor) (n : Nat) (action : Option String) : Actor :=
  let others := a.shell.traps.filter fun t => t.1 ≠ n
  let traps := match action with
    | some s => others ++ [(n, s)]
    | none => others
  let s : Signal := ⟨n⟩
  let kept := a.self.ignored.filter fun t => t ≠ s || a.shell.hardIgnored.contains s
  let ignored := if action = some "" ∧ n ≠ 0 then s :: kept else kept
  { a with self := { a.self with ignored := ignored }, shell := { a.shell with traps := traps } }

def setTraps (a : Actor) (action : Option String) : List String → Actor
  | [] => a.done 0
  | name :: rest =>
    match condition? name with
    | some n => (a.setTrap n action).setTraps action rest
    | none => (a.write 2 ("trap: " ++ name ++ ": bad trap\n")).1.done 1

/-- The actions as a script can write them. -/
def trapListing (a : Actor) : String :=
  let sorted := a.shell.traps.mergeSort fun x y => x.1 ≤ y.1
  String.join (sorted.map fun (n, s) => "trap -- " ++ quoted s ++ " " ++ conditionName n ++ "\n")

def isConditionNumber (text : String) : Bool :=
  !text.isEmpty && text.toList.all Char.isDigit && Shell.Numeral.digits 10 text.toList < Signal.count

def trap (a : Actor) (args : List String) : Actor :=
  a.withFlags {} args fun flags =>
    match flags.left with
    | [] => a.say a.trapListing 0
    | [name] => a.setTraps none [name]
    | action :: names =>
      if isConditionNumber action then a.setTraps none flags.left
      else a.setTraps (if action = "-" then none else some action) names

/-- Shows how long the shell and its children have worked. -/
def times (a : Actor) : Actor :=
  let none := "0m0.000000s 0m0.000000s\n"
  a.say (none ++ none) 0

end Actor
end BuildRunner.Host
