import BuildRunner.Host.Compound
import BuildRunner.Shell.Builtin.Read

set_option autoImplicit false

/-! # Steps of a shell

A shell takes the first of the frames that are left to it and does what it asks for. A frame may
have to wait: for input, for a child, for the clock. Actions for signals are run between
commands, not in the middle of one.
-/

namespace BuildRunner.Host

open Shell (Command Source)

namespace Actor

/-! ## Scripts -/

/-- Writes the lines that have been read of a script, if the shell is to do so. -/
def showLines (a : Actor) (origin : Origin) (read : List Char) : Actor :=
  match origin with
  | .file | .input _ => if a.memory.has .verbose then (a.write 2 (String.ofList read)).1 else a
  | _ => a

def firstLines : Nat → List Char → List Char
  | 0, _ => []
  | _, [] => []
  | n + 1, c :: cs => c :: firstLines (if c = '\n' then n else n + 1) cs

/-- Waits for more of a script that arrives at the standard input. -/
def moreScript (a : Actor) (s : Source) (ran tested : Bool) : Option Actor :=
  match a.host.read a.self 0 with
  | (.nothingYet, _) => none
  | (.bytes bs, h) =>
    let s := { s with rest := s.rest ++ (narrow bs).toList }
    some ({ a with host := h }.push [.script s (.input false) ran tested])
  | (_, h) => some ({ a with host := h }.push [.script s (.input true) ran tested])

/-- Runs the next command of a script, before the rest `s` of it. -/
def runNext (a : Actor) (c : Command) (s : Source) (origin : Origin) (ran tested : Bool) : Actor :=
  let shell := { a.shell with
    documents := s.documents ++ a.shell.documents
    nextDocument := s.nextDocument }
  let a := { a with shell := shell }
  let atEnd : Bool := match s.isPushed, s.last with
    | true, .ending => true
    | _, _ => false
  let last := origin = .argument && atEnd && a.shell.stack.isEmpty
  let rest : List Frame := [.script { s with documents := [] } origin true tested]
  match c with
  | .nothing => a.push [.script { s with documents := [] } origin ran tested]
  | c => a.push (.run c { last := last, tested := tested } :: if last then [] else rest)

def readScript (a : Actor) (s : Source) (origin : Origin) (ran tested : Bool) : Option Actor :=
  let start := { s with
    aliases := a.shell.aliases, nextDocument := a.shell.nextDocument, sawEnd := false }
  let needsMore := fun (sawEnd : Bool) => sawEnd && origin = .input false
  match start.nextCommand with
  | .error r =>
    if needsMore r.atEnd then a.moreScript s ran tested
    else
      let a := a.showLines origin (firstLines (r.line + 1 - s.line) s.rest)
      some ({ a with shell := { a.shell with line := r.line } }.die r.reason)
  | .ok (c, rest) =>
    if needsMore (rest.sawEnd || c.isNone) then a.moreScript s ran tested
    else
      let a := a.showLines origin (s.rest.take (s.rest.length - rest.rest.length))
      match c with
      | none => some (if ran then a else a.done 0)
      | some c => some (a.runNext c rest origin ran tested)

/-- Gives back what was saved for a command that is over. A variable cannot be given back if its
name is none. -/
def restoreAll (a : Actor) (saved : Saved) : Actor :=
  let misnamed? := saved.kept.findSome? fun k =>
    match k with
    | .variable name _ => if Shell.isName name.toList then none else some name
    | .switches _ => none
  let a := a.restore saved
  (misnamed?.map fun name => a.die (name ++ ": bad variable name")).getD a

/-! ## Waiting -/

def await (a : Actor) (children : List Nat) : Option Actor :=
  if children.any a.host.isAlive then none
  else
    let endings := children.filterMap fun id => (a.host.ending? id).map fun e => (id, e)
    let a := endings.foldl (fun (a : Actor) (id, e) => (a.announce e).reap id) a
    some (a.notice.done ((endings.getLast?.map fun x => x.2.status).getD 127))

/-- Stops waiting because of a signal, if one has arrived and was not heard long enough. -/
def interrupted (a : Actor) (patience : Nat) (again : Nat → Frame) : Option Actor :=
  a.shell.pending.getLast?.map fun s =>
    match patience with
    | 0 => a.done (128 + s.number)
    | n + 1 => a.push [again n]

def awaitAll (a : Actor) (patience : Nat) : Option Actor :=
  let a := a.notice
  let a := a.withJobs a.shell.jobs.acknowledge
  if !a.shell.jobs.running.isEmpty then a.interrupted patience .waitAll else some (a.done 0)

def noticeJob (a : Actor) (j : Job) : Actor :=
  j.members.foldl (fun a (id, known) =>
    match known, a.host.ending? id with
    | none, some e => ((a.announce e).withJobs (a.shell.jobs.notice id e)).reap id
    | _, _ => a) a

/-- Goes on with waiting for jobs that have been named. `status` is that of the job before. -/
def awaitNamed (a : Actor) (names : List String) (status patience : Nat) : Option Actor :=
  match names with
  | [] => some (a.done status)
  | name :: rest =>
    let job? : Except String (Option (Nat × Job)) :=
      if name.startsWith "%" then (a.shell.jobs.named name).map some
      else (Shell.Numeral.count name).map a.shell.jobs.ofMember?
    match job? with
    | .error reason => some (a.refuse reason)
    | .ok none => some (a.push [.wait rest status patience])
    | .ok (some (n, j)) =>
      let a := (a.noticeJob j).notice
      match a.shell.jobs.at? n with
      | none => some (a.push [.wait rest status patience])
      | some j =>
        if j.isRunning then a.interrupted patience (.wait names status)
        else
          let a := a.withJobs (a.shell.jobs.put n { j with waited := true })
          some (a.push [.wait rest j.status patience])

/-! ## Input -/

def storeLine (a : Actor) (names : List String) (raw : Bool) (line : List Char) (status : Nat) :
    Actor :=
  match Shell.Read.into a.memory raw names line with
  | (m, none) => (a.withMemory m).done status
  | (m, some reason) => (a.withMemory m).refuse reason

/-- Reads a line into variables. A signal ends the line. -/
def continueLine (a : Actor) (names : List String) (raw : Bool) (line : List Char) :
    Option Actor :=
  match a.host.read a.self 0 with
  | (.bytes bs, h) =>
    let all := line ++ (narrow bs).toList
    let a := { a with host := h }
    match Shell.Read.lineOf raw all with
    | some (line, rest) =>
      let a := { a with host := a.host.putBack a.self 0 (bytesOf (String.ofList rest)) }
      some (a.storeLine names raw line 0)
    | none => some (a.push [.readLine names raw all])
  | (.nothingYet, _) => if a.shell.pending.isEmpty then none else some (a.storeLine names raw line 1)
  | _ => some (a.storeLine names raw line 1)

/-! ## Steps -/

/-- Does what a frame asks for; the frame has been taken from the stack. -/
def act (a : Actor) (f : Frame) : Option Actor :=
  match f with
  | .script s origin ran tested => a.readScript s origin ran tested
  | .run c mode => some (if a.memory.has .readOnly then a else a.run c mode)
  | .delay 0 => some a
  | .delay (n + 1) => some (a.push [.delay n])
  | .expand p outputs => some (a.expand p outputs)
  | .collect p outputs fd child parts => a.collect p outputs fd child parts
  | .onStatus success c mode =>
    some (if (a.status = 0) = success then a.push [.run c mode] else a)
  | .invert => some (a.done (if a.status = 0 then 1 else 0))
  | .verify tested =>
    some (if !tested ∧ a.memory.has .exitOnFailure ∧ a.status ≠ 0 then a.leave a.status else a)
  | .branch yes no mode =>
    match a.status, no with
    | 0, _ => some (a.push [.run yes mode])
    | _, .nothing => some (a.done 0)
    | _, no => some (a.push [.run no mode])
  | .loopTest stopsOn test body tested result =>
    if (a.status = 0) = stopsOn then some (a.done result)
    else some (a.push [.run body { tested := tested }, .loopBody stopsOn test body tested])
  | .loopBody stopsOn test body tested =>
    some (a.push [.run test { tested := true }, .loopTest stopsOn test body tested a.status])
  | .each name words body tested =>
    match words with
    | [] => some a
    | w :: ws =>
      match a.memory.assign name w with
      | .ok m => some ((a.withMemory m).push [.run body { tested := tested }, .each name ws body tested])
      | .error reason => some (a.die reason)
  | .restore saved => some (a.restoreAll saved)
  | .call _ | .trapped _ => some (a.abandon f)
  | .sourced | .catching => some a
  | .await children => a.await children
  | .wait names status patience => a.awaitNamed names status patience
  | .waitAll patience => a.awaitAll patience
  | .readLine names raw line => a.continueLine names raw line
  | .leave status =>
    some { a with host := a.host.finish a.self.id (.exited (status % 256)) }

/-- Whether actions for signals have to wait until a frame is done. -/
def isPatient : Frame → Bool
  | .expand .. | .collect .. | .restore _ | .call _ | .catching | .trapped _ | .await _ | .wait ..
  | .waitAll _ | .readLine .. => true
  | _ => false

def runTraps (a : Actor) : Actor :=
  let numbers := (a.shell.pending.map (·.number)).mergeSort fun m n => m ≤ n
  let actions := numbers.filterMap fun n => a.shell.traps.lookup n
  let frames := actions.flatMap fun action =>
    [Frame.script (sourceOf action) .text false false, .trapped a.status]
  { a with shell := { a.shell with pending := [] } }.push frames

/-- One step, if the shell does not wait. -/
def once (a : Actor) : Option Actor :=
  match a.shell.pending, a.shell.stack with
  | [], [] => some (a.leave a.status)
  | _ :: _, [] => some a.runTraps
  | [], f :: rest => (a.withStack rest).act f
  | _ :: _, f :: rest => if isPatient f then (a.withStack rest).act f else some a.runTraps

/-- How many expansions are made in one go. -/
def expansionsInOneGo : Nat := 1000

/-- Goes on as long as words are expanded. -/
def proceed : Nat → Actor → Actor
  | 0, a => a
  | n + 1, a =>
    match a.shell.stack with
    | .expand p outputs :: rest =>
      if a.host.isAlive a.self.id ∧ a.successor.isNone then
        proceed n ((a.withStack rest).expand p outputs)
      else a
    | _ => a

def step (a : Actor) : Option Actor := a.once.map (proceed expansionsInOneGo)

end Actor
end BuildRunner.Host
