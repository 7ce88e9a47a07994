import BuildRunner.Host.SimpleCommand

set_option autoImplicit false

/-! # Commands made of others

How a shell runs commands that consist of others: in itself, in a child that it waits for, in
several children with pipes between them, or in a child that nobody waits for. Words that they
need are expanded first, one at a time.
-/

namespace BuildRunner.Host

open Shell (Command Expanding Redirection Word)

namespace Actor

/-! ## Expansion -/

/-- Starts a child for a command whose redirections are known. -/
def startEnclosed (a : Actor) (line : Nat) (mode : Mode) (o : Openings) (body : Command)
    (descriptors : Descriptors) : Nat × Actor :=
  a.spawnShell descriptors [.expand (.enclosed line mode o .inside body) []]

/-- The next expansion for a command with redirections, and what the shell does with it. -/
def expandEnclosed (a : Actor) (line : Nat) (mode : Mode) (o : Openings) (e : Enclosure)
    (body : Command) : Expanding (Actor → Actor) :=
  match o.left, e, o.targets with
  | r :: rs, _, ts => do
    let t ← target r
    return (·.pursue (.enclosed line mode { left := rs, targets := ts ++ [t] } e body))
  | [], .here saved, t :: ts => do
    let text ← a.textFor t
    return fun a =>
      match text.bind (a.perform (some saved.displaced) t) with
      | .error reason =>
        (((a.complain reason).done 2).restore saved).push [.verify mode.tested]
      | .ok (a, kept) =>
        let saved := { saved with displaced := kept.getD [] }
        a.pursue (.enclosed line mode { left := [], targets := ts } (.here saved) body)
  | [], .here saved, [] =>
    return (·.push [.run body { tested := mode.tested }, .restore saved])
  | [], .inside, t :: ts => do
    let text ← a.textFor t
    return fun a =>
      match text.bind (a.perform none t) with
      | .error reason => a.die reason
      | .ok (a, _) => a.pursue (.enclosed line mode { left := [], targets := ts } .inside body)
  | [], .inside, [] => return (·.push [.run body { mode with last := true }])
  | [], .child, _ =>
    return fun a =>
      -- The last command needs no child: the shell becomes it, unless it has traps to keep.
      if mode.last ∧ !a.hasTraps then
        { a with shell := a.inChild [.expand (.enclosed line mode o .inside body) []] }
      else
        let (id, a) := a.makeRoom.startEnclosed line mode o body a.self.descriptors
        a.push [.await [id]]
  | [], .background, _ =>
    return fun a =>
      let (a, input) := a.makeRoom.withoutInput
      let (id, a) := a.startEnclosed line {} o body input
      (a.detach [id]).done 0

/-- The next expansion for a choice, and what the shell does with it. -/
def expandArms (text : String) (arms : List (List Word × Command)) (mode : Mode) :
    Expanding (Actor → Actor) :=
  match arms with
  | [] => return (·.done 0)
  | ([], _) :: rest => return (·.pursue (.arms text rest mode))
  | (w :: ws, body) :: rest => do
    let p ← Shell.expandPattern w
    return fun a =>
      if p.accepts text.toList then
        match body with
        | .nothing => a.done 0
        | body => a.push [.run body mode]
      else a.pursue (.arms text ((ws, body) :: rest) mode)

def expandFor (a : Actor) (p : Purpose) : Expanding (Actor → Actor) :=
  match p with
  | .call c => a.expandCall c
  | .enclosed line mode o e body => a.expandEnclosed line mode o e body
  | .items name (w :: ws) fields body tested => do
    let more ← Shell.expandFields a.matching w
    return (·.pursue (.items name ws (fields ++ more) body tested))
  | .items name [] fields body tested =>
    return fun a => if fields.isEmpty then a.done 0 else a.push [.each name fields body tested]
  | .subject w arms mode => do
    let text ← Shell.expandText w
    return (·.pursue (.arms text arms mode))
  | .arms text arms mode => expandArms text arms mode

/-! ## Outputs of scripts -/

def isForTrace : Purpose → Bool
  | .call c => c.words.isEmpty && c.openings.left.isEmpty && c.openings.targets.isEmpty &&
      c.given.isEmpty
  | _ => false

/-- Starts a script whose output an expansion needs; one without commands has no output. -/
def substitute (a : Actor) (p : Purpose) (outputs : List String) (script : Command)
    (memory : Shell.Memory) : Actor :=
  match script with
  | .nothing => a.push [.expand p (outputs ++ [""])]
  | script =>
    let (r, w, a) := a.makeRoom.pipe
    let child := a.inChild [.run script { last := true }]
    let child := { child with memory := memory, isTracing := child.isTracing || isForTrace p }
    let (id, a) := a.spawn (redirectTo a.self.descriptors 1 w) (.shell child)
    let fd := freeDescriptor a.self.descriptors
    (a.withDescriptors ((fd, r) :: a.self.descriptors)).push [.collect p outputs fd id []]

/-- The text of an output: line feeds at its end do not count. -/
def outputText (bytes : List UInt8) : String :=
  narrow (((bytes.filter (· ≠ 0)).reverse.dropWhile (· = 10)).reverse)

/-- Reads the output of a script, if there is any news. -/
def collect (a : Actor) (p : Purpose) (outputs : List String) (fd child : Nat)
    (parts : List (List UInt8)) : Option Actor :=
  match a.host.read a.self fd with
  | (.bytes bs, h) =>
    some ({ a with host := h }.push [.collect p outputs fd child (bs :: parts)])
  | (.nothingYet, _) => none
  | _ =>
    match a.host.process? child with
    | none => some (finished a 0)
    | some q => q.ending.map fun e => finished ((a.announce e).reap child).notice e.status
where
  /-- Goes on with the expansion. -/
  finished (a : Actor) (status : Nat) : Actor :=
    let a := a.withDescriptors (closed a.self.descriptors fd)
    let a := { a with shell := { a.shell with substituted := status } }
    a.push [.expand p (outputs ++ [outputText parts.reverse.flatten])]

def expand (a : Actor) (p : Purpose) (outputs : List String) : Actor :=
  match (a.expandFor p).run { memory := a.memory, outputs := outputs } with
  | .ok (next, progress) => next (a.withMemory progress.memory)
  | .error (.failure reason) => (a.pursue p).die reason
  | .error (.output script memory) => a.substitute p outputs script memory

/-! ## Running -/

/-- Looks at the status after a command. -/
def verifying (a : Actor) (mode : Mode) : Actor := a.push [.verify mode.tested]

/-- Begins a command on a line. -/
def onLine (a : Actor) (line : Nat) : Actor := { a with shell := { a.shell with line := line } }

/-- Looks for the program of a stage before the stage is started. -/
def prepareStage (a : Actor) (c : Command) : Actor :=
  match c with
  | .simple _ _ (w :: _) _ => ((Word.plain? w).map a.locateSoon).getD a
  | _ => a

/-- Starts the stages of a pipeline, of which the first one reads from what `input` has. -/
def startStages (a : Actor) (mode : Mode) (input : Descriptors) : List Command → List Nat × Actor
  | [] => ([], a)
  | c :: rest =>
    let a := a.prepareStage c
    let frames := [Frame.run c { mode with last := true }]
    if rest.isEmpty then
      let (id, a) := a.spawnShell input frames
      ([id], a)
    else
      let (r, w, a) := a.pipe
      let (id, a) := a.spawnShell (redirectTo input 1 w) frames
      let (ids, a) := a.startStages mode (redirectTo a.self.descriptors 0 r) rest
      (id :: ids, a)

def startInBackground (a : Actor) (stages : List Command) : Actor :=
  let (a, input) := a.makeRoom.withoutInput
  let (ids, a) := a.startStages {} input stages
  (a.detach ids).done 0

def define (a : Actor) (name : String) (body : Command) : Actor :=
  let others := a.shell.functions.filter fun f => f.1 ≠ name
  { a with shell := { a.shell with functions := (name, body) :: others } }.done 0

/-- Runs a command: begins with its words, or replaces it by what it consists of. -/
def run (a : Actor) (c : Command) (mode : Mode) : Actor :=
  let saved : Saved := { command := a.shell.command }
  match c with
  | .simple line given words rs =>
    let a := { a with shell := { a.shell with line := line, substituted := 0 } }
    let call : Call := {
      line := line, mode := mode, words := words, openings := { left := rs }, given := given
      saved := saved }
    (a.verifying mode).pursue (.call call)
  | .pipeline stages =>
    let (ids, a) := a.makeRoom.startStages mode a.self.descriptors stages
    (a.verifying mode).push [.await ids]
  | .negation body => a.push [.run body { tested := true }, .invert]
  | .both x y => a.push [.run x { tested := true }, .onStatus true y mode]
  | .either x y => a.push [.run x { tested := true }, .onStatus false y mode]
  | .sequence x y => a.push [.run x { tested := mode.tested }, .run y mode]
  | .background (.pipeline stages) [] => a.startInBackground stages
  | .background body rs =>
    (a.onLine a.shell.line).pursue (.enclosed a.shell.line mode { left := rs } .background body)
  | .subshell line body rs =>
    ((a.onLine line).verifying mode).pursue (.enclosed line mode { left := rs } .child body)
  | .redirected line body rs =>
    (a.onLine line).pursue (.enclosed line mode { left := rs } (.here saved) body)
  | .conditional test yes no => a.push [.run test { tested := true }, .branch yes no mode]
  | .loop stopsOn test body =>
    a.push [.run test { tested := true }, .loopTest stopsOn test body mode.tested 0]
  | .each line name words body =>
    (a.onLine line).pursue (.items name words [] body mode.tested)
  | .choice line subject arms => (a.onLine line).pursue (.subject subject arms mode)
  | .definition name body => a.define name body
  | .nothing => a

end Actor
end BuildRunner.Host
