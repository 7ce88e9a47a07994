import BuildRunner.Host.Builtin.Job
import BuildRunner.Host.Builtin.Place
import BuildRunner.Shell.Builtin.Echo
import BuildRunner.Shell.Builtin.Printf
import BuildRunner.Shell.Builtin.Test

set_option autoImplicit false

/-! # Commands of a shell

The commands that a shell runs itself, by their names. Those that need time leave a frame behind
that goes on with them.
-/

namespace BuildRunner.Host

namespace Actor

def printf (a : Actor) (args : List String) : Actor :=
  a.withFlags {} args fun flags =>
    match flags.left with
    | [] => a.refuse "usage: printf format [arg ...]"
    | f :: rest =>
      let printed := Shell.Printf.output f rest
      let a := printed.complaints.foldl complain a
      let a := a.say printed.output printed.status
      (printed.failure.map a.refuse).getD a

def test (a : Actor) (name : String) (args : List String) : Actor :=
  let closes := fun (w : String) => w.toList.head? = some ']'
  if name = "[" ∧ !args.getLast?.any closes then a.refuse "missing ]"
  else
    let words := if name = "[" then args.dropLast else args
    match Shell.Test.holds (a.host.testView a.self) words with
    | .ok b => a.done (if b then 0 else 1)
    | .error reason => a.refuse reason

/-- Runs a command of the shell. `tested` says whether somebody looks at its failure. -/
def builtin (a : Actor) (name : String) (args : List String) (tested : Bool) : Actor :=
  match name with
  | ":" | "true" => a.done 0
  | "false" => a.done 1
  | "." => a.source args
  | "[" | "test" => a.test name args
  | "alias" => a.defineAlias args
  | "bg" | "fg" => a.moveJob args
  | "break" => a.leaveLoops false args
  | "cd" | "chdir" => a.changeDirectory args
  | "command" => a.describe args
  | "continue" => a.leaveLoops true args
  | "echo" => a.say (Shell.Echo.output args) 0
  | "eval" => a.evaluate args tested
  | "exec" => a.exec args
  | "exit" => a.exit args
  | "export" => a.mark name (·.exported) Shell.Memory.share args
  | "getopts" => a.nextOption args
  | "hash" => a.remembered args
  | "jobs" => a.listJobs args
  | "kill" => a.send args
  | "local" => a.localise args
  | "printf" => a.printf args
  | "pwd" => a.showDirectory args
  | "read" => a.readLine args
  | "readonly" => a.mark name (·.readOnly) Shell.Memory.protect args
  | "return" => a.leaveCall args
  | "set" => a.setSwitches args
  | "shift" => a.shift args
  | "times" => a.times
  | "trap" => a.trap args
  | "type" => a.describeAll args
  | "ulimit" => a.limit args
  | "umask" => a.mask args
  | "unalias" => a.unalias args
  | "unset" => a.unset args
  | "wait" => a.wait args
  | _ => a

end Actor
end BuildRunner.Host
