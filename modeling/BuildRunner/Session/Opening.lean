import BuildRunner.Config.Search
import BuildRunner.Host.Spawn
import BuildRunner.Session.Basic

set_option autoImplicit false

/-! # The beginning of a session

Before a session begins its command line is read, its settings are loaded and its directory is
found, in this order. A session that misses one of them does not begin.
-/

namespace BuildRunner.Session

open Host (Files Surroundings)

def settings (fs : Files) (s : Surroundings) (a : CommandLine.Asked) : Except ConfigError Config :=
  Config.load fs s.directory (match a.config with
    | some path => [path]
    | none => Config.pathsWith s.settingsDirectory)

/-- The path for a command line that names one or leaves it at the current directory, which may not be
known. -/
def path? (s : Surroundings) (a : CommandLine.Asked) : Option String :=
  a.directory.or (s.directory.map Host.Place.path)

/-- The directory for a command line, or the reason why there is none. -/
def directory (fs : Files) (s : Surroundings) (a : CommandLine.Asked) : Except String String :=
  match path? s a with
  | none => .error Host.FileError.notFound.message
  | some path =>
    if fs.isDirectoryAt s.directory path then .ok path else .error (path ++ " is not a directory")

/-- A program that ends before a session begins: its status and what it prints. -/
structure Farewell where
  status : Nat
  printed : Console.Printed
deriving Repr, DecidableEq

def farewell : CommandLine.Stop → Farewell
  | .help => ⟨success, ⟨.output, CommandLine.usageText⟩⟩
  | .version => ⟨success, ⟨.output, CommandLine.versionText⟩⟩
  | .refused => ⟨misuse, ⟨.error, CommandLine.usageText⟩⟩

structure Prepared where
  work : CommandLine.Work
  tool : Tool
  directory : String

def prepare (time : String) (fs : Files) (s : Surroundings) (a : CommandLine.Asked) :
    Except Farewell Prepared :=
  match settings fs s a with
  | .error e => .error ⟨misuse, Console.error e.message⟩
  | .ok config =>
    match directory fs s a with
    | .error reason =>
      .error ⟨misuse, Console.notice time (Notice.workingDirectoryUnresolved reason).text⟩
    | .ok dir => .ok ⟨a.work, .ofConfig config, dir⟩

def ofArgs (time : String) (fs : Files) (s : Surroundings) (args : List String) :
    Except Farewell Prepared :=
  match CommandLine.parse args with
  | .error stop => .error (farewell stop)
  | .ok a => prepare time fs s a

end BuildRunner.Session
