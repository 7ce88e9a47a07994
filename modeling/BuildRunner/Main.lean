import BuildRunner.Session.Terminal

set_option autoImplicit false

/-! # The program

Runs a session with the arguments, the variables and the standard input of this process. The
tool runs on a host that holds the files as they are found when the session begins; time passes
there as it does here.
-/

namespace BuildRunner.Main

/-- How deep in a directory files are looked for. -/
def depth : Nat := 4

/-- Adds a file, or a directory with what is in it, down to a depth. What cannot be read is left
out. -/
def gather (files : Host.Files) (path : String) : Nat → IO Host.Files
  | 0 => return files
  | depth + 1 => do
    let place := Host.Place.follow [] path
    try
      let found ← IO.FS.realPath path
      if ← found.isDir then
        let mut all := files.install place .directory
        for entry in ← found.readDir do
          all ← gather all (Path.join path entry.fileName) depth
        return all
      else
        let bytes ← IO.FS.readBinFile path
        return files.install place (Host.Files.ordinary bytes.toList)
    catch _ => return files

def getEnvironment : IO Environment :=
  ["PATH", "HOME", "XDG_CONFIG_HOME"].filterMapM fun name => do
    return (← IO.getEnv name).map fun value => (name, value)

/-- The paths besides the current directory that a session may look at. -/
def paths (environment : Environment) (args : List String) : List String :=
  let named := match CommandLine.parse args with
    | .ok a => a.config.toList ++ a.directory.toList
    | .error _ => []
  Config.searchPaths environment ++ named

def host (directory : String) (environment : Environment) (args : List String) :
    IO Host.Machine := do
  let found := (paths environment args).map (Path.join directory)
  return { files := ← (directory :: found).foldlM (gather · · depth) Host.Files.initial }

/-- The next line, with the line feed that ends it; it is empty at the end of the input. -/
partial def readLine (input : IO.FS.Stream) (line : List UInt8) : IO (List UInt8) := do
  match (← input.read 1).toList with
  | [b] => if b = Line.feed then return (b :: line).reverse else readLine input (b :: line)
  | _ => return line.reverse

/-- Prints what was printed in a session behind the first `n` lines. -/
def print (t : Terminal) (n : Nat) : IO Unit := do
  for p in t.printedAfter n do
    match p.stream with
    | .output => IO.println p.text
    | .error => IO.eprintln p.text
  (← IO.getStdout).flush

/-- Goes on with a session of which `n` lines were printed, and which stands at the time `since`,
up to its end. -/
partial def serve (input : IO.FS.Stream) (t : Terminal) (n since : Nat) : IO Terminal := do
  let t := t.wait (fun _ => false) 0
  print t n
  let n := t.printed.length
  if t.stage = .reading then
    let line ← readLine input []
    let now ← IO.monoMsNow
    let t := t.wait (fun _ => false) ((now - since) * 1000)
    serve input (if line.isEmpty then t.endInput.finish else t.type line) n now
  else
    let t := t.finish
    print t n
    return t

end BuildRunner.Main

open BuildRunner

def main (args : List String) : IO UInt32 := do
  let environment ← Main.getEnvironment
  let directory := (← IO.currentDir).toString
  let host ← Main.host directory environment args
  let surroundings : Host.Surroundings :=
    { directory := some (Host.Place.follow [] directory), environment := environment }
  let terminal := Terminal.run host surroundings (fun clock => (Elapsed.ofMicros clock).text) args
  let terminal ← Main.serve (← IO.getStdin) terminal 0 (← IO.monoMsNow)
  return UInt32.ofNat (terminal.status?.getD Session.failure)
