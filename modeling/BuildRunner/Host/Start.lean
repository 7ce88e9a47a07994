import BuildRunner.Host.Machine
import BuildRunner.Host.Utility.Echo
import BuildRunner.Host.Utility.Sleep
import BuildRunner.Shell.Builtin.Printf
import BuildRunner.Shell.Builtin.Test

set_option autoImplicit false

/-! # Starting programs

What a process does when it has become a certain program with certain arguments. Arguments,
environments and outputs are narrow texts.
-/

namespace BuildRunner.Host

open Shell (Memory Switch Switches Variable)

/-! ## Files as programs see them -/

namespace Machine

/-- Whether a file has a property, by the letter that names it in a test. -/
def hasProperty (h : Machine) (p : Process) (letter : Char) (path : String) : Bool :=
  let isOpen := (descriptorNamed? path).map fun fd => h.lookUp p fd
  match isOpen with
  | some none => false
  | some (some (_, d)) =>
    match d with
    | .reader _ | .writer _ => "erwpOG".toList.contains letter
    | .null => "erwcOG".toList.contains letter
    | .directory => "erwdxsOG".toList.contains letter
    | .file n _ _ => "erwfOG".toList.contains letter ||
        (letter = 's' && !(h.files.body n).content.isEmpty)
  | none =>
    match h.files.find p.directory (widen path) with
    | .error _ => false
    | .ok e =>
      if "erwOG".toList.contains letter then true
      else if letter = 'k' then
        (h.files.locate p.directory (widen path)).toOption.any Files.isShared
      else
        match e with
        | .directory => letter = 'd' || letter = 'x' || letter = 's'
        | .file bytes executable =>
          letter = 'f' || (letter = 's' && !bytes.isEmpty) || (letter = 'x' && executable)
        | .utility _ => letter = 'f' || letter = 's' || letter = 'x'
        | .null => letter = 'c'

def compareFiles (h : Machine) (p : Process) (op a b : String) : Bool :=
  let place := fun (path : String) => (h.files.locate p.directory (widen path)).toOption.filter
    fun q => (h.files.slot? q).isSome
  let age := fun (q : Place) =>
    match h.files.slot? q with
    | some (.file n) => (h.files.body n).changed
    | _ => 0
  match place a, place b with
  | some x, some y =>
    if op = "-ef" then x = y
    else if op = "-nt" then age y < age x
    else if op = "-ot" then age x < age y
    else false
  | _, _ => false

def testView (h : Machine) (p : Process) : Shell.Test.View := ⟨h.hasProperty p, h.compareFiles p⟩

end Machine

/-! ## Shells -/

def initialVariables (root : Bool) : List (String × String) :=
  [("PS1", if root then "# " else "$ "), ("PS2", "> "), ("PS4", "+ "),
   ("PATH", "/usr/local/sbin:/usr/local/bin:/usr/sbin:/usr/bin:/sbin:/bin")]

def newMemory (p : Process) (directory name : String) (args : List String) (env : Environment) :
    Memory :=
  let imported := (env.filter fun x => Shell.isName x.1.toList).map fun (n, v) =>
    (n, ({ value := some v, exported := true } : Variable))
  let m : Memory := { bindings := imported, arguments := args, name := name, root := p.id }
  let m := (initialVariables true).foldl (fun m (n, v) =>
    if (m.find? n).isSome then m else m.set n v) m
  let m := ((m.set "IFS" " \t\n").set "OPTIND" "1").set "PPID" (toString p.parent)
  (m.set "PWD" directory).share "PWD"

/-- The arguments of a shell, read up to its script. -/
structure ShellArgs where
  /-- Whether the script is an argument itself. -/
  isInline : Bool := false
  switches : Switches := {}
  /-- What is written about switches. -/
  listing : String := ""
  fault : Option String := none
  left : List String := []
  /-- Whether two dashes stand behind everything else. -/
  endsBare : Bool := false

def illegalOption (c : Char) : String := "Illegal option -" ++ String.singleton c

/-- The switches, one to a line, as a person reads them or as a script can set them. -/
def switchListing (s : Switches) (forScripts : Bool) : String :=
  let line := fun (x : Switch × Option Char × String) =>
    let on := s.has x.1
    if forScripts then "set " ++ (if on then "-o " else "+o ") ++ x.2.2 ++ "\n"
    else x.2.2 ++ String.ofList (List.replicate (16 - x.2.2.length) ' ') ++
      (if on then "on" else "off") ++ "\n"
  (if forScripts then "" else "Current option settings\n") ++ String.join (Switch.table.map line)

/-- Arguments with one more letter of an option, before `rest`; the arguments behind it. -/
def ShellArgs.withLetter (s : ShellArgs) (on atStart : Bool) (rest : List String) (c : Char) :
    ShellArgs × List String :=
  if s.fault.isSome then (s, rest)
  else if c = 'c' ∧ atStart then ({ s with isInline := true }, rest)
  else if c = 'l' ∧ atStart then (s, rest)
  else if c = 'o' then
    match rest with
    | [] => ({ s with listing := s.listing ++ switchListing s.switches (!on) }, [])
    | name :: rest =>
      match Switch.named? name with
      | some x => ({ s with switches := s.switches.set x on }, rest)
      | none => ({ s with fault := some ("Illegal option -o " ++ name) }, rest)
  else
    match Switch.ofLetter? c with
    | some x => ({ s with switches := s.switches.set x on }, rest)
    | none => ({ s with fault := some (illegalOption c) }, rest)

/-- Reads the options in front of arguments: those with which a shell starts, or those that a
script sets. `left` is what is behind them. -/
def ShellArgs.read (s : ShellArgs) (atStart : Bool) : Nat → List String → ShellArgs
  | 0, args => { s with left := args }
  | _, [] => s
  | fuel + 1, arg :: rest =>
    match arg.toList with
    | ['-'] =>
      let quiet := (s.switches.set .trace false).set .verbose false
      { s with left := rest, switches := if atStart then s.switches else quiet }
    | ['-', '-'] => { s with left := rest, endsBare := rest.isEmpty }
    | sign :: letters =>
      if sign ≠ '-' ∧ sign ≠ '+' then { s with left := arg :: rest }
      else
        let (s, rest) := letters.foldl
          (fun (x : ShellArgs × List String) c => x.1.withLetter (sign = '-') atStart x.2 c) (s, rest)
        if s.fault.isSome then s else s.read atStart fuel rest
    | [] => { s with left := arg :: rest }

/-- What a program that reports an error and exits does. -/
def failing (message : String) (status : Nat) : Program :=
  .report [] (bytesOf (message ++ "\n")) status

namespace Machine

/-- The script in a file that a shell is to run, or why there is none. A directory is empty. -/
def scriptAt (h : Machine) (p : Process) (path : String) : Except FileError String :=
  match h.openPath p path .read false with
  | .ok (.file number _ _, _) => .ok (narrow (h.files.body number).content)
  | .ok _ => .ok ""
  | .error e => .error e

/-- The path of the directory that a process works in: what the environment says if it is true. -/
def workingPath (h : Machine) (p : Process) (env : Environment) : String :=
  let own := (p.directory.map fun d => narrowText d.path).getD ""
  match env.get? "PWD" with
  | some path =>
    if path.startsWith "/" ∧ (h.files.locate none (widen path)).toOption = p.directory then path
    else own
  | none => own

def shellProgram (h : Machine) (p : Process) (env : Environment) (name : String)
    (args : List String) : Program :=
  let read := ShellArgs.read {} true (args.length + 1) args
  let directory := h.workingPath p env
  let make := fun (name : String) (args : List String) (switches : Switches) (frames : List Frame) =>
    Program.shell {
      memory := { newMemory p directory name args env with switches := switches }
      directory := directory
      hardIgnored := p.ignored
      stack := frames }
  let input : Frame := .script { rest := [] } (.input false) false false
  let switches := read.switches
  match read.fault with
  | some m => failing (name ++ ": 0: " ++ m) 2
  | none =>
    if read.isInline then
      match read.left with
      | [] => failing (name ++ ": 0: -c requires an argument") 2
      | script :: rest =>
        let inline := Frame.script { rest := script.toList } .argument false false
        -- With both switches the input is read when the argument has been run.
        let reads := switches.has .fromInput
        make (rest.headD name) (rest.drop 1) switches (if reads then [inline, input] else [inline])
    else if switches.has .fromInput then make name read.left switches [input]
    else
      match read.left with
      | [] => make name [] (switches.set .fromInput true) [input]
      | file :: rest =>
        match h.scriptAt p file with
        | .ok script =>
          make file rest switches [.script { rest := script.toList } .file false false]
        | .error e =>
          let reason := match e with
            | .notFound | .notDirectory => "No such file"
            | e => e.text
          failing (name ++ ": 0: cannot open " ++ file ++ ": " ++ reason) 2

/-! ## Utilities -/

def builtinProgram (h : Machine) (p : Process) (u name : String) (args : List String) : Program :=
  let say := fun (s : String) (status : Nat) => Program.report (bytesOf s) [] status
  if u = "echo" then say (Echo.output args) 0
  else if u = "printf" then
    match args with
    | [] => failing (name ++ ": missing operand\n" ++ hint name) 1
    | f :: rest =>
      let printed := Shell.Printf.output f rest
      let faults := printed.complaints ++ printed.failure.toList
      .report (bytesOf printed.output)
        (bytesOf (String.join (faults.map fun c => name ++ ": " ++ c ++ "\n")))
        (if faults.isEmpty then 0 else 1)
  else if u = "true" then say "" 0
  else if u = "pwd" then say ((p.directory.map fun d => narrowText d.path).getD "" ++ "\n") 0
  else if u = "[" ∧ args.getLast? ≠ some "]" then failing (name ++ ": missing ']'") 2
  else if u = "test" ∨ u = "[" then
    match Shell.Test.holds (h.testView p) (if u = "[" then args.dropLast else args) with
    | .ok b => say "" (if b then 0 else 1)
    | .error e => failing (name ++ ": " ++ e) 2
  else say "" 1

def readable (h : Machine) (p : Process) : Sed.Readable := fun path =>
  match h.openPath p path .read false with
  | .ok (.file number position _, _) => .ok (narrow ((h.files.body number).content.drop position))
  | .ok (.directory, _) => .error .isDirectory
  | .ok _ => .ok ""
  | .error e => .error e

def canWrite (h : Machine) (p : Process) (path : String) : Except FileError Unit :=
  (h.openPath p path .append false).map fun _ => ()

/-- Whether a path leads to a standard input that can only be read from its front on. -/
def isStandardInput (h : Machine) (p : Process) (path : String) : Bool :=
  match (descriptorNamed? path).filter (· = 0), h.lookUp p 0 with
  | some _, some (_, .reader _) => true
  | _, _ => false

def editorProgram (h : Machine) (p : Process) (files : Sed.Readable) (name : String)
    (args : List String) : Program :=
  match Sed.Call.ofArgs name files (h.canWrite p) args with
  | .ok e => .edit { e with left := e.left.map fun n => if h.isStandardInput p n then "-" else n }
  | .error (message, status) => failing message status

def utilityProgram (h : Machine) (p : Process) (env : Environment) (u : Utility) (name : String)
    (args : List String) : Program :=
  match u with
  | .shell => h.shellProgram p env name args
  | .cat =>
    match Cat.ofArgs name args with
    | .ok c => .cat c
    | .error m => failing m 1
  | .wordCount =>
    match WordCount.ofArgs name args with
    | .ok c => .count c
    | .error m => failing m 1
  | .sleep =>
    match Sleep.ofArgs name args with
    | .ok d => .sleep (h.clock + d)
    | .error m => failing m 1
  | .transliterate =>
    let (warnings, made) := Transliterate.ofArgs name args
    let warned := String.join (warnings.map (· ++ "\n"))
    match made with
    | .ok t => .transliterate { t with warnings := warned }
    | .error m => .report [] (bytesOf (warned ++ m ++ "\n")) 1
  | .sed =>
    if Sed.Call.readsScript args then .gather name args []
    else h.editorProgram p (h.readable p) name args
  | .builtin n => h.builtinProgram p n name args

/-! ## Scripts in files -/

/-- The interpreter that a script names, and the argument it gives it. -/
def interpreterOf (content : List UInt8) : String × List String :=
  let line := narrow ((content.drop Files.scriptMark.length).takeWhile (· ≠ 10))
  let isBlank := fun c => c = ' ' || c = '\t'
  let cs := line.toList.dropWhile isBlank
  let name := String.ofList (cs.takeWhile fun c => !isBlank c)
  let rest := (cs.dropWhile fun c => !isBlank c).dropWhile isBlank
  let rest := (rest.reverse.dropWhile isBlank).reverse
  (name, if rest.isEmpty then [] else [String.ofList rest])

/-- What a process does that has become the program at a path, which is known to its caller as
`name`. The arguments do not include the name. -/
def programAt (h : Machine) (p : Process) (env : Environment) (name path : String)
    (args : List String) : Nat → Except FileError Program
  | 0 => .error .notFound
  | fuel + 1 => do
    match ← h.files.find p.directory (widen path) with
    | .directory | .null => .error .accessDenied
    | .utility u => .ok (h.utilityProgram p env u name args)
    | .file content executable =>
      if !executable then .error .accessDenied
      else if Files.scriptMark.isPrefixOf content then
        let (interpreter, extra) := interpreterOf content
        if interpreter = "" then .error .badFormat
        else h.programAt p env interpreter interpreter (extra ++ path :: args) fuel
      else .error .badFormat

/-- How many interpreters may name one another. -/
def interpreterLimit : Nat := 5

def program (h : Machine) (p : Process) (env : Environment) (name path : String)
    (args : List String) : Except FileError Program :=
  h.programAt p env name path args interpreterLimit

/-- What a process does that a shell has made the program at a path: a file without an
interpreter is a script of the shell. -/
def programForShell (h : Machine) (p : Process) (env : Environment) (name path : String)
    (args : List String) : Except FileError Program :=
  match h.program p env name path args with
  | .error .badFormat => .ok (h.shellProgram p env "/bin/sh" (path :: args))
  | r => r

end Machine
end BuildRunner.Host
