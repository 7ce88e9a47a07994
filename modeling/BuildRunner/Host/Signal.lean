set_option autoImplicit false

/-! # Signals

The signals of a host, by number. A process that neither ignores nor catches a signal ends by
it, unless the signal is of a kind that does nothing by default.
-/

namespace BuildRunner.Host

structure Signal where
  number : Nat
deriving Repr, DecidableEq

namespace Signal

/-- A person wants the process to stop. -/
def interrupt : Signal := ⟨2⟩

/-- A person wants the process to quit. -/
def quit : Signal := ⟨3⟩

/-- The signal that no process survives. -/
def kill : Signal := ⟨9⟩

/-- Nobody reads what the process writes. -/
def pipe : Signal := ⟨13⟩

/-- The process is asked to end. -/
def terminate : Signal := ⟨15⟩

/-- A child has ended. -/
def child : Signal := ⟨17⟩

/-- How many numbers of signals there are, with zero. -/
def count : Nat := 65

/-- Number, name and description of the signals. -/
def table : List (Nat × String × String) :=
  [(1, "HUP", "Hangup"), (2, "INT", "Interrupt"), (3, "QUIT", "Quit"),
   (4, "ILL", "Illegal instruction"), (5, "TRAP", "Trace/breakpoint trap"), (6, "ABRT", "Aborted"),
   (7, "BUS", "Bus error"), (8, "FPE", "Floating point exception"), (9, "KILL", "Killed"),
   (10, "USR1", "User defined signal 1"), (11, "SEGV", "Segmentation fault"),
   (12, "USR2", "User defined signal 2"), (13, "PIPE", "Broken pipe"), (14, "ALRM", "Alarm clock"),
   (15, "TERM", "Terminated"), (16, "16", "Stack fault"), (17, "CHLD", "Child exited"),
   (18, "CONT", "Continued"), (19, "STOP", "Stopped (signal)"), (20, "TSTP", "Stopped"),
   (21, "TTIN", "Stopped (tty input)"), (22, "TTOU", "Stopped (tty output)"),
   (23, "URG", "Urgent I/O condition"), (24, "XCPU", "CPU time limit exceeded"),
   (25, "XFSZ", "File size limit exceeded"), (26, "VTALRM", "Virtual timer expired"),
   (27, "PROF", "Profiling timer expired"), (28, "WINCH", "Window changed"),
   (29, "IO", "I/O possible"), (30, "PWR", "Power failure"), (31, "SYS", "Bad system call")]

def name (s : Signal) : String :=
  let n := s.number
  let beyond := fun (base : String) (sign : String) (d : Nat) =>
    if d = 0 then base else base ++ sign ++ toString d
  match table.lookup n with
  | some (name, _) => name
  | none =>
    if n < 34 then toString n
    else if n < 50 then beyond "RTMIN" "+" (n - 34)
    else beyond "RTMAX" "-" (64 - n)

/-- What a person is told about a process that a signal has ended. -/
def description (s : Signal) : String :=
  match table.lookup s.number with
  | some (_, d) => d
  | none => if s.number < 34 then "Unknown signal " ++ toString s.number
    else "Real-time signal " ++ toString (s.number - 34)

/-- The signal with a name or a number, which may be zero. -/
def named? (name : String) : Option Signal :=
  let cs := name.toList
  if !cs.isEmpty ∧ cs.all Char.isDigit then
    let n := cs.foldl (fun n c => n * 10 + (c.toNat - 48)) 0
    if n < count then some ⟨n⟩ else none
  else
    let upper := String.ofList (cs.map Char.toUpper)
    (((List.range count).drop 1).find? fun n => Signal.name ⟨n⟩ = upper).map fun n => ⟨n⟩

/-- Whether a process that takes no care of a signal ends by it. -/
def isFatal (s : Signal) : Bool := s.number ≠ 0 && !([17, 18, 19, 20, 21, 22, 23, 28] : List Nat).contains s.number

end Signal
end BuildRunner.Host
