import BuildRunner.Host.Signal
import BuildRunner.Shell.Numeral

set_option autoImplicit false

/-! # Jobs of a shell

A shell keeps its children in the background as numbered jobs. The end of a child is noticed when
the shell waits for something or looks for it. A job stays known after its end; once it has been
waited for, its number is given to the next command that runs in a process of its own.
-/

namespace BuildRunner.Host

inductive Ending where
  | exited (status : Nat)
  | signalled (s : Signal)
deriving Repr, DecidableEq

/-- The status of an ending as a shell sees it. -/
def Ending.status : Ending → Nat
  | .exited n => n
  | .signalled s => 128 + s.number

/-- What a person is told about an ending. -/
def Ending.description : Ending → String
  | .exited 0 => "Done"
  | .exited n => "Done(" ++ toString n ++ ")"
  | .signalled s => s.description

/-- The processes of one command in the background, in order, and as far as noticed how they have
ended. -/
structure Job where
  members : List (Nat × Option Ending)
  /-- Whether it has been waited for. -/
  waited : Bool := false
deriving Repr

namespace Job

/-- Whether a process of the job is not known to have ended. -/
def isRunning (j : Job) : Bool := j.members.any (·.2.isNone)

/-- The ending of the last process. -/
def ending? (j : Job) : Option Ending := j.members.getLast?.bind (·.2)

def status (j : Job) : Nat := (j.ending?.map Ending.status).getD 127

def lastMember? (j : Job) : Option Nat := j.members.getLast?.map (·.1)

end Job

structure Jobs where
  /-- The jobs by number, from one on. -/
  slots : List (Option Job) := []
  /-- The numbers of the jobs, the latest first. -/
  order : List Nat := []
deriving Repr

namespace Jobs

def at? (js : Jobs) (n : Nat) : Option Job := if n = 0 then none else (js.slots[n - 1]?).getD none

/-- The jobs with their numbers, the latest first. -/
def all (js : Jobs) : List (Nat × Job) := js.order.filterMap fun n => (js.at? n).map fun j => (n, j)

def put (js : Jobs) (n : Nat) (j : Job) : Jobs := { js with slots := js.slots.set (n - 1) (some j) }

def remove (js : Jobs) (n : Nat) : Jobs :=
  { slots := js.slots.set (n - 1) none, order := js.order.filter (· ≠ n) }

def isFree : Option Job → Bool
  | none => true
  | some j => j.waited && !j.isRunning

/-- Makes room for another job: its number, and the jobs without the one that had it. -/
def room (js : Jobs) : Nat × Jobs :=
  match js.slots.findIdx? isFree with
  | some k => (k + 1, js.remove (k + 1))
  | none => (js.slots.length + 1, { js with slots := js.slots ++ [none] })

def add (js : Jobs) (members : List Nat) : Jobs :=
  let (n, js) := js.room
  let js := js.put n { members := members.map fun id => (id, none) }
  { js with order := n :: js.order }

/-- The job whose last process has a number. -/
def ofMember? (js : Jobs) (id : Nat) : Option (Nat × Job) :=
  js.all.find? fun x => x.2.lastMember? = some id

/-- The processes that are not known to have ended. -/
def running (js : Jobs) : List Nat :=
  js.all.flatMap fun x => x.2.members.filterMap fun m => if m.2.isNone then some m.1 else none

def notice (js : Jobs) (id : Nat) (e : Ending) : Jobs :=
  { js with slots := js.slots.map fun slot => slot.map fun j =>
      { j with members := j.members.map fun m => if m.1 = id then (id, some e) else m } }

/-- Marks jobs that have ended as waited for. -/
def acknowledge (js : Jobs) : Jobs :=
  { js with slots := js.slots.map fun slot => slot.map fun j =>
      if j.isRunning then j else { j with waited := true } }

/-- The job that a text names, which starts with a percent sign, or why there is none. -/
def named (js : Jobs) (name : String) : Except String (Nat × Job) :=
  let got := fun (n : Option Nat) (reason : String) =>
    match n.bind fun n => (js.at? n).map fun j => (n, j) with
    | some x => Except.ok x
    | none => .error reason
  match name.toList with
  | ['%'] | ['%', '+'] | ['%', '%'] => got js.order.head? "No current job"
  | ['%', '-'] => got (js.order[1]?) "No previous job"
  | '%' :: ds =>
    let n := if ds.all Char.isDigit then some (Shell.Numeral.digits 10 ds) else none
    got n ("No such job: " ++ name)
  | _ => .error ("No such job: " ++ name)

/-! ## Listings -/

inductive Listing where
  | plain
  /-- The numbers of the processes as well. -/
  | long
  /-- Nothing but the number of the first process. -/
  | groups
deriving Repr, DecidableEq

def line (js : Jobs) (kind : Listing) (n : Nat) (j : Job) : String :=
  let first := (j.members.head?.map (·.1)).getD 0
  if kind = .groups then toString first ++ "\n"
  else
    let mark := if js.order.head? = some n then "+" else if js.order[1]? = some n then "-" else " "
    let state := if j.isRunning then "Running" else (j.ending?.map Ending.description).getD ""
    let front := "[" ++ toString n ++ "] " ++ mark ++ " " ++
      (if kind = .long then toString first ++ " " else "") ++ state
    let padding := String.ofList (List.replicate (max 1 (33 - front.length)) ' ')
    front ++ padding ++ String.join ((j.members.drop 1).map fun m =>
      if kind = .long then "\n      " ++ toString m.1 ++ " " else " | ") ++ "\n"

/-- The lines of jobs, and the jobs without those that have ended. -/
def list (js : Jobs) (kind : Listing) (numbers : List Nat) : String × Jobs :=
  numbers.foldl (fun (s, js) n =>
    match js.at? n with
    | none => (s, js)
    | some j => (s ++ js.line kind n j, if j.isRunning ∨ kind = .groups then js else js.remove n))
    ("", js)

end Jobs
end BuildRunner.Host
