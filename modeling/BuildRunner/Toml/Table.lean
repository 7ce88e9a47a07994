import BuildRunner.Toml.Value

set_option autoImplicit false

/-! # Tables that are being written

How tables grow while a text is read. A table remembers how it came into being, since that
decides what may be added to it: a table with a header is complete under that header, a table
that was only passed through by a header may still get its own, and a table made by a key with
dots grows through such keys alone.
-/

namespace BuildRunner.Toml

/-- How a table came into being. -/
inductive Origin where
  /-- By a header of its own. -/
  | header
  /-- By a header of a table inside. -/
  | passed
  /-- By a key with dots. -/
  | dotted
deriving Repr, DecidableEq

inductive Node where
  /-- A value that is complete. -/
  | value (v : Toml)
  | table (origin : Origin) (entries : List (String × Node))
  /-- Tables that share a header, the newest first. -/
  | tables (elements : List (List (String × Node)))

/-- The entries of a table, in the order of their keys' first appearance. -/
abbrev Entries := List (String × Node)

namespace Entries

def get? (es : Entries) (key : String) : Option Node := es.lookup key

def replace (es : Entries) (key : String) (node : Node) : Entries :=
  es.map fun e => if e.1 = key then (key, node) else e

def add (es : Entries) (key : String) (node : Node) : Entries := es ++ [(key, node)]

/-- Enters a value under a key with dots. `accepts` says whether the table itself may get
keys; tables that the key passes through may, if keys with dots have made them. -/
def assign (accepts : Bool) (v : Toml) : List String → Entries → Option Entries
  | [], _ => none
  | [key], es => if accepts ∧ (es.get? key).isNone then some (es.add key (.value v)) else none
  | key :: path, es =>
    match es.get? key with
    | none => (assign true v path []).map fun inner => es.add key (.table .dotted inner)
    | some (.table .dotted inner) =>
      (assign true v path inner).map fun inner => es.replace key (.table .dotted inner)
    | some (.table .passed inner) =>
      (assign false v path inner).map fun inner => es.replace key (.table .passed inner)
    | some (.tables (newest :: older)) =>
      (assign false v path newest).map fun inner => es.replace key (.tables (inner :: older))
    | _ => none

/-- Changes the table at the end of the path of a header. Missing tables on the way are made;
of tables that share a header the newest is meant. -/
def within (f : Entries → Option Entries) : List String → Entries → Option Entries
  | [], es => f es
  | key :: path, es =>
    match es.get? key with
    | none => (within f path []).map fun inner => es.add key (.table .passed inner)
    | some (.table origin inner) =>
      (within f path inner).map fun inner => es.replace key (.table origin inner)
    | some (.tables (newest :: older)) =>
      (within f path newest).map fun inner => es.replace key (.tables (inner :: older))
    | _ => none

/-- Gives the table with a key its header. -/
def open? (key : String) (es : Entries) : Option Entries :=
  match es.get? key with
  | none => some (es.add key (.table .header []))
  | some (.table .passed inner) => some (es.replace key (.table .header inner))
  | _ => none

/-- Adds a table to those that share the header of a key. -/
def extend? (key : String) (es : Entries) : Option Entries :=
  match es.get? key with
  | none => some (es.add key (.tables [[]]))
  | some (.tables elements) => some (es.replace key (.tables ([] :: elements)))
  | _ => none

end Entries

mutual

def Node.toToml : Node → Toml
  | .value v => v
  | .table _ entries => .table (entriesToToml entries)
  | .tables elements => .array (elementsToToml elements).reverse
termination_by structural n => n

def entriesToToml : List (String × Node) → List (String × Toml)
  | [] => []
  | (key, node) :: es => (key, node.toToml) :: entriesToToml es
termination_by structural es => es

def elementsToToml : List (List (String × Node)) → List Toml
  | [] => []
  | es :: rest => .table (entriesToToml es) :: elementsToToml rest
termination_by structural es => es

end

/-- The table written by assignments alone, as one between braces is. -/
def tableOf? (assignments : List (List String × Toml)) : Option Toml :=
  let entered := assignments.foldlM (fun (es : Entries) (path, v) => es.assign true v path) []
  entered.map fun es => .table (entriesToToml es)

end BuildRunner.Toml
