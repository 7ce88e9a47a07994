import BuildRunner.Shell.Builtin.Flags

set_option autoImplicit false

/-! # Limits of processes

A limit is known by a letter. Nothing here enforces limits; what is set can be looked at.
-/

namespace BuildRunner.Shell.Limit

/-- Letter, name and usual value of the limits. -/
def table : List (Char × String × String) :=
  [('t', "time(seconds)", "unlimited"), ('f', "file(blocks)", "unlimited"),
   ('d', "data(kbytes)", "unlimited"), ('s', "stack(kbytes)", "8192"),
   ('c', "coredump(blocks)", "0"), ('m', "memory(kbytes)", "unlimited"),
   ('l', "locked memory(kbytes)", "8192"), ('p', "process", "unlimited"),
   ('n', "nofiles", "1024"), ('v', "vmemory(kbytes)", "unlimited"), ('w', "locks", "unlimited"),
   ('r', "rtprio", "0")]

/-- The limits that were set, by their letters. -/
abbrev Settings := List (Char × String)

def value (s : Settings) (c : Char) : String :=
  (s.lookup c).getD (((table.lookup c).map (·.2)).getD "")

def listing (s : Settings) : String :=
  String.join (table.map fun x =>
    x.2.1 ++ String.ofList (List.replicate (20 - x.2.1.length) ' ') ++ " " ++ value s x.1 ++ "\n")

/-- Shows or sets a limit: what is written, and the settings. -/
def run (s : Settings) (args : List String) : Except String (String × Settings) := do
  let flags ← Flags.read { plain := "HSatfdscmlpnvwr" } args
  let shown := fun (c : Char) => !"HSa".toList.contains c
  let what := ((flags.given.map (·.1)).filter shown).getLast?.getD 'f'
  match flags.left with
  | [] => return (if flags.has 'a' then listing s else value s what ++ "\n", s)
  | text :: rest =>
    if flags.has 'a' ∨ !rest.isEmpty then throw "too many arguments"
    else
      let digits := text.toList
      if text ≠ "unlimited" ∧ !digits.all Char.isDigit then throw "bad number"
      else
        let plain := String.ofList (digits.dropWhile (· = '0'))
        return ("", (what, if plain = "" then "0" else plain) :: s.filter (·.1 ≠ what))

end BuildRunner.Shell.Limit
