import BuildRunner.Host.Builtin.Lookup

set_option autoImplicit false

/-! # What a simple command runs

The first field of a simple command names a function, a command of the shell or a program. The
command `command` in front leads to another one, for which functions do not count. While fields
are still to be expanded it may not be known yet what is run.
-/

namespace BuildRunner.Host

/-- What the name of a command stands for. -/
inductive CommandKind where
  | function
  | builtin
  | program
deriving Repr, DecidableEq

/-- What fields say about the command that they are. -/
structure Lead where
  /-- How many fields stand in front of the name. -/
  skipped : Nat := 0
  withoutFunctions : Bool := false
  /-- Whether programs are searched on the standard path. -/
  standard : Bool := false
  /-- Whether the first command of the shell is special, if there is one. -/
  special : Option Bool := none
  /-- What is run, as far as that is known. -/
  kind : Option CommandKind := none
deriving Repr

namespace Lead

/-- What stands behind the command `command`. -/
inductive Detour where
  /-- More fields are needed. -/
  | unknown
  /-- The command has something to tell by itself. -/
  | itself
  /-- Another command, behind some fields. -/
  | behind (n : Nat) (standard : Bool)
deriving Repr

/-- What stands behind the command `command` and `n` options. -/
def detour (n : Nat) (standard : Bool) : List String → Detour
  | [] => .unknown
  | f :: rest =>
    match f.toList with
    | ['-', '-'] => if rest.isEmpty then .unknown else .behind (n + 1) standard
    | '-' :: c :: cs => if (c :: cs).all (· = 'p') then detour (n + 1) true rest else .itself
    | _ => .behind n standard

def follow (isFunction : String → Bool) : Nat → Lead → List String → Lead
  | 0, l, _ => l
  | fuel + 1, l, fields =>
    match fields with
    | [] => l
    | name :: rest =>
      if !l.withoutFunctions ∧ isFunction name then { l with kind := some .function }
      else if !isBuiltin name then { l with kind := some .program }
      else
        let l := { l with special := l.special.orElse fun _ => some (isSpecialBuiltin name) }
        if name ≠ "command" then { l with kind := some .builtin }
        else
          match detour 0 false rest with
          | .unknown => l
          | .itself => { l with kind := some .builtin }
          | .behind n standard =>
            let l := { l with
              skipped := l.skipped + 1 + n
              withoutFunctions := true
              standard := l.standard || standard }
            follow isFunction fuel l (rest.drop n)

end Lead

namespace Actor

def leadOf (a : Actor) (fields : List String) : Lead :=
  Lead.follow (fun name => (a.shell.functions.lookup name).isSome) (fields.length + 1) {} fields

end Actor
end BuildRunner.Host
