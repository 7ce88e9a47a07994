import BuildRunner.Shell.Field
import BuildRunner.Shell.Memory

set_option autoImplicit false

/-! # The command read

A line of input is cut into fields for variables. The last variable gets all that is left.
Unless the line is taken as it is, a backslash makes the character behind it ordinary and
joins lines.
-/

namespace BuildRunner.Shell.Read

/-- The characters of a line and the characters behind its line feed, if it has ended. -/
def lineOf (raw : Bool) : List Char → Option (List Char × List Char)
  | [] => none
  | '\n' :: rest => some ([], rest)
  | '\\' :: rest =>
    if raw then (lineOf raw rest).map fun (line, behind) => ('\\' :: line, behind)
    else
      match rest with
      | [] => none
      | c :: rest => (lineOf raw rest).map fun (line, behind) => ('\\' :: c :: line, behind)
  | c :: rest => (lineOf raw rest).map fun (line, behind) => (c :: line, behind)

/-- The glyphs of a line. What stands behind a backslash does not separate fields. -/
def glyphs (raw : Bool) : List Char → List Glyph
  | [] => []
  | '\\' :: rest =>
    if raw then .expanded '\\' :: glyphs raw rest
    else
      match rest with
      | [] => []
      | '\n' :: rest => .seam false :: glyphs raw rest
      | c :: rest => .quoted c :: .seam false :: glyphs raw rest
  | c :: rest => if c.toNat = 0 then glyphs raw rest else .expanded c :: glyphs raw rest

/-- The fields of a line, at most `most` of them. -/
def fields (separators : List Char) (raw : Bool) (most : Nat) (line : List Char) : List String :=
  ((glyphs raw line).foldl Splitter.add { separators := separators, left := some most }).finish.map
    Glyph.text

/-- Gives variables the values of fields; those for which there is none become empty. The memory
behind them, and what went wrong with one of them. -/
def assign (m : Memory) : List String → List String → Memory × Option String
  | [], _ => (m, none)
  | name :: names, values =>
    match m.assign name (values.headD "") with
    | .ok m => assign m names (values.drop 1)
    | .error reason => (m, some reason)

/-- Reads a line into variables. -/
def into (m : Memory) (raw : Bool) (names : List String) (line : List Char) :
    Memory × Option String :=
  assign m names (fields m.separators raw names.length line)

end BuildRunner.Shell.Read
