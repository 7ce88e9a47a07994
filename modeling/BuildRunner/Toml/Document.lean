import BuildRunner.Toml.Statement

set_option autoImplicit false

/-! # TOML texts

A text is the table that its statements write one after another. A mark of the byte order at
its start is passed over, and a carriage return before a line feed belongs to the line end.
-/

namespace BuildRunner.Toml

/-- A text that has been read up to some statement. -/
structure Draft where
  root : Entries := []
  /-- The path of the table whose lines are being read. -/
  current : List String := []

/-- The text after one more statement, if the statement is allowed there. -/
def Draft.add (d : Draft) : Statement → Option Draft
  | .assignment path v => do
    return { d with root := ← d.root.within (Entries.assign true v path) d.current }
  | .header path => do
    let root ← d.root.within (Entries.open? (path.getLastD "")) path.dropLast
    return ⟨root, path⟩
  | .sharedHeader path => do
    let root ← d.root.within (Entries.extend? (path.getLastD "")) path.dropLast
    return ⟨root, path⟩

def byteOrderMark : Char := Char.ofNat 0xFEFF

/-- The text without a mark at its start. -/
def skipMark (cs : List Char) : List Char := if cs.head? = some byteOrderMark then cs.drop 1 else cs

/-- The text with single line feeds as line ends. -/
def plainLineEnds : List Char → List Char
  | '\r' :: '\n' :: cs => '\n' :: plainLineEnds cs
  | c :: cs => c :: plainLineEnds cs
  | [] => []

/-- The entries of the table that a text writes, if it is well formed. -/
def read (text : String) : Option (List (String × Toml)) := do
  let written ← statements (plainLineEnds (skipMark text.toList))
  let d ← written.foldlM Draft.add {}
  return entriesToToml d.root

end BuildRunner.Toml
