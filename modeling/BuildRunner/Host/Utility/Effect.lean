import BuildRunner.Host.Files

set_option autoImplicit false

/-! # What utilities do

The utilities of a host work on narrow texts. They see files through an outlook, and what they do
to the world around them is a list of effects, which the host carries out.
-/

namespace BuildRunner.Host

/-- Something that a utility does. -/
inductive Effect where
  | output (text : String)
  | error (text : String)
  /-- Adds to the end of a file. -/
  | append (path text : String)
  /-- Puts a new file with a content in the place of another one. -/
  | replace (path text : String)
  /-- Makes a file empty, or makes it if it is missing. -/
  | empty (path : String)
deriving Repr

/-- What a utility sees of a file that it reads. -/
structure Sight where
  text : String := ""
  /-- Whether the size of the file is known before it is read. -/
  isRegular : Bool := false
  size : Nat := 0
  /-- Whether the output goes to the same file, and there is something to read. -/
  isOutput : Bool := false
deriving Repr

structure Outlook where
  /-- The file with a name, or why it cannot be read. -/
  file : String → Except FileError Sight
  /-- The standard input, without its text, unless it is closed. -/
  standard : Option Sight
  /-- Whether a name leads to the standard input, which can only be read from its front on. -/
  isStandard : String → Bool

/-- What has arrived at a standard input that is read: a text, or its end. -/
inductive Arrived where
  | text (s : String)
  | ended
  /-- A reason why it cannot be read, and whether it is open all the same. -/
  | broken (e : FileError) (isOpen : Bool)
deriving Repr, DecidableEq

end BuildRunner.Host
