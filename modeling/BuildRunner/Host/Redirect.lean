import BuildRunner.Host.Actor
import BuildRunner.Shell.Expansion

set_option autoImplicit false

/-! # Redirections

The targets of redirections are expanded first, then descriptors are changed one after another.
The first redirection that fails leaves the rest undone. What a descriptor led to before is kept
under a descriptor of the shell's own until it is given back.
-/

namespace BuildRunner.Host

open Shell (Document Expanding Redirection)

def readingReason : FileError → String
  | .notFound | .notDirectory => "No such file"
  | e => e.text

def writingReason : FileError → String
  | .notFound | .notDirectory => "Directory nonexistent"
  | e => e.text

namespace Actor

/-- The descriptor that a text names: one digit, or a dash for none. -/
def descriptorOf (text : String) : Expanding (Option Nat) :=
  match text.toList with
  | ['-'] => return none
  | [c] => if c.isDigit then return some (c.toNat - 48) else fail
  | _ => fail
where
  /-- Refuses the text. -/
  fail : Expanding (Option Nat) := Expanding.fail "Syntax error: Bad fd number"

def target (r : Redirection) : Expanding Target :=
  match r with
  | .file fd access w => return .file fd access (← Shell.expandText w)
  | .duplicate fd w => return .duplicate fd (← descriptorOf (← Shell.expandText w))
  | .document fd number => return .document fd number

def documentText (a : Actor) (number : Nat) : Expanding String :=
  match a.shell.documents.lookup number with
  | some d => if d.isExpanded then Shell.expandDocument d else return (Shell.Word.unquoted d.body)
  | none => return ""

/-- Keeps what a descriptor leads to, unless something is kept for it already. -/
def displace (a : Actor) (displaced : Displaced) (fd : Nat) : Actor × Displaced :=
  if (displaced.lookup fd).isSome then (a, displaced)
  else
    let ds := a.self.descriptors
    match ds.lookup fd with
    | none => (a, (fd, none) :: displaced)
    | some n =>
      let kept := freeDescriptor ds
      (a.withDescriptors ((kept, n) :: ds), (fd, some kept) :: displaced)

/-- Changes a descriptor; nothing closes it. What it led to is kept, if anything is. -/
def connect (a : Actor) (kept : Option Displaced) (fd : Nat) (description : Option Nat) :
    Actor × Option Displaced :=
  let (a, kept) := match kept with
    | some displaced =>
      let (a, displaced) := a.displace displaced fd
      (a, some displaced)
    | none => (a, none)
  let ds := a.self.descriptors
  (a.withDescriptors ((description.map (redirectTo ds fd)).getD (closed ds fd)), kept)

/-- Opens something new under a descriptor. -/
def connectTo (a : Actor) (kept : Option Displaced) (fd : Nat) (d : Description) :
    Actor × Option Displaced :=
  let (n, h) := a.host.describe d
  { a with host := h }.connect kept fd (some n)

/-- Performs a redirection, which may lead to a document with a text, or says why that cannot be
done. -/
def perform (a : Actor) (kept : Option Displaced) (t : Target) (text : String) :
    Except String (Actor × Option Displaced) :=
  match t with
  | .file fd access path =>
    let fresh := access = .write && a.memory.has .protectFiles
    match a.host.openPath a.self path access fresh with
    | .ok (d, h) => .ok ({ a with host := h }.connectTo kept fd d)
    | .error e =>
      if access = .read then .error ("cannot open " ++ path ++ ": " ++ readingReason e)
      else .error ("cannot create " ++ path ++ ": " ++ writingReason e)
  | .duplicate fd none => .ok (a.connect kept fd none)
  | .duplicate fd (some source) =>
    if source = fd then .ok (a, kept)
    else
      match a.self.descriptors.lookup source with
      | some n => .ok (a.connect kept fd (some n))
      | none => .error (toString source ++ ": Bad file descriptor")
  | .document fd _ =>
    let (pipe, h) := a.host.newPipe false
    .ok ({ a with host := h.unread pipe (bytesOf text) }.connectTo kept fd (.reader pipe))

/-- The text of the document that a redirection leads to, or why it cannot be expanded. -/
def textFor (a : Actor) (t : Target) : Expanding (Except String String) :=
  match t with
  | .document _ number => fun p =>
    match (a.documentText number).run p with
    | .ok (s, p) => .ok (.ok s, p)
    | .error (.failure reason) => .ok (.error reason, p)
    | .error stop => .error stop
  | _ => return .ok ""

end Actor
end BuildRunner.Host
