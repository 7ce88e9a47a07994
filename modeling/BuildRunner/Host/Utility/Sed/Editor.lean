import BuildRunner.Host.Utility.Effect
import BuildRunner.Host.Utility.Sed.Substitution

set_option autoImplicit false

/-! # Editing a stream of lines

An editor runs a script on every line of its inputs. It takes one command after another, so that
it can stand still while it waits for more of the standard input. A last line that nothing ends
is printed without an end; when something is printed behind it, the end is made up for.
-/

namespace BuildRunner.Host.Sed

/-! ## Editors -/

structure Setting where
  /-- The name under which the program was called. -/
  name : String := "sed"
  /-- Whether only explicit lines are printed. -/
  silent : Bool := false
  extended : Bool := false
  /-- Whether every file is a stream of its own. -/
  separate : Bool := false
  /-- Whether files are replaced by what is printed, and the ending of the names of copies. -/
  inPlace : Option String := none
  /-- The character that ends a line. -/
  delimiter : Char := '\n'
  /-- The width of listed lines. -/
  width : Nat := 70
  /-- Whether what is printed is written at once. -/
  unbuffered : Bool := false
deriving Repr

/-- An input that is being read. -/
structure Stream where
  name : String
  /-- What has arrived and has not been read. -/
  rest : List Char
  /-- Whether nothing more will arrive. -/
  ended : Bool
  isStandard : Bool
deriving Repr

/-- A line and whether something ends it. -/
structure Line where
  body : List Char := []
  ended : Bool := true
deriving Repr

/-- What is printed behind the current line. -/
inductive Queued where
  | text (cs : List Char)
  | file (name : String)
deriving Repr

/-- Whether the range of a command has begun. -/
inductive RangeState where
  | outside
  /-- It has; with the last line of the range where that is known. -/
  | inside (last : Option Nat)
deriving Repr, DecidableEq

inductive Phase where
  /-- It reads a line. -/
  | reading
  /-- It goes on with the command at a position. -/
  | at (position : Nat)
  | finished (status : Nat)
deriving Repr, DecidableEq

structure Editor where
  setting : Setting
  script : Script
  /-- The inputs that have not been opened. -/
  left : List String
  stream : Option Stream := none
  number : Nat := 0
  line : Line := {}
  held : Line := {}
  /-- The expression that was used last. -/
  last : Option Expression := none
  replaced : Bool := false
  ranges : Array RangeState := #[]
  queue : List Queued := []
  /-- The files from which lines are taken, as far as they are left. -/
  sources : List (String × List Char) := []
  /-- The outputs whose last line nothing has ended. -/
  unended : List String := []
  phase : Phase := .reading
  status : Nat := 0
  /-- What has been printed and not written, the last part first. -/
  printed : List String := []
  /-- What is to be done, the last thing first. -/
  effects : List Effect := []
deriving Repr

abbrev Readable := String → Except FileError String

namespace Editor

/-! ## Output -/

def standardOutput : String := "/dev/stdout"

def act (e : Editor) (x : Effect) : Editor := { e with effects := x :: e.effects }

def flush (e : Editor) : Editor :=
  match e.printed with
  | [] => e
  | ps => { e.act (.output (String.join ps.reverse)) with printed := [] }

def finish (e : Editor) (status : Nat) : Editor := { e.flush with phase := .finished status }

/-- Ends the program with a message. -/
def panic (e : Editor) (message : String) (status : Nat) : Editor :=
  (e.act (.error (e.setting.name ++ ": " ++ message ++ "\n"))).finish status

/-- Sends a text to an output. -/
def send (e : Editor) (target text : String) : Editor :=
  if text = "" then e
  else if target = standardOutput then
    let e := { e with printed := text :: e.printed }
    if e.setting.unbuffered ∧ e.setting.inPlace.isNone then e.flush else e
  else if target = "/dev/stderr" then e.act (.error text)
  else e.act (.append target text)

/-- Ends the last line of an output if nothing has ended it. -/
def mend (e : Editor) (target : String) : Editor :=
  if e.unended.contains target then
    { e with unended := e.unended.filter (· ≠ target) }.send target
      (String.singleton e.setting.delimiter)
  else e

def printRaw (e : Editor) (cs : List Char) : Editor :=
  (e.mend standardOutput).send standardOutput (String.ofList cs)

def printTo (e : Editor) (target : String) (l : Line) : Editor :=
  let e := (e.mend target).send target (String.ofList l.body)
  if l.ended then e.send target (String.singleton e.setting.delimiter)
  else { e with unended := target :: e.unended }

def print (e : Editor) (l : Line) : Editor := e.printTo standardOutput l

def printQueue (files : Readable) (e : Editor) : Editor :=
  { e.queue.foldl (fun e q =>
      match e.phase, q with
      | .finished _, _ => e
      | _, .text cs => e.printRaw cs
      | _, .file name =>
        match files name with
        | .ok s => e.printRaw s.toList
        | .error reason =>
          if reason = .isDirectory then
            e.panic ("read error on " ++ name ++ ": " ++ reason.text) 4
          else e) e with queue := [] }

/-! ## Input -/

/-- The state of all ranges at the beginning of a stream. -/
def freshRanges (s : Script) : Array RangeState :=
  s.commands.map fun c =>
    match c.scope.first with
    | some (.line 0) => .inside none
    | _ => .outside

def copyName (suffix name : String) : String :=
  let cs := name.toList
  let base := (cs.reverse.takeWhile (· ≠ '/')).reverse
  let directory := cs.take (cs.length - base.length)
  let copied :=
    if suffix.toList.contains '*' then
      suffix.toList.flatMap fun c => if c = '*' then base else [c]
    else base ++ suffix.toList
  String.ofList (if copied.contains '/' then copied else directory ++ copied)

/-- Closes the current input. A file that is edited in place gets its new content. -/
def close (files : Readable) (e : Editor) : Editor :=
  match e.stream, e.setting.inPlace with
  | some s, some suffix =>
    let e := match suffix, files s.name with
      | "", _ => e
      | suffix, .ok old => e.act (.replace (copyName suffix s.name) old)
      | _, _ => e
    let text := String.join e.printed.reverse
    { e.act (.replace s.name text) with
      stream := none, printed := [], unended := e.unended.filter (· ≠ standardOutput) }
  | _, _ => { e with stream := none }

/-- Opens the next input, which may fail. -/
def openNext (files : Readable) (e : Editor) (name : String) (left : List String) : Editor :=
  let e := { e with left := left }
  let fresh := fun (e : Editor) (s : Stream) =>
    let e := { e with stream := some s }
    if e.setting.separate then { e with number := 0, ranges := freshRanges e.script } else e
  if name = "-" ∧ e.setting.inPlace.isNone then
    fresh e { name := "-", rest := [], ended := false, isStandard := true }
  else
    let refuse := fun (message : String) (status : Nat) =>
      { e.act (.error (e.setting.name ++ ": " ++ message ++ "\n")) with status := status }
    match files name with
    | .ok s => fresh e { name := name, rest := s.toList, ended := true, isStandard := false }
    | .error reason =>
      if reason = .isDirectory then
        if e.setting.inPlace.isSome then
          refuse ("couldn't edit " ++ name ++ ": not a regular file") 4
        else e.panic ("read error on " ++ name ++ ": " ++ reason.text) 4
      else refuse ("can't read " ++ name ++ ": " ++ reason.text) 2

inductive Ahead where
  | line
  | nothing
  /-- More of the standard input has to arrive. -/
  | unknown
deriving DecidableEq

/-- Looks for the next line, and goes on to the next input where the current one is at its end,
unless `stay` forbids it. -/
def look (files : Readable) (stay : Bool) : Nat → Editor → Ahead × Editor
  | 0, e => (.nothing, e)
  | fuel + 1, e =>
    match e.phase with
    | .finished _ => (.nothing, e)
    | _ =>
      match e.stream with
      | some s =>
        if !s.rest.isEmpty then
          if s.ended ∨ s.rest.contains e.setting.delimiter then (.line, e)
          else if stay then (.line, e) else (.unknown, e)
        else if !s.ended then (.unknown, e)
        else if stay ∧ e.setting.separate then (.nothing, e)
        else look files stay fuel (e.close files)
      | none =>
        match e.left with
        | [] => (.nothing, e)
        | name :: left =>
          if stay ∧ e.setting.separate then (.nothing, e)
          else look files stay fuel (e.openNext files name left)

def hasMore (files : Readable) (e : Editor) : Ahead × Editor :=
  e.look files true (2 * e.left.length + 4)

/-- Reads the next line, behind the current one if `behind` holds. -/
def takeLine (e : Editor) (behind : Bool) : Editor :=
  match e.stream with
  | none => e
  | some s =>
    let body := s.rest.takeWhile (· ≠ e.setting.delimiter)
    let after := s.rest.drop body.length
    let line := if behind then e.line.body ++ e.setting.delimiter :: body else body
    { e with
      stream := some { s with rest := after.drop 1 }
      line := ⟨line, !after.isEmpty⟩
      number := e.number + 1
      replaced := false }

/-! ## Scopes -/

/-- Whether an expression matches the line, and the editor that has used it; nothing if no
expression has been used before. -/
def matching (e : Editor) (m : Matcher) : Option (Bool × Editor) :=
  match (match m with
    | some x => some x
    | none => e.last) with
  | none => none
  | some x => some (x.matchesIn e.line.body, { e with last := some x })

/-- An answer that may have to wait, or cannot be given. -/
inductive Answer (α : Type) where
  | found (a : α)
  | waits
  | fails

def isLast (files : Readable) (e : Editor) : Answer (Bool × Editor) :=
  match e.hasMore files with
  | (.line, e) => .found (false, e)
  | (.nothing, e) => .found (true, e)
  | (.unknown, _) => .waits

def isAt (files : Readable) (e : Editor) (a : Address) : Answer (Bool × Editor) :=
  match a with
  | .line n => .found (e.number = n, e)
  | .every first distance =>
    .found (first ≤ e.number && (e.number - first) % distance = 0, e)
  | .last => e.isLast files
  | .matching m =>
    match e.matching m with
    | some r => .found r
    | none => .fails

def setRange (e : Editor) (i : Nat) (r : RangeState) : Editor :=
  { e with ranges := e.ranges.setIfInBounds i r }

/-- What a range becomes that begins at the current line. -/
def rangeFrom (n : Nat) (r : Reach) : RangeState :=
  match r with
  | .line m => if m ≤ n then .outside else .inside (some m)
  | .more 0 | .multiple 0 => .outside
  | .more m => .inside (some (n + m))
  | .multiple m => .inside (some (n + m - n % m))
  | .every first distance =>
    if first ≤ n ∧ (n - first) % distance = 0 then .outside else .inside none
  | .last | .matching _ => .inside none

/-- Whether a range that has begun holds the current line as well. -/
def goesOn (files : Readable) (e : Editor) (i : Nat) (last : Option Nat) (r : Reach) :
    Answer (Bool × Editor) :=
  match last with
  | some m =>
    .found (e.number ≤ m, if m ≤ e.number then e.setRange i .outside else e)
  | none =>
    let close := fun (x : Answer (Bool × Editor)) =>
      match x with
      | .found (true, e) => Answer.found (true, e.setRange i .outside)
      | .found (false, e) => .found (true, e)
      | other => other
    match r with
    | .matching m => close (e.isAt files (.matching m))
    | .last => close (e.isLast files)
    | .every first distance => close (e.isAt files (.every first distance))
    | _ => .found (true, e)

/-- Whether a scope holds the current line, but for its negation. -/
def inScope (files : Readable) (e : Editor) (i : Nat) (s : Scope) : Answer (Bool × Editor) :=
  match s.first, s.reach with
  | none, _ => .found (true, e)
  | some a, none => e.isAt files a
  | some a, some r =>
    match e.ranges[i]? with
    | some (.inside last) => e.goesOn files i last r
    | _ =>
      match e.isAt files a with
      | .found (true, e) => .found (true, e.setRange i (rangeFrom e.number r))
      | other => other

/-! ## Actions -/

/-- A character as a listed line shows it. -/
def listed (c : Char) : List Char :=
  let named := [(Char.ofNat 7, 'a'), (Char.ofNat 8, 'b'), (Char.ofNat 12, 'f'), ('\n', 'n'),
    ('\r', 'r'), ('\t', 't'), (Char.ofNat 11, 'v'), ('\\', '\\')]
  match named.lookup c with
  | some d => ['\\', d]
  | none =>
    if 32 ≤ c.toNat ∧ c.toNat < 127 then [c]
    else
      let ds := Nat.toDigits 8 c.toNat
      '\\' :: List.replicate (3 - ds.length) '0' ++ ds

/-- A line as it is listed, when `column` characters stand before on the same line. -/
def listing (width column : Nat) : List Char → List Char
  | [] => ['$', '\n']
  | c :: cs =>
    let shown := listed c
    if 0 < width ∧ width - 1 < column + shown.length then
      '\\' :: '\n' :: shown ++ listing width shown.length cs
    else shown ++ listing width (column + shown.length) cs

/-- The current line up to its first inner line end, and the part behind it. -/
def split (e : Editor) : List Char × Option (List Char) :=
  let front := e.line.body.takeWhile (· ≠ e.setting.delimiter)
  match e.line.body.drop front.length with
  | [] => (front, none)
  | _ :: rest => (front, some rest)

def onward (e : Editor) (i : Nat) : Editor := { e with phase := .at (i + 1) }

def endOfScript (e : Editor) : Editor :=
  { (if e.setting.silent then e else e.print e.line) with phase := .reading }

/-- Takes the next line of a file that is read line by line. -/
def takeFrom (files : Readable) (e : Editor) (name : String) : Editor :=
  let text := match e.sources.lookup name with
    | some cs => cs
    | none => ((files name).toOption.getD "").toList
  let body := text.takeWhile (· ≠ e.setting.delimiter)
  let after := text.drop body.length
  let e := { e with
    sources := (name, after.drop 1) :: e.sources.filter (·.1 ≠ name) }
  if text.isEmpty then e
  else { e with queue := e.queue ++ [.text (body ++ after.take 1)] }

def substitute (e : Editor) (i : Nat) (s : Substitution) (x : Expression) : Editor :=
  let (body, found) := s.run x e.line.body
  let e := { e with last := some x }
  if !found then e.onward i
  else
    let e := { e with line := { e.line with body := body }, replaced := true }
    let e := if s.print then e.print e.line else e
    (match s.file with
      | some name => e.printTo name e.line
      | none => e).onward i

/-- The message of a script that uses an expression before there is one. -/
def noExpression : String := "-e expression #1, char 0: no previous regular expression"

/-- Does what an action says; nothing if it has to wait. -/
def perform (files : Readable) (e : Editor) (i : Nat) (a : Action) : Option Editor :=
  match a with
  | .block behind => some { e with phase := .at behind }
  | .nothing => some (e.onward i)
  | .substitute s =>
    match (match s.matcher with
      | some x => some x
      | none => e.last) with
    | some x => some (e.substitute i s x)
    | none => some (e.panic noExpression 1)
  | .exchange old new =>
    let swap := fun c => ((old.zip new).lookup c).getD c
    some ({ e with line := { e.line with body := e.line.body.map swap } }.onward i)
  | .delete => some { e with phase := .reading }
  | .deleteLine =>
    match e.split with
    | (_, none) => some { e with phase := .reading }
    | (_, some rest) =>
      some { (e.printQueue files) with line := { e.line with body := rest }, phase := .at 0 }
  | .print => some ((e.print e.line).onward i)
  | .printLine => some ((e.print ⟨e.split.1, true⟩).onward i)
  | .number => some ((e.printRaw (toString e.number ++ "\n").toList).onward i)
  | .fileName => some ((e.printRaw (((e.stream.map (·.name)).getD "-") ++ "\n").toList).onward i)
  | .next =>
    match e.hasMore files with
    | (.unknown, _) => none
    | (.nothing, e) => some e.endOfScript
    | (.line, e) =>
      match e.look files false (2 * e.left.length + 4) with
      | (.line, e) =>
        let e := if e.setting.silent then e else e.print e.line
        some (((e.printQueue files).takeLine false).onward i)
      | _ => none
  | .appendNext =>
    match e.hasMore files with
    | (.unknown, _) => none
    | (.nothing, e) => some e.endOfScript
    | (.line, e) =>
      match e.look files false (2 * e.left.length + 4) with
      | (.line, e) => some (((e.printQueue files).takeLine true).onward i)
      | _ => none
  | .hold => some ({ e with held := e.line }.onward i)
  | .appendHold =>
    some ({ e with held := { e.held with
      body := e.held.body ++ e.setting.delimiter :: e.line.body } }.onward i)
  | .get => some ({ e with line := e.held }.onward i)
  | .appendGet =>
    some ({ e with line := { e.line with
      body := e.line.body ++ e.setting.delimiter :: e.held.body } }.onward i)
  | .swap => some ({ e with line := e.held, held := e.line }.onward i)
  | .empty => some ({ e with line := { e.line with body := [] } }.onward i)
  | .list width =>
    some ((e.printRaw (listing (width.getD e.setting.width) 0 e.line.body)).onward i)
  | .insert text => some ((e.printRaw text).onward i)
  | .append text => some ({ e with queue := e.queue ++ [Queued.text text] }.onward i)
  | .change text =>
    -- The text stands for the whole range, so only its last line brings it.
    let isOpen := match e.ranges[i]? with
      | some (.inside _) => true
      | _ => false
    some { (if isOpen then e else e.printRaw text) with phase := .reading }
  | .readFile name => some ({ e with queue := e.queue ++ [Queued.file name] }.onward i)
  | .readLine name => some ((e.takeFrom files name).onward i)
  | .write name => some ((e.printTo name e.line).onward i)
  | .writeLine name => some ((e.printTo name ⟨e.split.1, true⟩).onward i)
  | .jump c target =>
    let jumps := match c with
      | .always => true
      | .ifReplaced => e.replaced
      | .unlessReplaced => !e.replaced
    -- A jump on a condition takes the condition back.
    let e := if c = .always then e else { e with replaced := false }
    if jumps then some { e with phase := .at (target.getD e.script.commands.size) }
    else some (e.onward i)
  | .quit silent status =>
    let status := if e.status = 0 then status else e.status
    let e := if silent then e
      else (if e.setting.silent then e else e.print e.line).printQueue files
    some ((if e.setting.inPlace.isSome then e.close files else e).finish status)

/-! ## Steps -/

/-- One command; nothing if it has to wait. -/
def command (files : Readable) (e : Editor) (i : Nat) : Option Editor :=
  match e.script.commands[i]? with
  | none => some e.endOfScript
  | some c =>
    match e.inScope files i c.scope with
    | .waits => none
    | .fails => some (e.panic noExpression 1)
    | .found (holds, f) =>
      match f.phase with
      | .finished _ => some f
      | _ => if holds != c.scope.negated then f.perform files i c.action else some (f.onward i)

/-- The next step; nothing if the editor has to wait for more of the standard input. -/
def step (files : Readable) (e : Editor) : Option Editor :=
  match e.phase with
  | .finished _ => none
  | .at i => e.command files i
  | .reading =>
    if !e.queue.isEmpty then some (e.printQueue files)
    else
      match e.look files false (2 * e.left.length + 4) with
      | (.unknown, _) => none
      | (.line, e) => some { e.takeLine false with phase := .at 0 }
      | (.nothing, e) =>
        match e.phase with
        | .finished _ => some e
        | _ => some (e.finish e.status)

/-- Whether something is to be done to files, which later steps may read. -/
def touchesFiles (e : Editor) : Bool :=
  e.effects.any fun
    | .append .. | .replace .. => true
    | _ => false

/-- The editor that has gone on to the input for which it has to wait. -/
def awaiting (files : Readable) (e : Editor) : Editor :=
  match e.phase with
  | .reading => (e.look files false (2 * e.left.length + 4)).2
  | _ => (e.hasMore files).2

/-- Steps until the editor has to wait, is over or touches files, but at most `fuel`. Whether it
has to wait is said as well. -/
def advance (files : Readable) : Nat → Editor → Bool × Editor
  | 0, e => (false, e)
  | fuel + 1, e =>
    match e.step files with
    | none => (true, e.awaiting files)
    | some f => if f.touchesFiles then (false, f) else advance files fuel f

def receive (e : Editor) (a : Arrived) : Editor :=
  match e.stream with
  | none => e
  | some s =>
    match a with
    | .text t => { e with stream := some { s with rest := s.rest ++ t.toList } }
    | .ended => { e with stream := some { s with ended := true } }
    | .broken reason _ => e.panic ("read error on stdin: " ++ reason.text) 4

/-- The part of the standard input that has arrived and has not been read. -/
def leftover (e : Editor) : String :=
  match e.stream with
  | some s => if s.isStandard then String.ofList s.rest else ""
  | none => ""

/-- The editor with which a script begins, when its outputs are opened. -/
def start (setting : Setting) (script : Script) (files : List String) : Editor :=
  let files := if files.isEmpty then ["-"] else files
  { setting := { setting with silent := setting.silent || script.silent }
    script := script
    left := files
    ranges := freshRanges script
    effects := (script.outputs.filter fun name =>
      name ≠ standardOutput && name ≠ "/dev/stderr").reverse.map .empty }

end Editor
end BuildRunner.Host.Sed
