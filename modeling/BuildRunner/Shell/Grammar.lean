import BuildRunner.Shell.Source

set_option autoImplicit false

/-! # The grammar of scripts

A script is read one line of commands at a time, so that everything before a line that is not well
formed is run. Words, commands and the scripts whose output stands in words contain one another,
which is why they are read together.
-/

namespace BuildRunner.Shell

open Reading

/-! ## Classes of characters -/

/-- Whether a character ends a word. -/
def isMeta (c : Char) : Bool := " \t\n;&|<>()".toList.contains c

/-- Whether a character names a parameter of its own. -/
def isSpecial (c : Char) : Bool := c.isDigit || "@*#?-$!".toList.contains c

/-- Whether a character means something inside of words. -/
def isActive (c : Char) : Bool := isMeta c || "\\'\"$\x60\x7b\x7d".toList.contains c

/-! ## Places of words -/

inductive Region where
  /-- Outside of quotes; it ends before a character that ends a word. With `plainly` parameters
  and scripts stand for themselves. -/
  | word (plainly : Bool)
  /-- Behind the use of a parameter, outside of quotes; it ends behind a brace. -/
  | operand
  /-- In quotes. -/
  | quotes
  /-- Behind the use of a parameter in quotes; it ends behind a brace. -/
  | quotedOperand
  /-- In a document. -/
  | document
  /-- In an expression, up to two parentheses behind `depth` pairs. -/
  | arithmetic (depth : Nat)
deriving Repr, DecidableEq

namespace Region

def isQuoted : Region → Bool
  | .word _ | .operand => false
  | _ => true

/-- Whether a backslash in front of a character is a character itself. -/
def keepsBackslash (r : Region) (c : Char) : Bool :=
  if c = '\\' ∨ c = '\x60' ∨ c = '$' then false
  else
    match r with
    | .word _ | .operand => false
    | .quotedOperand => c ≠ '"' && c ≠ '\x7d'
    | .document => true
    | .quotes | .arithmetic _ => c ≠ '"'

/-- The region of an operand that begins in a region, and whether it stands in quotes. -/
def operandIn (r : Region) : Region :=
  match r with
  | .word _ | .operand => .operand
  | _ => .quotedOperand

end Region

/-! ## Parts of words -/

def pushText (s : String) : List Part → List Part
  | .text t :: rest => .text (s ++ t) :: rest
  | rest => .text s :: rest

/-- Adds a character that stands for itself in front of parts. -/
def pushLiteral (s : String) : List Part → List Part
  | .literal t :: rest => .literal (s ++ t) :: rest
  | rest => .literal s :: rest

/-- How a parameter is used, read behind its name. -/
def useAt : Reading Use := do
  let ofMark := fun (c : Option Char) (orNull : Bool) =>
    match c with
    | some '-' => some (Use.orElse orNull)
    | some '=' => some (.orAssign orNull)
    | some '?' => some (.orFail orNull)
    | some '+' => some (.instead orNull)
    | _ => none
  match ← look with
  | some ':' =>
    let _ ← take
    match ofMark (← look) true with
    | some u =>
      let _ ← take
      return u
    | none =>
      let _ ← take
      return .unknown
  | some '%' =>
    let _ ← take
    return .dropEnd (← accept '%')
  | some '#' =>
    let _ ← take
    return .dropStart (← accept '#')
  | c =>
    match ofMark c false with
    | some u =>
      let _ ← take
      return u
    | none =>
      if c ≠ some '\x7d' ∧ c.isSome then
        let _ ← take
      return .unknown

/-- The name of a parameter that starts with a letter or a digit. -/
def nameAt : Reading (Option String) := do
  let n ← size
  match ← look with
  | some c =>
    if isNameStart c then return some (String.ofList (← span isNameChar n))
    else if c.isDigit then return some (String.ofList (← span Char.isDigit n))
    else return none
  | none => return none

/-- The parameter behind an opening brace and its use. Without an operand the closing brace has
been read. -/
def bracedAt : Reading (String × Use × Bool) := do
  let used := fun (name : String) => do
    if ← accept '\x7d' then return (name, Use.plain, false)
    else return (name, ← useAt, true)
  match ← nameAt with
  | some name => used name
  | none =>
    match ← look with
    | none | some '\x7d' => return ("", .unknown, true)
    | some '#' =>
      let _ ← take
      let measured := fun (name : String) => do
        if (← look) = some '\x7d' then return (name, Use.length, true)
        else return (name, Use.unknown, true)
      match ← look with
      | some c =>
        if isNameChar c then measured ((← nameAt).getD "")
        else
          let s ← get
          let rest := (joined (s.rest.drop 1) 0).1
          if c ≠ '\x7d' ∧ rest.head? = some '\x7d' then
            let _ ← take
            if isSpecial c then measured (String.singleton c) else return ("", .unknown, true)
          else used "#"
      | none => used "#"
    | some c =>
      let _ ← take
      if isSpecial c then used (String.singleton c) else return ("", .unknown, true)

/-- The script between backquotes from behind the first one on. -/
def backquotedAt (inQuotes : Bool) : Nat → Reading (List Char)
  | 0 => blame "EOF in backquote substitution"
  | fuel + 1 => do
    match ← next with
    | none => blame "EOF in backquote substitution"
    | some '\x60' => return []
    | some '\\' =>
      match ← take with
      | none => blame "EOF in backquote substitution"
      | some c =>
        let rest ← backquotedAt inQuotes fuel
        if c = '\\' ∨ c = '\x60' ∨ c = '$' ∨ (inQuotes ∧ c = '"') then return c :: rest
        else return '\\' :: c :: rest
    | some c => return c :: (← backquotedAt inQuotes fuel)

/-- Takes the line that ends a document, if it stands at the front; tabs in front of a line of the
document are taken if they do not belong to it. -/
def markAt (m : Mark) : Reading Bool := fun s =>
  let rest := if m.strip then s.rest.dropWhile (· = '\t') else s.rest
  let line := rest.takeWhile (· ≠ '\n')
  if line = m.text then
    let behind := rest.drop line.length
    .ok (true, { s with
      rest := behind.drop 1
      line := s.line + 1
      sawEnd := s.sawEnd || behind.isEmpty })
  else .ok (false, { s with rest := rest })

/-- Takes the line that ends the document that is being read, if there is one and its end stands
at the front. -/
def documentEnds : Reading Bool := do
  match (← get).document with
  | none => return false
  | some m => if (← peek).isNone then return false else markAt m

/-- The text of a document that is not expanded. -/
def plainDocument (m : Mark) : Nat → Reading (List Char)
  | 0 => return []
  | fuel + 1 => do
    if (← peek).isNone then return []
    if ← markAt m then return []
    let line ← takeRun (· ≠ '\n')
    match ← take with
    | none => return line
    | some c => return line ++ c :: (← plainDocument m fuel)

/-- Refuses a script that ends in quotes. In a document they can only stand in an operand. -/
def refuseQuotes {α : Type} : Reading α := do
  if (← get).document.isSome then blame "Missing '\x7d'" else blame "Unterminated quoted string"

/-- The text in front of the next quote of the same kind as the one before. -/
def quotedAt : Nat → Reading (List Char)
  | 0 => refuseQuotes
  | fuel + 1 => do
    match ← take with
    | none => refuseQuotes
    | some '\'' => return []
    | some '\n' =>
      if ← documentEnds then refuseQuotes
      return '\n' :: (← quotedAt fuel)
    | some c => return c :: (← quotedAt fuel)

/-- What happens at the end of a script inside of a region. -/
def atEnd (r : Region) : Reading (List Part) :=
  match r with
  | .word _ | .document => return []
  | .operand => blame "Missing '\x7d'"
  | .arithmetic _ => blame "Missing '))'"
  | .quotes | .quotedOperand => refuseQuotes

/-! ## Operators -/

/-- The redirection behind its first character, whose descriptor was given or not. -/
def openingAt (isOutput : Bool) (given : Option Nat) : Reading Token := do
  let made := fun (o : Opening) =>
    Token.redirection (given.getD (if isOutput then 1 else 0)) o
  if isOutput then
    if ← accept '>' then return made (.file .append)
    else if ← accept '|' then return made (.file .overwrite)
    else if ← accept '&' then return made .duplicate
    else return made (.file .write)
  else if ← accept '<' then return made (.document (← accept '-'))
  else if ← accept '&' then return made .duplicate
  else if ← accept '>' then return made (.file .both)
  else return made (.file .read)

/-- Takes the blanks and the comment at the front. -/
def skipBlanks : Nat → Reading Unit
  | 0 => return ()
  | fuel + 1 => do
    match ← look with
    | some '#' =>
      let _ ← takeRun (· ≠ '\n')
      skipBlanks fuel
    | some c =>
      if c = ' ' ∨ c = '\t' then
        let _ ← take
        skipBlanks fuel
      else return ()
    | none => return ()

/-- The operator at the front, if one stands there. -/
def operatorAt : Reading (Option Token) := do
  let double := fun (c : Char) (s : String) => do
    let _ ← take
    if ← accept c then return some (Token.operator (s ++ s)) else return some (.operator s)
  match ← look with
  | none => return some .ending
  | some '\n' =>
    let _ ← take
    return some .newline
  | some '&' => double '&' "&"
  | some '|' => double '|' "|"
  | some ';' => double ';' ";"
  | some '(' =>
    let _ ← take
    return some (.operator "(")
  | some ')' =>
    let _ ← take
    return some (.operator ")")
  | _ => return none

/-! ## What readers of commands look for -/

def reservedWords : List String :=
  ["!", "case", "do", "done", "elif", "else", "esac", "fi", "for", "if", "in", "then", "until",
   "while", "\x7b", "\x7d"]

structure Check where
  /-- Whether line ends are skipped. -/
  newlines : Bool := false
  /-- Whether words of the grammar are known. -/
  reserved : Bool := false
  aliases : Bool := false
  /-- Whether parameters and scripts stand for themselves. -/
  plainly : Bool := false

/-- Checks for everything that can stand at the beginning of a command. -/
def Check.command : Check := { reserved := true, aliases := true }

/-- Checks for everything that can stand on a line of its own. -/
def Check.lines : Check := { newlines := true, reserved := true, aliases := true }

/-- How a refusal names a token. -/
def Token.name : Token → String
  | .word _ _ => "word"
  | .redirection _ _ => "redirection"
  | .reserved s | .operator s => "\"" ++ s ++ "\""
  | .newline => "newline"
  | .ending => "end of file"

def Token.endsList : Token → Bool
  | .ending => true
  | .operator s => s = ")" || s = ";;"
  | .reserved s => ["do", "done", "elif", "else", "esac", "fi", "then", "\x7d"].contains s
  | _ => false

def Token.isOperator (t : Token) (s : String) : Bool :=
  match t with
  | .operator o => o = s
  | _ => false

def Token.isReserved (t : Token) (s : String) : Bool :=
  match t with
  | .reserved w => w = s
  | _ => false

/-- Refuses the last token. -/
def refuse {α : Type} (expected : Option String) : Reading α := do
  let name := (← get).last.name
  blame (name ++ " unexpected" ++ match expected with
    | some s => " (expecting " ++ s ++ ")"
    | none => "")

/-- Refuses the last token where a word of the grammar or an operator has to stand. -/
def refuseFor {α : Type} (s : String) : Reading α := refuse (some ("\"" ++ s ++ "\""))

def pushBack : Reading Unit := modify fun s => { s with isPushed := true }

/-- Gives back that the script has ended. -/
def pushEnding : Reading Unit := modify fun s => { s with isPushed := true, last := .ending }

/-- The names that cannot be given to functions. -/
def specialBuiltins : List String :=
  [".", ":", "break", "continue", "eval", "exec", "exit", "export", "local", "readonly", "return",
   "set", "shift", "times", "trap", "unset"]

def redirectionOf (descriptor : Nat) (o : Opening) (w : Word) : Redirection :=
  match o with
  | .file access => .file descriptor access w
  | _ => .duplicate descriptor w

/-- A simple command that is being read. -/
structure Draft where
  assignments : List (String × Word) := []
  words : List Word := []
  redirections : List Redirection := []
  /-- The only thing that has been read, if it is a word. -/
  name : Option (Word × Bool) := none

/-- A command with redirections, for which `line` is the line it begins on. -/
def withRedirections (line : Nat) (c : Command) (rs : List Redirection) : Command :=
  if rs.isEmpty then c
  else
    match c with
    | .subshell l body _ => .subshell l body rs
    | c => .redirected line c rs

def inBackground (c : Command) : Command :=
  match c with
  | .redirected _ body rs => .background body rs
  | c => .background c []

def following (before : Option Command) (c : Command) : Command :=
  match before with
  | some b => .sequence b c
  | none => c

/-! ## Readers -/

mutual

/-- The parts of a word up to the end of a region, and whether any of it was quoted. With
`lineStart` a line of a document begins. -/
def partsAt (fuel : Nat) (r : Region) (lineStart : Bool) : Reading (List Part × Bool) :=
  match fuel with
  | 0 => blame "too long"
  | fuel + 1 => do
    let ended : Reading (List Part × Bool) := return ((← atEnd r), false)
    let textually := fun (cs : List Char) (lineStart : Bool) => do
      let (ps, q) ← partsAt fuel r lineStart
      return (pushText (String.ofList cs) ps, q)
    let literally := fun (cs : List Char) => do
      let (ps, _) ← partsAt fuel r false
      return (pushLiteral (String.ofList cs) ps, true)
    let behind := fun (p : Part) (quoted : Bool) => do
      let (ps, q) ← partsAt fuel r false
      return (p :: ps, quoted || q)
    let isOver ← if lineStart then documentEnds else pure false
    if isOver then ended
    else
    let ordinary ← takeRun fun c => !isActive c
    if !ordinary.isEmpty then textually ordinary false
    else
    join
    match ← peek with
    | none => ended
    | some c =>
      if (match r with
          | .word _ => isMeta c
          | _ => false) then return ([], false)
      let _ ← take
      match c with
      | '\\' =>
        match ← take with
        | none => literally ['\\']
        | some d => if r.keepsBackslash d then literally ['\\', d] else literally [d]
      | '\'' =>
        if r.isQuoted then textually [c] false
        else
          let inside ← quotedAt ((← size) + 1)
          behind (.quotes [.literal (String.ofList inside)]) true
      | '"' =>
        match r with
        | .quotes => return ([], true)
        | .document | .arithmetic _ => textually [c] false
        | _ =>
          let (inside, _) ← partsAt fuel .quotes false
          behind (.quotes inside) true
      | '$' =>
        match r with
        | .word true => textually [c] false
        | _ => behind (← dollarAt fuel r) false
      | '\x60' =>
        match r with
        | .word true => textually [c] false
        | _ =>
          -- The script is read as a text of its own, behind which the outer one goes on.
          let script ← backquotedAt r.isQuoted ((← size) + 1)
          let outer ← get
          set { outer with
            rest := script, line := 1, expanding := [], expected := [], isPushed := false
            document := none }
          let c ← listAt fuel false true
          documentsAt fuel
          modify fun s => { s with
            rest := outer.rest
            line := outer.line
            expanding := outer.expanding
            expected := outer.expected
            isPushed := false
            document := outer.document
            sawEnd := outer.sawEnd }
          behind (.output (c.getD .nothing)) false
      | '\x7d' =>
        match r with
        | .operand | .quotedOperand => return ([], false)
        | _ => textually [c] false
      | '(' =>
        match r with
        | .arithmetic n =>
          let (ps, q) ← partsAt fuel (.arithmetic (n + 1)) false
          return (pushText "(" ps, q)
        | _ => textually [c] false
      | ')' =>
        match r with
        | .arithmetic 0 =>
          if ← accept ')' then return ([], false) else textually [c] false
        | .arithmetic (n + 1) =>
          let (ps, q) ← partsAt fuel (.arithmetic n) false
          return (pushText ")" ps, q)
        | _ => textually [c] false
      | c => textually [c] (c = '\n')
termination_by structural fuel

/-- The part that a dollar sign starts, from behind it on. -/
def dollarAt (fuel : Nat) (r : Region) : Reading Part :=
  match fuel with
  | 0 => blame "too long"
  | fuel + 1 => do
    match ← look with
    | some '(' =>
      let _ ← take
      if ← accept '(' then
        let (inside, _) ← partsAt fuel (.arithmetic 0) false
        return .arithmetic inside
      else
        -- A command in parentheses has its own documents; those of the outer one are still to come.
        let outer ← get
        set { outer with expected := [], isPushed := false, document := none }
        let c ← listAt fuel false true
        let t ← tokenAt fuel {}
        if !t.isOperator ")" then refuseFor ")"
        documentsAt fuel
        modify fun s => { s with
          expected := outer.expected, isPushed := false, document := outer.document }
        return .output (c.getD .nothing)
    | some '\x7b' =>
      let _ ← take
      let (name, use, hasOperand) ← bracedAt
      if hasOperand then
        let inner : Region := match use with
          | .dropEnd _ | .dropStart _ => .operand
          | _ => r.operandIn
        let (operand, _) ← partsAt fuel inner false
        return .parameter name use operand
      else return .parameter name use []
    | some c =>
      if isNameStart c then return .parameter ((← nameAt).getD "") .plain []
      else if isSpecial c then
        let _ ← take
        return .parameter (String.singleton c) .plain []
      else return .text "$"
    | none => return .text "$"
termination_by structural fuel

def documentsAt (fuel : Nat) : Reading Unit :=
  match fuel with
  | 0 => return ()
  | fuel + 1 => do
    match (← get).expected with
    | [] => return ()
    | e :: rest =>
      modify fun s => { s with expected := rest }
      let body ←
        if e.isExpanded then do
          let outside := (← get).document
          modify fun s => { s with document := some e.mark }
          let (ps, _) ← partsAt fuel .document true
          modify fun s => { s with document := outside }
          pure ps
        else do
          let cs ← plainDocument e.mark ((← size) + 1)
          pure [.literal (String.ofList cs)]
      modify fun s => { s with documents := (e.number, ⟨body, e.isExpanded⟩) :: s.documents }
      documentsAt fuel
termination_by structural fuel

/-- The next token as it stands. -/
def rawTokenAt (fuel : Nat) (check : Check) : Reading Token :=
  match fuel with
  | 0 => blame "too long"
  | fuel + 1 => do
    if (← get).isPushed then
      modify fun s => { s with isPushed := false }
      return (← get).last
    skipBlanks ((← size) + 1)
    leaveAliases
    forgetAliases
    let t ← match ← operatorAt with
      | some t => pure t
      | none => do
        let s ← get
        -- One digit in front of a redirection is its descriptor; more digits are a word.
        let digit := match s.rest with
          | c :: _ => if c.isDigit then some (c.toNat - 48) else none
          | [] => none
        let opens := fun (c : Char) => c = '<' || c = '>'
        match digit, (joined (s.rest.drop 1) 0).1 with
        | some n, c :: _ =>
          if opens c then
            let _ ← take
            let c ← next
            openingAt (c = some '>') (some n)
          else wordToken fuel check
        | _, _ =>
          if (s.rest.head?).any opens then
            let c ← next
            openingAt (c = some '>') none
          else wordToken fuel check
    modify fun s => { s with last := t }
    return t
termination_by structural fuel

def wordToken (fuel : Nat) (check : Check) : Reading Token :=
  match fuel with
  | 0 => blame "too long"
  | fuel + 1 => do
    let (ps, quoted) ← partsAt fuel (.word check.plainly) false
    return .word ps quoted
termination_by structural fuel

def tokenAt (fuel : Nat) (check : Check) : Reading Token :=
  match fuel with
  | 0 => blame "too long"
  | fuel + 1 => do
    let t ← rawTokenAt fuel check
    let follows := (← get).aliasFollows
    modify fun s => { s with aliasFollows := false }
    match t with
    | .newline =>
      if check.newlines then
        documentsAt fuel
        tokenAt fuel check
      else return t
    | .word w false =>
      -- Behind an alias whose value ends in a blank, the next word may be an alias too.
      let check := { check with aliases := check.aliases || follows }
      match Word.plain? w with
      | none => return t
      | some s =>
        if check.reserved ∧ reservedWords.contains s then
          modify fun x => { x with last := .reserved s }
          return .reserved s
        else
          match (← if check.aliases then alias? s else pure none) with
          | some value =>
            Reading.expand s value
            tokenAt fuel check
          | none => return t
    | t => return t
termination_by structural fuel

/-- The target of a redirection that has been opened. -/
def redirectionAt (fuel : Nat) (descriptor : Nat) (o : Opening) : Reading Redirection :=
  match fuel with
  | 0 => blame "too long"
  | fuel + 1 => do
    match o with
    | .document strip =>
      match ← tokenAt fuel { plainly := true } with
      | .word w quoted =>
        let n := (← get).nextDocument
        let e : Expected := ⟨n, ⟨(Word.unquoted w).toList, strip⟩, !quoted⟩
        modify fun s => { s with nextDocument := n + 1, expected := s.expected ++ [e] }
        return .document descriptor n
      | _ => refuse none
    | o =>
      match ← tokenAt fuel {} with
      | .word w _ => return redirectionOf descriptor o w
      | _ => refuse none
termination_by structural fuel

/-- The redirections behind a command; the first token is checked. -/
def redirectionsAt (fuel : Nat) (check : Check) : Reading (List Redirection) :=
  match fuel with
  | 0 => blame "too long"
  | fuel + 1 => do
    match ← tokenAt fuel check with
    | .redirection n o =>
      let r ← redirectionAt fuel n o
      return r :: (← redirectionsAt fuel {})
    | _ =>
      pushBack
      return []
termination_by structural fuel

/-- The rest of a simple command on a line, of which a part has been read. -/
def simpleAt (fuel : Nat) (line : Nat) (d : Draft) : Reading Command :=
  match fuel with
  | 0 => blame "too long"
  | fuel + 1 => do
    match ← tokenAt fuel { aliases := d.words.isEmpty } with
    | .word w quoted =>
      let assigned := if d.words.isEmpty then Word.assignment? w else none
      match assigned with
      | some a => simpleAt fuel line { d with assignments := d.assignments ++ [a], name := none }
      | none =>
        let isFirst := d.words.isEmpty && d.assignments.isEmpty && d.redirections.isEmpty
        simpleAt fuel line { d with
          words := d.words ++ [w], name := if isFirst then some (w, quoted) else none }
    | .redirection n o =>
      let r ← redirectionAt fuel n o
      simpleAt fuel line { d with redirections := d.redirections ++ [r], name := none }
    | t =>
      match (if t.isOperator "(" then d.name else none) with
      | some (w, _) =>
        if !(← tokenAt fuel {}).isOperator ")" then refuseFor ")"
        let name := (Word.plain? w).getD ""
        if !isName name.toList ∨ specialBuiltins.contains name then blame "Bad function name"
        return .definition name (← commandAt fuel .lines)
      | none =>
        pushBack
        return .simple line d.assignments d.words d.redirections
termination_by structural fuel

/-- A command without pipes, whose first token is checked. -/
def commandAt (fuel : Nat) (check : Check) : Reading Command :=
  match fuel with
  | 0 => blame "too long"
  | fuel + 1 => do
    let line := (← get).line
    let closed := fun (c : Command) (word : String) => do
      if !(← tokenAt fuel {}).isReserved word then refuseFor word
      return withRedirections line c (← redirectionsAt fuel .command)
    let looping := fun (stopsOn : Bool) => do
      let test ← listAt fuel false false
      if !(← tokenAt fuel {}).isReserved "do" then refuseFor "do"
      let body ← listAt fuel false false
      closed (.loop stopsOn (test.getD .nothing) (body.getD .nothing)) "done"
    match ← tokenAt fuel check with
    | .word _ _ | .redirection _ _ =>
      pushBack
      simpleAt fuel (← get).line {}
    | .operator "(" =>
      let body ← listAt fuel false false
      if !(← tokenAt fuel {}).isOperator ")" then refuseFor ")"
      let rs ← redirectionsAt fuel .command
      return .subshell line (body.getD .nothing) rs
    | .reserved "\x7b" =>
      let body ← listAt fuel false false
      closed (body.getD .nothing) "\x7d"
    | .reserved "if" => closed (← conditionalAt fuel) "fi"
    | .reserved "while" => looping false
    | .reserved "until" => looping true
    | .reserved "for" =>
      let name := match ← tokenAt fuel {} with
        | .word w false => (Word.plain? w).getD ""
        | _ => ""
      if !isName name.toList then blame "Bad for loop variable"
      let words ← do
        if (← tokenAt fuel .lines).isReserved "in" then
          let ws ← wordsAt fuel
          match (← get).last with
          | .newline | .operator ";" => pure ws
          | _ => refuse none
        else
          if !(← get).last.isOperator ";" then pushBack
          -- Without a list of words the loop runs over the arguments.
          pure [[.quotes [.parameter "@" .plain []]]]
      if !(← tokenAt fuel .lines).isReserved "do" then refuseFor "do"
      let body ← listAt fuel false false
      closed (.each line name words (body.getD .nothing)) "done"
    | .reserved "case" =>
      match ← tokenAt fuel {} with
      | .word subject _ =>
        if !(← tokenAt fuel .lines).isReserved "in" then refuseFor "in"
        let arms ← armsAt fuel
        return withRedirections line (.choice line subject arms) (← redirectionsAt fuel .command)
      | _ => refuse (some "word")
    | _ => refuse none
termination_by structural fuel

def wordsAt (fuel : Nat) : Reading (List Word) :=
  match fuel with
  | 0 => blame "too long"
  | fuel + 1 => do
    match ← tokenAt fuel {} with
    | .word w _ => return w :: (← wordsAt fuel)
    | _ => return []
termination_by structural fuel

/-- A conditional from its test on, up to the word that closes it. -/
def conditionalAt (fuel : Nat) : Reading Command :=
  match fuel with
  | 0 => blame "too long"
  | fuel + 1 => do
    let test ← listAt fuel false false
    if !(← tokenAt fuel {}).isReserved "then" then refuseFor "then"
    let yes ← listAt fuel false false
    let no ← match ← tokenAt fuel {} with
      | .reserved "elif" => conditionalAt fuel
      | .reserved "else" => do
        let c ← listAt fuel false false
        pure (c.getD .nothing)
      | _ => do
        pushBack
        pure .nothing
    return .conditional (test.getD .nothing) (yes.getD .nothing) no
termination_by structural fuel

/-- The arms of a choice and the word that closes it. -/
def armsAt (fuel : Nat) : Reading (List (List Word × Command)) :=
  match fuel with
  | 0 => blame "too long"
  | fuel + 1 => do
    let t ← tokenAt fuel { newlines := true, reserved := true }
    if t.isReserved "esac" then return []
    let t ← if t.isOperator "(" then tokenAt fuel {} else pure t
    let patterns ← patternsAt fuel t
    if !(← get).last.isOperator ")" then refuseFor ")"
    let body ← listAt fuel false true
    let arm := (patterns, body.getD .nothing)
    match ← tokenAt fuel { newlines := true, reserved := true } with
    | .reserved "esac" => return [arm]
    | .operator ";;" => return arm :: (← armsAt fuel)
    | _ => refuseFor ";;"
termination_by structural fuel

/-- The patterns of an arm, of which the first token has been read. -/
def patternsAt (fuel : Nat) (t : Token) : Reading (List Word) :=
  match fuel with
  | 0 => blame "too long"
  | fuel + 1 => do
    let w := match t with
      | .word w _ => w
      | .reserved s => [.text s]
      | _ => []
    if (← tokenAt fuel {}).isOperator "|" then
      let t ← tokenAt fuel {}
      return w :: (← patternsAt fuel t)
    else return [w]
termination_by structural fuel

def pipelineAt (fuel : Nat) (check : Check) : Reading Command :=
  match fuel with
  | 0 => blame "too long"
  | fuel + 1 => do
    let t ← tokenAt fuel check
    let negated := t.isReserved "!"
    if !negated then pushBack
    let c ← commandAt fuel (if negated then .command else {})
    let stages ← stagesAt fuel
    let c := if stages.isEmpty then c else .pipeline (c :: stages)
    return if negated then .negation c else c
termination_by structural fuel

def stagesAt (fuel : Nat) : Reading (List Command) :=
  match fuel with
  | 0 => blame "too long"
  | fuel + 1 => do
    if (← tokenAt fuel {}).isOperator "|" then
      let c ← commandAt fuel .lines
      return c :: (← stagesAt fuel)
    else
      pushBack
      return []
termination_by structural fuel

/-- Pipelines that depend on one another's success, when `c` stands before them. -/
def chainAt (fuel : Nat) (c : Command) : Reading Command :=
  match fuel with
  | 0 => blame "too long"
  | fuel + 1 => do
    match ← tokenAt fuel {} with
    | .operator "&&" => chainAt fuel (.both c (← pipelineAt fuel .lines))
    | .operator "||" => chainAt fuel (.either c (← pipelineAt fuel .lines))
    | _ =>
      pushBack
      return c
termination_by structural fuel

/-- A list of commands: on one line, or on several ones. Where it `mayBeEmpty` nothing has to
stand in it. -/
def listAt (fuel : Nat) (oneLine mayBeEmpty : Bool) : Reading (Option Command) :=
  match fuel with
  | 0 => blame "too long"
  | fuel + 1 => listFrom fuel oneLine mayBeEmpty none
termination_by structural fuel

/-- The rest of a list of commands behind some of them. -/
def listFrom (fuel : Nat) (oneLine mayEnd : Bool) (before : Option Command) :
    Reading (Option Command) :=
  match fuel with
  | 0 => blame "too long"
  | fuel + 1 => do
    -- The ending is put back, for whoever has asked for the list.
    let ended := do
      documentsAt fuel
      pushEnding
      return before
    let t ← tokenAt fuel (if oneLine then .command else .lines)
    match t with
    | .newline =>
      documentsAt fuel
      return before
    | .ending => ended
    | _ =>
      pushBack
      if !oneLine ∧ mayEnd ∧ t.endsList then return before
      let c ← pipelineAt fuel {}
      let c ← chainAt fuel c
      let t ← tokenAt fuel {}
      let all := following before (if t.isOperator "&" then inBackground c else c)
      match t with
      | .ending =>
        documentsAt fuel
        pushEnding
        return all
      | .newline =>
        pushBack
        listFrom fuel oneLine true all
      | .operator "&" | .operator ";" => listFrom fuel oneLine true all
      | _ =>
        if oneLine then refuse none
        pushBack
        return all
termination_by structural fuel

end

/-! ## Scripts -/

/-- How deep readers may call one another in a text. -/
def depthLimit (s : Source) : Nat := 64 * s.rest.length + 100000

/-- Reads the next line of commands: nothing at the end of the script. A line without commands is
the command that does nothing. -/
def Source.nextCommand (s : Source) : Except Refusal (Option Command × Source) := do
  let fuel := depthLimit s
  let start := { s with isPushed := false, expected := [], aliasFollows := false }
  let (c, s) ← StateT.run (listAt fuel true false) start
  match c with
  | some c => return (some c, s)
  | none =>
    match s.isPushed, s.last with
    | true, .ending => return (none, s)
    | _, _ => return (some .nothing, s)

/-- A text whose parameters and scripts are expanded as in a document; one that is not well formed
stands for itself. -/
def promptOf (text : String) : Document :=
  let s : Source := { rest := text.toList, document := some { text := ['\n'] } }
  match StateT.run (partsAt (depthLimit s) .document false) s with
  | .ok ((ps, _), _) => ⟨ps, true⟩
  | .error _ => ⟨[.literal text], true⟩

end BuildRunner.Shell
