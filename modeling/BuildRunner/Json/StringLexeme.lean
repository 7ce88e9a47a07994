import BuildRunner.Json.Place

set_option autoImplicit false

/-! # The strings of a JSON text

A string is read in two ways. `close` finds its end and refuses what is no string at all: a
control character, an escape of an unknown kind, an end of text. `read` gives its characters
and refuses in addition an escaped surrogate without its partner. A reader that passes over
a value looks only for its end.
-/

namespace BuildRunner.Json

/-- The character that an escape with one letter stands for. -/
def escapedChar : Char → Option Char
  | '"' => some '"'
  | '\\' => some '\\'
  | '/' => some '/'
  | 'b' => some (Char.ofNat 8)
  | 'f' => some (Char.ofNat 12)
  | 'n' => some '\n'
  | 'r' => some '\r'
  | 't' => some '\t'
  | _ => none

def hexValue (c : Char) : Option Nat :=
  if '0' ≤ c && c ≤ '9' then some (c.toNat - 48)
  else if 'a' ≤ c && c ≤ 'f' then some (c.toNat - 87)
  else if 'A' ≤ c && c ≤ 'F' then some (c.toNat - 55)
  else none

def hexUnit (a b c d : Char) : Option Nat := do
  let a ← hexValue a
  let b ← hexValue b
  let c ← hexValue c
  let d ← hexValue d
  some (((a * 16 + b) * 16 + c) * 16 + d)

/-- Whether a character may not stand in a string as it is. -/
def isControl (c : Char) : Bool := c.toNat < 0x20

/-- The fault of a text in which four hexadecimal digits were wanted: they span four bytes,
whatever these are. -/
def hexFault (p : Place) (cs : List Char) : Fault :=
  go p 4 cs
where
  /-- The place behind the next `n` bytes, if there are so many. -/
  go (p : Place) (n : Nat) : List Char → Fault
    | [] => if n = 0 then ⟨.invalidEscape, p⟩ else ⟨.endInString, p⟩
    | c :: cs =>
      if n = 0 then ⟨.invalidEscape, p⟩
      else if n < c.utf8Size then ⟨.invalidEscape, ⟨p.line, p.column + n⟩⟩
      else go (p.after c) (n - c.utf8Size) cs

/-- The text behind the quote that ends a string, and the place there. -/
def close (p : Place) : (cs : List Char) → Option (Place × { rest : List Char // rest.length < cs.length })
  | [] => none
  | '"' :: rest => some (p.after '"', ⟨rest, by simp⟩)
  | '\\' :: 'u' :: a :: b :: c :: d :: rest =>
    match hexUnit a b c d with
    | some _ =>
      (close ⟨p.line, p.column + 6⟩ rest).map fun (q, r) => (q, ⟨r.val, by have := r.2; simp; omega⟩)
    | none => none
  | '\\' :: e :: rest =>
    match escapedChar e with
    | some _ =>
      (close ⟨p.line, p.column + 2⟩ rest).map fun (q, r) => (q, ⟨r.val, by have := r.2; simp; omega⟩)
    | none => none
  | c :: rest =>
    if c = '\\' ∨ isControl c then none
    else (close (p.after c) rest).map fun (q, r) => (q, ⟨r.val, by have := r.2; simp; omega⟩)

def pairValue (high low : Nat) : Nat := (high - 0xD800) * 0x400 + (low - 0xDC00) + 0x10000

/-- The fault of a first surrogate that no second one follows, at the text behind it. -/
def surrogateFault (p : Place) : List Char → Fault
  | [] => ⟨.endInString, p⟩
  | '\\' :: [] => ⟨.endInString, ⟨p.line, p.column + 1⟩⟩
  | '\\' :: 'u' :: a :: b :: c :: d :: _ =>
    match hexUnit a b c d with
    | some _ => ⟨.loneSurrogate, ⟨p.line, p.column + 6⟩⟩
    | none => hexFault ⟨p.line, p.column + 2⟩ [a, b, c, d]
  | '\\' :: 'u' :: rest => hexFault ⟨p.line, p.column + 2⟩ rest
  | '\\' :: c :: _ => ⟨.unfinishedSurrogate, Place.inside ⟨p.line, p.column + 1⟩ c⟩
  | c :: _ => ⟨.unfinishedSurrogate, p.inside c⟩

/-- The characters of a string up to the quote that ends it. -/
def read (p : Place) : List Char → Except Fault (List Char)
  | [] => .error ⟨.endInString, p⟩
  | '"' :: _ => .ok []
  | '\\' :: 'u' :: a :: b :: c :: d :: rest =>
    match hexUnit a b c d with
    | none => .error (hexFault ⟨p.line, p.column + 2⟩ [a, b, c, d])
    | some n =>
      let behind : Place := ⟨p.line, p.column + 6⟩
      -- A second surrogate cannot come first.
      if 0xDC00 ≤ n ∧ n ≤ 0xDFFF then .error ⟨.loneSurrogate, behind⟩
      else if n < 0xD800 ∨ 0xDBFF < n then (read behind rest).map (Char.ofNat n :: ·)
      else
        -- A first surrogate is half of a character; only the next escape can be the other half.
        match rest with
        | '\\' :: 'u' :: a :: b :: c :: d :: rest' =>
          match hexUnit a b c d with
          | some m =>
            if 0xDC00 ≤ m ∧ m ≤ 0xDFFF then
              (read ⟨p.line, p.column + 12⟩ rest').map (Char.ofNat (pairValue n m) :: ·)
            else .error (surrogateFault behind rest)
          | none => .error (surrogateFault behind rest)
        | _ => .error (surrogateFault behind rest)
  | '\\' :: 'u' :: rest => .error (hexFault ⟨p.line, p.column + 2⟩ rest)
  | '\\' :: e :: rest =>
    match escapedChar e with
    | some c => (read ⟨p.line, p.column + 2⟩ rest).map (c :: ·)
    | none => .error ⟨.invalidEscape, Place.inside ⟨p.line, p.column + 1⟩ e⟩
  | c :: rest =>
    if c = '\\' then .error ⟨.endInString, p.after c⟩
    else if isControl c then .error ⟨.controlCharacter, p.inside c⟩
    else (read (p.after c) rest).map (c :: ·)

end BuildRunner.Json
