set_option autoImplicit false

/-! # UTF-8

Reading bytes as characters, one byte at a time. Between two bytes a reader either stands
between characters or holds an `Unfinished` one: the bits seen so far, how many bytes are
missing, and the range in which the next byte has to lie. That range is what excludes
overlong forms, surrogates and values above U+10FFFF.

`decode` never fails: a byte that cannot continue the unfinished character ends it, the
bytes held so far become one replacement character, and the byte is read afresh. So every
maximal prefix of a character that is not completed counts once. `decodeStrict` refuses
such input and says where it starts.
-/

namespace BuildRunner.Utf8

/-- U+FFFD, written for bytes that are no character. -/
def replacement : Char := Char.ofNat 0xFFFD

/-- A character of which the first bytes have been read. -/
structure Unfinished where
  /-- The bits read so far. -/
  value : Nat
  /-- The number of bytes after the next one. -/
  later : Nat
  /-- The least byte that may come next. -/
  least : UInt8
  /-- The greatest byte that may come next. -/
  greatest : UInt8
deriving Repr, DecidableEq

/-- What a byte read between two characters is. -/
inductive Lead where
  | char (c : Char)
  | opens (u : Unfinished)
  | invalid
deriving Repr, DecidableEq

/-- The lead byte of a sequence fixes its length and the range of the second byte. -/
def lead (b : UInt8) : Lead :=
  if b < 0x80 then .char (Char.ofNat b.toNat)
  else if b < 0xC2 then .invalid
  else if b < 0xE0 then .opens ⟨b.toNat - 0xC0, 0, 0x80, 0xBF⟩
  else if b < 0xF0 then
    .opens ⟨b.toNat - 0xE0, 1, if b = 0xE0 then 0xA0 else 0x80, if b = 0xED then 0x9F else 0xBF⟩
  else if b < 0xF5 then
    .opens ⟨b.toNat - 0xF0, 2, if b = 0xF0 then 0x90 else 0x80, if b = 0xF4 then 0x8F else 0xBF⟩
  else .invalid

/-- Whether `b` may come next in `u`. -/
def Unfinished.accepts (u : Unfinished) (b : UInt8) : Bool :=
  u.least ≤ b && b ≤ u.greatest

/-- `u` with one more byte: a whole character, or an unfinished one that wants one byte less. -/
def Unfinished.extend (u : Unfinished) (b : UInt8) : Char ⊕ Unfinished :=
  let value := u.value * 64 + (b.toNat - 0x80)
  match u.later with
  | 0 => .inl (Char.ofNat value)
  | n + 1 => .inr ⟨value, n, 0x80, 0xBF⟩

/-! ## Decoding that replaces what is broken -/

/-- The characters that `b` completes when it is read between characters, and what it opens. -/
def stepLead (b : UInt8) : List Char × Option Unfinished :=
  match lead b with
  | .char c => ([c], none)
  | .opens u => ([], some u)
  | .invalid => ([replacement], none)

/-- The characters that `b` completes, and the character that is unfinished after it. -/
def step (s : Option Unfinished) (b : UInt8) : List Char × Option Unfinished :=
  match s with
  | none => stepLead b
  | some u =>
    if u.accepts b then
      match u.extend b with
      | .inl c => ([c], none)
      | .inr v => ([], some v)
    else
      let (cs, t) := stepLead b
      (replacement :: cs, t)

/-- The characters of `bs` when `s` is unfinished before them. -/
def decodeFrom (s : Option Unfinished) : List UInt8 → List Char
  | [] => if s.isSome then [replacement] else []
  | b :: rest => (step s b).1 ++ decodeFrom (step s b).2 rest

/-- The characters of `bs`, with one U+FFFD for each maximal prefix of a character that is
not completed. -/
def decode (bs : List UInt8) : List Char := decodeFrom none bs

def text (bs : List UInt8) : String := String.ofList (decode bs)

/-! ## Decoding that refuses what is broken -/

/-- The first byte sequence of an input that is no character. -/
structure Fault where
  /-- The number of bytes before it. -/
  start : Nat
  /-- Its length, or `none` if the input ends in the middle of it. -/
  length : Option Nat
deriving Repr, DecidableEq

def Fault.message (f : Fault) : String :=
  match f.length with
  | some n =>
    "invalid utf-8 sequence of " ++ toString n ++ " bytes from index " ++ toString f.start
  | none => "incomplete utf-8 byte sequence from index " ++ toString f.start

/-- `decodeStrict` with the state between two bytes: the number of bytes before the current
character, and the character if it is unfinished together with the bytes it holds. -/
def decodeStrictFrom (start : Nat) (s : Option (Unfinished × Nat)) :
    List UInt8 → Except Fault (List Char)
  | [] => if s.isSome then .error ⟨start, none⟩ else .ok []
  | b :: rest =>
    match s with
    | none =>
      match lead b with
      | .char c => (decodeStrictFrom (start + 1) none rest).map (c :: ·)
      | .opens u => decodeStrictFrom start (some (u, 1)) rest
      | .invalid => .error ⟨start, some 1⟩
    | some (u, held) =>
      if u.accepts b then
        match u.extend b with
        | .inl c => (decodeStrictFrom (start + held + 1) none rest).map (c :: ·)
        | .inr v => decodeStrictFrom start (some (v, held + 1)) rest
      else .error ⟨start, some held⟩

/-- The text of `bs` if every byte belongs to a character, else the first fault. -/
def decodeStrict (bs : List UInt8) : Except Fault String :=
  (decodeStrictFrom 0 none bs).map String.ofList

/-! ## Encoding -/

def encode (s : String) : List UInt8 := s.toUTF8.toList

end BuildRunner.Utf8
