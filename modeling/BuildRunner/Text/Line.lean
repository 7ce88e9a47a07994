import BuildRunner.Text.Utf8

set_option autoImplicit false

/-! # Lines of output

A byte stream is cut after every line feed. Each terminated piece is one line, without its
line feed and without one carriage return directly before it. If the stream ends cleanly, a
rest that is not empty is a last line and keeps a final carriage return; if reading fails,
the rest is lost. The bytes of a line are decoded as UTF-8 with replacement.

The cut is made on bytes, before decoding. It depends on the bytes alone and not on the
chunks in which they arrive.
-/

namespace BuildRunner.Line

/-- The byte that ends a line. -/
def feed : UInt8 := 10

/-- The byte that is dropped if it stands directly before the end of a line. -/
def carriageReturn : UInt8 := 13

inductive Ending where
  /-- The writers have closed it. -/
  | clean
  /-- Reading from it fails. -/
  | broken
deriving Repr, DecidableEq

/-- The pieces of `bs` that a line feed ends, without it, and the rest after the last one. -/
def pieces : List UInt8 → List (List UInt8) × List UInt8
  | [] => ([], [])
  | b :: bs =>
    let (ps, rest) := pieces bs
    if b = feed then ([] :: ps, rest)
    else
      match ps with
      | [] => ([], b :: rest)
      | p :: ps => ((b :: p) :: ps, rest)

/-- A terminated piece without one final carriage return. -/
def dropReturn (bs : List UInt8) : List UInt8 :=
  if bs.getLast? = some carriageReturn then bs.dropLast else bs

def ofPiece (bs : List UInt8) : String := Utf8.text (dropReturn bs)

/-- The last line, of the rest `bs` that no line feed ends. -/
def ofRest (ending : Ending) (bs : List UInt8) : List String :=
  match ending, bs with
  | .clean, _ :: _ => [Utf8.text bs]
  | _, _ => []

/-- The lines of a stream of the bytes `bs`. -/
def split (ending : Ending) (bs : List UInt8) : List String :=
  let (ps, rest) := pieces bs
  ps.map ofPiece ++ ofRest ending rest

/-! ## Reading in chunks -/

/-- A reader between two chunks. -/
structure Reader where
  /-- The lines that are complete and not yet taken, in order. -/
  ready : List String := []
  /-- The bytes behind the last line feed. -/
  rest : List UInt8 := []
deriving Repr, DecidableEq

namespace Reader

def feed (r : Reader) (chunk : List UInt8) : Reader :=
  let (ps, rest) := pieces (r.rest ++ chunk)
  ⟨r.ready ++ ps.map ofPiece, rest⟩

def finish (r : Reader) (ending : Ending) : Reader := ⟨r.ready ++ ofRest ending r.rest, []⟩

end Reader

/-- The lines of a stream that arrives in chunks. -/
def ofChunks (ending : Ending) (chunks : List (List UInt8)) : List String :=
  ((chunks.foldl Reader.feed {}).finish ending).ready

end BuildRunner.Line
