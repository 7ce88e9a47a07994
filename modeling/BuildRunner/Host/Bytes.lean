import BuildRunner.Text.Utf8

set_option autoImplicit false

/-! # Bytes as characters

Programs handle bytes. Inside the host a byte is held as the character with its number, and a
text of such characters is called narrow.
-/

namespace BuildRunner.Host

def narrow (bytes : List UInt8) : String := String.ofList (bytes.map fun b => Char.ofNat b.toNat)

def bytesOf (s : String) : List UInt8 := s.toList.map fun c => UInt8.ofNat c.toNat

def narrowText (s : String) : String := narrow (Utf8.encode s)

/-- The text whose bytes a narrow text holds. -/
def widen (s : String) : String := Utf8.text (bytesOf s)

end BuildRunner.Host
