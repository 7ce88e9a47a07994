import BuildRunner.Text.Printable

set_option autoImplicit false

/-! # Quoted text

A text between double quotes, as messages show it. A quote, a backslash and the common
control characters are written with a backslash and a letter, every other character without
a glyph of its own as its code point in braces.
-/

namespace BuildRunner.Quoted

/-- The digits of `n` in base 16. -/
def hexDigits (n : Nat) : String := String.ofList (Nat.toDigits 16 n)

/-- The written form of a character inside quotes. -/
def escape (c : Char) : String :=
  match c with
  | '"' => "\\\""
  | '\\' => "\\\\"
  | '\n' => "\\n"
  | '\r' => "\\r"
  | '\t' => "\\t"
  | c =>
    if c.toNat = 0 then "\\0"
    else if Printable.isPrintable c then c.toString
    else "\\u\x7b" ++ hexDigits c.toNat ++ "\x7d"

def quote (s : String) : String :=
  "\"" ++ String.join (s.toList.map escape) ++ "\""

end BuildRunner.Quoted
