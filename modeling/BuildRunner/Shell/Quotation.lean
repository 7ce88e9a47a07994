set_option autoImplicit false

/-! # Texts as a script can write them

A text is written between single quotes, and each run of single quotes inside of it between
double ones.
-/

namespace BuildRunner.Shell

/-- The characters of a text as a script can write them. -/
def quotation : Nat → List Char → List Char
  | 0, _ => []
  | fuel + 1, cs =>
    let body := cs.takeWhile (· ≠ '\'')
    let rest := cs.drop body.length
    let quotes := rest.takeWhile (· = '\'')
    let behind := rest.drop quotes.length
    '\'' :: body ++ '\'' ::
      (if quotes.isEmpty then []
        else '"' :: quotes ++ '"' :: (if behind.isEmpty then [] else quotation fuel behind))

def quoted (s : String) : String := String.ofList (quotation (s.length + 1) s.toList)

end BuildRunner.Shell
