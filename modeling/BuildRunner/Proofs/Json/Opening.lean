import BuildRunner.Proofs.Json.Reader

set_option autoImplicit false

/-! # How the text of an object begins

What a reader comes to depends on the first lexeme: it reads an object only if that is an opening
brace. And a text has such a lexeme only if a brace is its first character behind the spaces.
-/

namespace BuildRunner.Json

def isObject : Json → Bool
  | .object _ => true
  | _ => false

/-! ## Readers -/

namespace Reader

variable {σ : Type} {sel : Selector σ} {s : σ} {v : Json} {x : Lexeme} {frames : List (Frame σ)}
  {p : Progress σ}

def InArray (frames : List (Frame σ)) : Prop := frames.getLast?.any Frame.isArray = true

/-- What follows in an array that is still open: the reader stays in it, or has read no object. -/
def Progress.StaysInArray (p : Progress σ) : Prop := p.All InArray fun v => v.isObject = false

theorem inArray_cons (f : Frame σ) (h : InArray frames) : InArray (f :: frames) := by
  cases frames with
  | nil => cases h
  | cons g frames => exact h

theorem inArray_tail {f g : Frame σ} (h : InArray (f :: frames)) (same : g.isArray = f.isArray) :
    InArray (g :: frames) := by
  cases frames with
  | nil => simpa [InArray, same] using h
  | cons _ _ => exact h

theorem complete_staysInArray (h : InArray frames) : (complete sel s v frames).StaysInArray := by
  cases frames with
  | nil => cases h
  | cons f frames =>
      obtain ⟨g, result, kind, -, -⟩ := complete_cons f frames
      rw [result]
      exact inArray_tail h kind

theorem close_staysInArray {f : Frame σ} (h : InArray (f :: frames)) :
    (close sel f frames).StaysInArray := by
  cases frames with
  | nil =>
      cases f with
      | array s items => rfl
      | object s members key => cases h
  | cons g frames => exact complete_staysInArray (v := closed f) (s := f.state) h

/-- **A reader in an array** stays in it until it has read an array. -/
theorem Taken.staysInArray (ht : Taken sel x frames p) (h : InArray frames) : p.StaysInArray := by
  cases ht with
  | scalar s _ => exact complete_staysInArray h
  | opened e _ _ _ => exact inArray_cons _ h
  | closed f rest => exact close_staysInArray h
  | within e kind _ _ => exact inArray_tail h kind

/-- A first lexeme that is no opening brace completes another value, or opens an array. -/
theorem Taken.of_start (ht : Taken sel x [] p) (hx : x.kind ≠ .openBrace) : p.StaysInArray := by
  cases ht with
  | @scalar _ s v plain =>
      show v.isObject = false
      cases v with
      | object ms => cases plain
      | _ => rfl
  | @opened _ f e _ _ brace =>
      have array : f.isArray = true := by
        cases hf : f.isArray with
        | true => rfl
        | false => exact absurd (brace hf) hx
      exact array

/-- **A reader that reads an object** takes an opening brace first. -/
theorem openBrace_of_run {stop : Place} {xs rest : List Lexeme}
    (hr : run sel (start s) stop xs = .ok (v, rest)) (hv : v.isObject = true) :
    ∃ x xs', xs = x :: xs' ∧ x.kind = .openBrace := by
  cases xs with
  | nil => cases hr
  | cons x xs =>
      refine ⟨x, xs, rfl, Classical.byContradiction fun hx => ?_⟩
      have hv' : v.isObject = false := by
        rw [run] at hr
        split at hr
        · cases hr
        · rename_i w hw
          cases hr
          exact (taken_of_next hw).of_start hx
        · rename_i r' hr'
          have inside : InArray r'.frames := (taken_of_next hr').of_start hx
          exact run_keeps (P := InArray) (Q := fun v => v.isObject = false)
            (fun _ _ _ ht h => ht.staysInArray h) inside hr
      rw [hv] at hv'
      cases hv'

end Reader

/-! ## Lexemes -/

theorem kind_cutWord {kind : LexemeKind} {word : List Char} {p : Place} {c : Char} {cs : List Char}
    (hk : kind ≠ .openBrace) : (cutWord kind word p c cs).1.kind ≠ .openBrace := by
  unfold cutWord
  split
  · exact hk
  · exact nofun

theorem kind_cutString {p : Place} {cs : List Char} : (cutString p cs).1.kind ≠ .openBrace := by
  unfold cutString
  dsimp only
  repeat' split
  all_goals simp [cutBroken]

theorem kind_cutNumber {p : Place} {c : Char} {cs : List Char} :
    (cutNumber p c cs).1.kind ≠ .openBrace := by
  unfold cutNumber
  split <;> exact nofun

/-- Only a brace begins a lexeme that is one. -/
theorem eq_brace_of_cut {p : Place} {c : Char} {cs : List Char}
    (h : (cut p c cs).1.kind = .openBrace) : c = '\x7b' := by
  unfold cut at h
  split at h
  · rfl
  · cases h
  · cases h
  · cases h
  · cases h
  · cases h
  · exact absurd h (kind_cutWord nofun)
  · exact absurd h (kind_cutWord nofun)
  · exact absurd h (kind_cutWord nofun)
  · exact absurd h kind_cutString
  · split at h
    · exact absurd h kind_cutNumber
    · cases h

/-- **A text that begins with the lexeme of an opening brace** begins with that brace, spaces
apart. -/
theorem brace_of_lexemes {p q : Place} {cs : List Char} {x : Lexeme} {xs : List Lexeme}
    (h : lexemesFrom p cs = (x :: xs, q)) (hx : x.kind = .openBrace) :
    (cs.dropWhile isSpace).head? = some '\x7b' := by
  induction cs generalizing p with
  | nil =>
      rw [lexemesFrom] at h
      cases h
  | cons c cs ih =>
      rw [lexemesFrom] at h
      split at h
      · rename_i space
        rw [List.dropWhile_cons, if_pos space]
        exact ih h
      · rename_i other
        rw [List.dropWhile_cons, if_neg other]
        have first : (cut p c cs).1 = x := by
          dsimp only at h
          split at h <;> cases h <;> rfl
        have brace : c = '\x7b' := eq_brace_of_cut (by rw [first, hx])
        rw [List.head?_cons, brace]

/-! ## Texts -/

/-- **The text of an object begins with a brace**, spaces apart. -/
theorem brace_of_readText {text : String} {v : Json} (h : readText text = .ok v)
    (hv : v.isObject = true) : (text.toList.dropWhile isSpace).head? = some '\x7b' := by
  obtain ⟨x, xs, first, hx⟩ := Reader.openBrace_of_run (readWith_eq_ok.mp h) hv
  exact brace_of_lexemes (Prod.ext first rfl) hx

end BuildRunner.Json
