import BuildRunner.Json.Reader

set_option autoImplicit false

/-! # What a reader does with a lexeme

A lexeme completes a value that holds no others, opens a frame, closes the innermost frame, or leaves
the open frames as they are but for the key that is read (`Reader.Taken`). What is to be known of a
reader is shown for these four cases, and `Reader.run_keeps` carries it from one lexeme to the whole
text.
-/

namespace BuildRunner.Json

def Frame.isArray {σ : Type} : Frame σ → Bool
  | .array _ _ => true
  | .object _ _ _ => false

/-- The values that an open frame holds so far, the last one first. -/
def Frame.values {σ : Type} : Frame σ → List Json
  | .array _ items => items
  | .object _ members _ => members.map Prod.snd

namespace Reader

variable {σ : Type} {sel : Selector σ} {s : σ} {v : Json} {r : Reader σ} {x : Lexeme}
  {frames : List (Frame σ)} {p : Progress σ}

/-! ## One lexeme -/

/-- A complete value goes into the innermost frame, unless it is passed over. -/
theorem complete_cons (f : Frame σ) (frames : List (Frame σ)) :
    ∃ g, complete sel s v (f :: frames) = .inl ⟨g :: frames, .next⟩ ∧ g.isArray = f.isArray ∧
      g.state = f.state ∧ g.values = if sel.kept s then v :: f.values else f.values := by
  cases f with
  | array t items => exact ⟨_, rfl, rfl, rfl, rfl⟩
  | object t members key =>
      refine ⟨_, rfl, rfl, rfl, ?_⟩
      by_cases kept : sel.kept s = true <;> simp [Frame.values, kept]

/-- **What comes of a lexeme**, where `frames` are open before it. -/
inductive Taken (sel : Selector σ) (x : Lexeme) : List (Frame σ) → Progress σ → Prop
  | scalar {frames : List (Frame σ)} (s : σ) {v : Json} (plain : v.depth = 0) :
    Taken sel x frames (complete sel s v frames)
  | opened {frames : List (Frame σ)} {f : Frame σ} (e : Expectation σ) (fresh : f.values = [])
    (room : sel.kept f.state = true → frames.length < depthLimit)
    (brace : f.isArray = false → x.kind = .openBrace) : Taken sel x frames (.inl ⟨f :: frames, e⟩)
  | closed (f : Frame σ) (rest : List (Frame σ)) : Taken sel x (f :: rest) (close sel f rest)
  | within {f g : Frame σ} {rest : List (Frame σ)} (e : Expectation σ)
    (kind : g.isArray = f.isArray) (state : g.state = f.state) (values : g.values = f.values) :
    Taken sel x (f :: rest) (.inl ⟨g :: rest, e⟩)

theorem taken_of_scalar {w : Except Fault Json} (plain : ∀ v, w = .ok v → v.depth = 0)
    (h : scalar sel r s w = .ok p) : Taken sel x r.frames p := by
  unfold scalar at h
  split at h
  · exact Except.ok.inj h ▸ .scalar s (plain _ rfl)
  · split at h
    · cases h
    · exact Except.ok.inj h ▸ .scalar s rfl

theorem taken_of_opens {f : Frame σ} {e : Expectation σ} (h : opens sel r s f e x = .ok p)
    (fresh : f.values = []) (state : f.state = s)
    (brace : f.isArray = false → x.kind = .openBrace) : Taken sel x r.frames p := by
  unfold opens at h
  split at h
  · cases h
  · rename_i few
    obtain rfl := Except.ok.inj h
    refine .opened e fresh (fun kept => ?_) brace
    rw [state] at kept
    simpa [kept] using few

theorem taken_of_nextValue (h : nextValue sel r s x = .ok p) : Taken sel x r.frames p := by
  unfold nextValue at h
  split at h
  · exact taken_of_scalar (fun v hv => Except.ok.inj hv ▸ rfl) h
  · exact taken_of_scalar (fun v hv => Except.ok.inj hv ▸ rfl) h
  · rename_i w _
    refine taken_of_scalar (fun v hv => ?_) h
    cases w <;> cases hv
    rfl
  · rename_i w _
    refine taken_of_scalar (fun v hv => ?_) h
    cases w <;> cases hv
    rfl
  · exact taken_of_opens h rfl rfl fun other => Bool.noConfusion other
  · rename_i brace
    exact taken_of_opens h rfl rfl fun _ => brace
  · cases h
  · cases h

/-- A key changes nothing but the key of the innermost frame. -/
theorem taken_of_nextKey {members : List (String × Json)} {key : String}
    (h : nextKey sel s members frames x = .ok p) :
    Taken sel x (.object s members key :: frames) p := by
  unfold nextKey at h
  repeat' split at h
  all_goals cases h
  all_goals exact .within .colon rfl rfl rfl

/-- **A lexeme does one of four things.** -/
theorem taken_of_next (h : r.next sel x = .ok p) : Taken sel x r.frames p := by
  obtain ⟨frames, expects⟩ := r
  -- One case for each kind of the innermost frame, as in the definition.
  rcases frames with _ | ⟨⟨t, items⟩ | ⟨t, members, key⟩, frames⟩
  · cases expects with
    | value s => exact taken_of_nextValue h
    | _ => cases h
  · cases expects with
    | value s => exact taken_of_nextValue h
    | firstItem =>
        simp only [next] at h
        split at h
        · exact Except.ok.inj h ▸ .closed _ _
        · exact taken_of_nextValue h
    | item =>
        simp only [next] at h
        split at h
        · cases h
        · exact taken_of_nextValue h
    | next =>
        simp only [next] at h
        split at h
        · exact Except.ok.inj h ▸ .within .item rfl rfl rfl
        · exact Except.ok.inj h ▸ .closed _ _
        · cases h
    | _ => cases h
  · cases expects with
    | value s => exact taken_of_nextValue h
    | firstKey =>
        simp only [next] at h
        split at h
        · exact Except.ok.inj h ▸ .closed _ _
        · exact taken_of_nextKey h
    | key =>
        simp only [next] at h
        split at h
        · cases h
        · exact taken_of_nextKey h
    | colon =>
        simp only [next] at h
        split at h
        · exact Except.ok.inj h ▸ .within (.value _) rfl rfl rfl
        · cases h
    | next =>
        simp only [next] at h
        split at h
        · exact Except.ok.inj h ▸ .within .key rfl rfl rfl
        · exact Except.ok.inj h ▸ .closed _ _
        · cases h
    | _ => cases h

/-! ## All lexemes -/

/-- What holds of a lexeme's progress, by what it is: a reader that goes on or a whole value. -/
def Progress.All (P : List (Frame σ) → Prop) (Q : Json → Prop) : Progress σ → Prop
  | .inl r => P r.frames
  | .inr v => Q v

/-- **What every lexeme keeps** holds of the value at the end. -/
theorem run_keeps {P : List (Frame σ) → Prop} {Q : Json → Prop}
    (step : ∀ frames x p, Taken sel x frames p → P frames → Progress.All P Q p) {stop : Place}
    {xs rest : List Lexeme} (start : P r.frames) (h : run sel r stop xs = .ok (v, rest)) : Q v := by
  induction xs generalizing r with
  | nil => cases h
  | cons x xs ih =>
      rw [run] at h
      split at h
      · cases h
      · rename_i w hw
        cases h
        exact step r.frames x _ (taken_of_next hw) start
      · rename_i r' hr'
        have kept : P r'.frames := step r.frames x _ (taken_of_next hr') start
        exact ih kept h

end Reader

/-- A text is read by a run that takes all of its lexemes. -/
theorem readWith_eq_ok {σ : Type} {sel : Selector σ} {s : σ} {text : String} {v : Json} :
    readWith sel s text = .ok v ↔
      Reader.run sel (.start s) (lexemes text).2 (lexemes text).1 = .ok (v, []) := by
  unfold readWith
  cases hr : Reader.run sel (.start s) (lexemes text).2 (lexemes text).1 with
  | error fault => simp [hr, bind, Except.bind]
  | ok result =>
      obtain ⟨w, rest⟩ := result
      cases rest <;> simp [hr, bind, Except.bind, trailing]

end BuildRunner.Json
