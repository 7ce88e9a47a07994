import BuildRunner.Proofs.Diagnostic.Numbering
import BuildRunner.Proofs.Diagnostic.Rendering
import BuildRunner.Proofs.Event.RoundTrip
import BuildRunner.Proofs.Json.Nesting

set_option autoImplicit false

/-! # How deep child messages can be

Between a child message and the next one below it stand two brackets, those of the child and those of
the list around it, whether the child is written as an object or as a list. So the depth of a tree
bounds that of the child messages read from it (`Child.within_of_asList`), and a line, of which no
tree is deeper than `Json.depthLimit`, holds none below the 62nd level.

`Child.renderWithin` renders child messages as `Child.renderAll` does, but gives up when it would have
to call itself too often inside itself, or to indent a line too far. `Child.renderWithin_eq_some` says
what it needs.
-/

namespace BuildRunner

open Json (asList Record put_eq_ok)

namespace Child

variable {cs : List Child} {c : Child} {j : Json} {n : Nat}

/-! ## Levels -/

/-- **Child messages on at most `n` levels.** -/
def Within : Nat → List Child → Prop
  | 0, cs => cs = []
  | n + 1, cs => ∀ c ∈ cs, Within n c.children

theorem within_cons : Within (n + 1) (c :: cs) ↔ Within n c.children ∧ Within (n + 1) cs :=
  List.forall_mem_cons

theorem within_nil (n : Nat) : Within n [] := by
  cases n with
  | zero => rfl
  | succ n => exact List.forall_mem_nil _

/-- The level of a child message is the length of its address. -/
theorem Within.length_le {a : List Nat} (h : Within n cs) (there : at? cs a = some c) :
    a.length ≤ n := by
  induction n generalizing cs a with
  | zero =>
      obtain rfl : cs = [] := h
      cases a <;> simp [at?] at there
  | succ n ih =>
      cases a with
      | nil => exact Nat.zero_le _
      | cons i a =>
          obtain ⟨d, hd, below⟩ := Option.bind_eq_some_iff.mp there
          have inside : Within n d.children := h d (List.mem_of_getElem? hd)
          cases a with
          | nil => exact Nat.succ_le_succ (Nat.zero_le n)
          | cons k a => exact Nat.succ_le_succ (ih inside below)

/-! ## Levels of what is read -/

/-- A child message is written with brackets. -/
theorem depth_pos_of_ofJson (h : ofJson j = .ok c) : 0 < j.depth := by
  cases j with
  | array js => exact Nat.succ_pos _
  | object ms => exact Nat.succ_pos _
  | _ => cases h

/-- The children of a record that is read have few levels if this holds of the lists below it. -/
theorem within_of_record {φ δ α : Type} {r : Record φ δ α} {a : α}
    (children : δ → Option (List Child)) (result : α → List Child) (empty : children r.empty = none)
    (put : ∀ d f v d', r.put d f v = .ok d' → children d' = children d ∨
      ∃ cs, asList ofJson v = .ok cs ∧ children d' = some cs)
    (finish : ∀ form d a, r.finish form d = .ok a → result a = (children d).getD [])
    (below : ∀ v ∈ j.children, ∀ cs, asList ofJson v = .ok cs → Within n cs)
    (h : r.ofJson j = .ok a) : Within n (result a) := by
  refine Record.ofJson_keeps (P := fun d => Within n ((children d).getD []))
    (Q := fun a => Within n (result a)) ?_ (fun v hv d f d' hput hd => ?_) (fun form d a hf hd => ?_) h
  · rw [empty]
    exact within_nil n
  · rcases put d f v d' hput with same | ⟨cs, hcs, new⟩
    · rwa [same]
    · rw [new]
      exact below v hv cs hcs
  · rwa [finish form d a hf]

/-- **Two brackets for every level.** -/
theorem within_of_asList {v : Json} (h : asList ofJson v = .ok cs) (small : v.depth ≤ 2 * n + 1) :
    Within n cs := by
  induction n generalizing v cs with
  | zero =>
      cases cs with
      | nil => rfl
      | cons c cs =>
          -- A child inside the only pair of brackets would have none of its own.
          obtain ⟨k, hk, read⟩ := Json.asList_eq_ok h c List.mem_cons_self
          have deeper := Json.depth_lt_of_mem hk
          have bracketed := depth_pos_of_ofJson read
          omega
  | succ n ih =>
      intro c hc
      obtain ⟨k, hk, read⟩ := Json.asList_eq_ok h c hc
      have deeper := Json.depth_lt_of_mem hk
      rw [ofJson_eq] at read
      refine within_of_record Draft.children Child.children rfl ?_ ?_ ?_ read
      · intro d f v d' put
        cases f with
        | children =>
            obtain ⟨-, cs, hcs, rfl⟩ := put_eq_ok.mp put
            exact .inr ⟨cs, hcs, rfl⟩
        | _ =>
            obtain ⟨-, _, -, rfl⟩ := put_eq_ok.mp put
            exact .inl rfl
      · intro form d a finished
        rw [← Except.ok.inj finished]
        rfl
      · intro v hv cs hcs
        have inner := Json.depth_lt_of_mem hv
        exact ih hcs (by omega)

end Child

/-- A message has brackets of its own around its children. -/
theorem CompilerMessage.within_of_ofJson {j : Json} {m : CompilerMessage} {n : Nat}
    (h : ofJson j = .ok m) (small : j.depth ≤ 2 * n + 2) : Child.Within n m.children := by
  refine Child.within_of_record Draft.children CompilerMessage.children rfl ?_ ?_ ?_ h
  · intro d f v d' put
    cases f with
    | children =>
        obtain ⟨-, cs, hcs, rfl⟩ := put_eq_ok.mp put
        exact .inr ⟨cs, Child.listOfJson_eq v ▸ hcs, rfl⟩
    | _ =>
        obtain ⟨-, _, -, rfl⟩ := put_eq_ok.mp put
        exact .inl rfl
  · intro form d a finished
    rw [← Except.ok.inj finished]
    rfl
  · intro v hv cs hcs
    have inner := Json.depth_lt_of_mem hv
    exact Child.within_of_asList hcs (by omega)

theorem ToolEvent.message?_eq_some {e : ToolEvent} {m : CompilerMessage} :
    e.message? = some m ↔ e = .compilerMessage m := by
  cases e <;> simp [message?]

/-- **The children of a message on a line** have at most 62 levels. -/
theorem ToolEvent.within_of_ofLine {line : String} {m : CompilerMessage}
    (h : ofLine line = .ok (.compilerMessage m)) : Child.Within 62 m.children := by
  obtain ⟨tree, text, event⟩ := ofLine_eq_ok.mp h
  obtain ⟨k, hk, read⟩ := message_eq_ok event
  have limit : tree.depth ≤ 127 := Json.depth_le_of_readWith text
  have deeper := Json.depth_lt_of_mem hk
  exact CompilerMessage.within_of_ofJson read (by omega)

/-! ## Rendering with bounds -/

namespace Child

variable {cs : List Child} {c : Child} {n width calls depth : Nat} {text : String}

/-- **Rendering within bounds**: child messages one after another, each with those below it, by at
most `calls` calls inside each other, of which none puts more than `width` blanks before a line. There
is no result if that is not enough. -/
def renderWithin (width : Nat) : (calls depth : Nat) → List Child → Option String
  | 0, _, _ => none
  | calls + 1, depth, cs => do
    let parts ← cs.mapM fun c =>
      if (indent depth).length ≤ width then do
        let below ← renderWithin width calls (depth + 1) c.children
        some ("\n" ++ indent depth ++ c.level ++ ": " ++ c.message ++ below)
      else none
    some (String.join parts)

theorem length_indent (depth : Nat) : (indent depth).length = 2 * depth := by
  rw [indent, String.length_ofList, List.length_replicate]

theorem renderAll_cons (depth : Nat) (c : Child) (cs : List Child) : renderAll depth (c :: cs) =
    "\n" ++ indent depth ++ c.level ++ ": " ++ c.message ++ renderAll (depth + 1) c.children ++
      renderAll depth cs := by
  cases c
  rw [renderAll, render]

theorem renderWithin_cons : renderWithin width (calls + 1) depth (c :: cs) = some text ↔
    2 * depth ≤ width ∧ ∃ below rest, renderWithin width calls (depth + 1) c.children = some below ∧
      renderWithin width (calls + 1) depth cs = some rest ∧
      text = "\n" ++ indent depth ++ c.level ++ ": " ++ c.message ++ below ++ rest := by
  simp only [renderWithin, List.mapM_cons, length_indent, Option.bind_eq_bind,
    Option.pure_def, Option.bind_eq_some_iff, Option.some.injEq]
  constructor
  · rintro ⟨parts, ⟨part, first, others, more, rfl⟩, rfl⟩
    split at first
    · rename_i fits
      obtain ⟨below, inside, same⟩ := Option.bind_eq_some_iff.mp first
      obtain rfl := Option.some.inj same
      exact ⟨fits, below, _, inside, ⟨others, more, rfl⟩, String.join_cons⟩
    · cases first
  · rintro ⟨fits, below, rest, inside, ⟨others, more, rfl⟩, rfl⟩
    refine ⟨_, ⟨_, ?_, others, more, rfl⟩, String.join_cons⟩
    rw [if_pos fits, inside]
    rfl

/-- **What is rendered within bounds** is what is rendered without, if there are no more levels than
calls below the first one and blanks allow. -/
theorem renderWithin_eq_some : renderWithin width (n + 1) depth cs = some text ↔
    Within (min n (width / 2 + 1 - depth)) cs ∧ text = renderAll depth cs := by
  -- The outer induction is on the calls, the inner one goes through the list of one call.
  induction n generalizing depth cs text with
  | zero =>
      rw [Nat.zero_min]
      cases cs with
      | nil => simp [renderWithin, renderAll, Within, eq_comm]
      | cons c cs =>
          rw [renderWithin_cons]
          simp [renderWithin, Within]
  | succ n ih =>
      induction cs generalizing text with
      | nil => simp [renderWithin, renderAll, within_nil, eq_comm]
      | cons c cs ihList =>
          rw [renderWithin_cons, renderAll_cons]
          by_cases fits : 2 * depth ≤ width
          · obtain ⟨k, below, here⟩ : ∃ k, min n (width / 2 + 1 - (depth + 1)) = k ∧
                min (n + 1) (width / 2 + 1 - depth) = k + 1 := ⟨_, rfl, by omega⟩
            rw [here] at ihList
            simp only [ih, below, ihList, here, within_cons]
            constructor
            · rintro ⟨-, below, rest, ⟨inside, rfl⟩, ⟨behind, rfl⟩, rfl⟩
              exact ⟨⟨inside, behind⟩, rfl⟩
            · rintro ⟨⟨inside, behind⟩, rfl⟩
              exact ⟨fits, _, _, ⟨inside, rfl⟩, ⟨behind, rfl⟩, rfl⟩
          · have none : min (n + 1) (width / 2 + 1 - depth) = 0 := by omega
            simp [fits, none, Within]

end Child

/-! ## Every line -/

/-- **No line makes the rendering deep.**

Let a line be read, however long it is and whether its records are written as objects or as lists.
If its event carries a message, then no child message of it is below level 62, where those directly
under the message are on level 1; and all of them are rendered by at most 63 calls inside each other,
with at most 124 blanks before a line. -/
theorem rendering_is_bounded (line : String) (n n' : Numbering) (ds : List Diagnostic)
    (accepted : n.ofLine line = (.ok ds, n')) :
    ∃ e, ToolEvent.ofLine line = .ok e ∧ n.ofEvent e = (ds, n') ∧
      ∀ m, e.message? = some m →
        (∀ a c, Child.at? m.children a = some c → a.length ≤ 62) ∧
        Child.renderWithin 124 63 1 m.children = some (Child.renderAll 1 m.children) := by
  obtain ⟨e, event, given⟩ := Numbering.exists_event accepted
  refine ⟨e, event, given, fun m carries => ?_⟩
  obtain rfl := ToolEvent.message?_eq_some.mp carries
  have levels : Child.Within 62 m.children := ToolEvent.within_of_ofLine event
  exact ⟨fun a c there => levels.length_le there, Child.renderWithin_eq_some.mpr ⟨levels, rfl⟩⟩

def ToolEvent.ofChars? (cs : List Char) : Option ToolEvent :=
  let (xs, stop) := Json.lexemesFrom .start cs
  match Json.Reader.run .all (.start ()) stop xs with
  | .ok (tree, []) => (ofJson tree).toOption
  | _ => none

/-- A line that is given by its characters is read from these. -/
theorem ToolEvent.ofLine_ofList {cs : List Char} {e : ToolEvent} :
    ofLine (.ofList cs) = .ok e ↔ ofChars? cs = some e := by
  rw [ofLine_eq_ok, ofChars?]
  simp only [Json.readText, Json.readWith_eq_ok, Json.lexemes, String.toList_ofList]
  cases Json.Reader.run .all (.start ()) (Json.lexemesFrom .start cs).2
      (Json.lexemesFrom .start cs).1 with
  | error fault => simp
  | ok result =>
      obtain ⟨tree, _ | ⟨x, xs⟩⟩ := result
      · simp [Json.toOption_eq_some]
      · simp

/-- The list of children that are nested on some levels, one on each. They are written as lists, so
there are no other brackets than those that are needed. -/
def nestedChildren : Nat → List Char
  | 0 => ['[', ']']
  | levels + 1 => ['[', '[', '"', '"', ',', '"', '"', ','] ++ nestedChildren levels ++ [']', ']']

def nestedLine (levels : Nat) : List Char :=
  "[\"compiler-message\",[\"\",\"\",null,[[]],".toList ++ nestedChildren levels ++ [']', ']']

/-- The bounds are reached, and a line with one more level is refused. -/
theorem rendering_is_bounded_deepest :
    ∃ ds n' m, Numbering.ofLine {} (.ofList (nestedLine 62)) = (.ok ds, n') ∧
      ToolEvent.ofLine (.ofList (nestedLine 62)) = .ok (.compilerMessage m) ∧
      (Child.at? m.children (List.replicate 62 0)).isSome = true ∧
      Child.renderWithin 124 63 1 m.children = some (Child.renderAll 1 m.children) ∧
      Child.renderWithin 124 62 1 m.children = none ∧
      Child.renderWithin 123 63 1 m.children = none ∧
      ∀ e, ToolEvent.ofLine (.ofList (nestedLine 63)) ≠ .ok e := by
  have found : (((ToolEvent.ofChars? (nestedLine 62)).bind ToolEvent.message?).bind fun m =>
      Child.at? m.children (List.replicate 62 0)).isSome = true := by decide +kernel
  have refused : (ToolEvent.ofChars? (nestedLine 63)).isNone = true := by decide +kernel
  obtain ⟨c, there⟩ := Option.isSome_iff_exists.mp found
  obtain ⟨m, carries, there⟩ := Option.bind_eq_some_iff.mp there
  obtain ⟨e, event, carries⟩ := Option.bind_eq_some_iff.mp carries
  obtain rfl := ToolEvent.message?_eq_some.mp carries
  have read := ToolEvent.ofLine_ofList.mpr event
  have accepted : Numbering.ofLine {} (.ofList (nestedLine 62)) =
      (.ok (Numbering.ofEvent {} (.compilerMessage m)).1,
        (Numbering.ofEvent {} (.compilerMessage m)).2) := by
    rw [Numbering.ofLine, read]
  obtain ⟨e, event', -, bounds⟩ := rendering_is_bounded _ _ _ _ accepted
  obtain rfl := Except.ok.inj (event'.symm.trans read)
  obtain ⟨-, rendered⟩ := bounds m rfl
  -- A child on level 62 leaves no room for tighter bounds.
  have tight {width calls : Nat} (few : min calls (width / 2) < 62) :
      Child.renderWithin width (calls + 1) 1 m.children = none := by
    refine Option.eq_none_iff_forall_not_mem.mpr fun text ht => ?_
    have levels := (Child.renderWithin_eq_some.mp ht).1.length_le there
    rw [List.length_replicate] at levels
    omega
  refine ⟨_, _, m, accepted, read, Option.isSome_iff_exists.mpr ⟨c, there⟩, rendered,
    tight (by decide), tight (by decide), fun e again => ?_⟩
  rw [ToolEvent.ofLine_ofList.mp again] at refused
  cases refused

end BuildRunner
