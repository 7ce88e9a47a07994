import BuildRunner.Proofs.Diagnostic.Numbering
import BuildRunner.Proofs.Event.Schema
import BuildRunner.Proofs.Task.Routing

set_option autoImplicit false

/-! # Malformed lines

`Content.Valid` is the schema of events, without any decoder: which trees may stand for what.
A record may also be written as the list of its fields; apart from such trees (`Content.Listed`) a
tree is decoded exactly if it is valid. So the lines that are malformed are those that break the
schema, and a malformed line leaves no trace but its own error.
-/

namespace BuildRunner

open Json (Decoded Given asOption asList bind_eq_ok map_eq_ok)
open CompilerMessage (valuesOf)

/-! ## The schema -/

namespace Content

/-- **The trees that keep the schema** of a content. In an object every known key stands at most
once, the required ones do stand there, and every value under a known key is valid. -/
inductive Valid : Content → Json → Prop
  | text (s : String) : Valid .text (.string s)
  | word {n : Nat} (h : n < 2 ^ 32) : Valid .word (.number (.natural n))
  | flag (b : Bool) : Valid .flag (.bool b)
  | noLabel : Valid .label .null
  | label (s : String) : Valid .label (.string s)
  | code (s : String) : Valid (.record .code) (.string s)
  | object (p : Part) {ms : List (String × Json)}
    (once : ∀ f, (valuesOf (p.key f) ms).length ≤ 1)
    (complete : ∀ f, p.key f ∈ p.requiredKeys → valuesOf (p.key f) ms ≠ [])
    (valid : ∀ f, ∀ v ∈ valuesOf (p.key f) ms, Valid (p.content f) v) :
    Valid (.record p) (.object ms)
  | null (c : Content) : Valid (.nullable c) .null
  | value {c : Content} {j : Json} (h : Valid c j) : Valid (.nullable c) j
  | list {c : Content} {js : List Json} (h : ∀ j ∈ js, Valid c j) : Valid (.list c) (.array js)

/-- **Trees with an array where an object is due**: there a record is written as the list of its
fields. An error code has no such form. -/
inductive Listed : Content → Json → Prop
  | here {p : Part} (h : p ≠ .code) (js : List Json) : Listed (.record p) (.array js)
  | field (p : Part) (f : p.Field) {ms : List (String × Json)} {v : Json}
    (hv : v ∈ valuesOf (p.key f) ms) (h : Listed (p.content f) v) : Listed (.record p) (.object ms)
  | nullable {c : Content} {j : Json} (h : Listed c j) : Listed (.nullable c) j
  | item {c : Content} {js : List Json} {j : Json} (hj : j ∈ js) (h : Listed c j) :
    Listed (.list c) (.array js)

/-! ## What is valid is decoded -/

theorem Valid.decode {c : Content} {j : Json} (h : c.Valid j) : ∃ a, c.decode j = .ok a := by
  induction h with
  | text s => exact ⟨s, rfl⟩
  | word h => exact Json.exists_asWord_ok.mpr ⟨_, h, rfl⟩
  | flag b => exact ⟨b, rfl⟩
  | noLabel => exact ⟨_, rfl⟩
  | label s => exact ⟨_, rfl⟩
  | code s => exact ⟨s, rfl⟩
  | @object p ms once complete _ ih =>
      have given : ∀ f, ∃ b,
          Given (p.content f).decode (p.default? f) (valuesOf (p.key f) ms) b := by
        intro f
        match hv : valuesOf (p.key f) ms with
        | [] =>
            have optional : p.default? f ≠ none := fun h => complete f (p.mem_requiredKeys.mpr h) hv
            exact Option.ne_none_iff_exists'.mp optional
        | [v] => exact ih f v (hv ▸ List.mem_singleton_self v)
        | _ :: _ :: _ => exact absurd (hv ▸ once f) (by simp)
      exact ⟨_, p.decode_object.mpr ⟨_, fun f => (given f).choose_spec, rfl⟩⟩
  | null c => exact ⟨none, rfl⟩
  | value _ ih => exact Json.exists_asOption_ok.mpr (.inr ih)
  | list _ ih => exact Json.exists_mapM_ok.mpr ih

/-! ## What is decoded is valid -/

/-- A record is written as an object or as a list, an error code also as a text. -/
theorem form_of_decode {p : Part} {j : Json} {a : p.Value} (h : p.decode j = .ok a) :
    (∃ ms, j = .object ms) ∨ (∃ js, j = .array js) ∧ p ≠ .code ∨
      (∃ s, j = .string s) ∧ p = .code := by
  cases p <;> cases j <;> first | cases h; done | simp

theorem valid_of_decode {c : Content} {j : Json} (unlisted : ¬ c.Listed j)
    (h : ∃ a, c.decode j = .ok a) : c.Valid j := by
  induction j using Json.tree_induction generalizing c with
  | step j below =>
      -- Null and a value are the same tree as their content, so here the content gets smaller.
      induction c with
      | text =>
          obtain ⟨s, hs⟩ := h
          exact Json.asText_eq_ok.mp hs ▸ .text s
      | word =>
          obtain ⟨n, small, rfl⟩ := Json.exists_asWord_ok.mp h
          exact .word small
      | flag =>
          obtain ⟨b, hb⟩ := h
          cases j with
          | bool b => exact .flag b
          | _ => cases hb
      | label =>
          obtain ⟨_, hl⟩ := h
          obtain ⟨l, read, -⟩ := map_eq_ok.mp hl
          rcases Json.exists_asOption_ok.mp ⟨l, read⟩ with rfl | ⟨s, hs⟩
          · exact .noLabel
          · exact Json.asText_eq_ok.mp hs ▸ .label s
      | record p =>
          obtain ⟨a, ha⟩ := h
          obtain ⟨ms, rfl⟩ | ⟨⟨js, rfl⟩, notCode⟩ | ⟨⟨s, rfl⟩, rfl⟩ := form_of_decode ha
          · obtain ⟨b, given, -⟩ := p.decode_object.mp ha
            refine .object p (fun f => (given f).length_le) (fun f required none => ?_)
              fun f v hv => ?_
            · have missing := given f
              rw [none, p.mem_requiredKeys.mp required] at missing
              cases missing
            · have found : v ∈ Json.children (.object ms) :=
                List.mem_map_of_mem (CompilerMessage.mem_valuesOf.mp hv)
              obtain ⟨vs, ws, split⟩ := List.append_of_mem hv
              have only := (split ▸ given f).only
              exact below v found (fun h => unlisted (.field p f hv h)) ⟨b f, only.2.2⟩
          · exact absurd (.here notCode js) unlisted
          · exact .code s
      | nullable c ih =>
          rcases Json.exists_asOption_ok.mp h with rfl | read
          · exact .null c
          · exact .value (ih (fun h => unlisted (.nullable h)) read)
      | list c _ =>
          obtain ⟨as, has⟩ := h
          cases j with
          | array js =>
              have read := Json.exists_mapM_ok.mp ⟨as, has⟩
              exact .list fun k hk => below k hk (fun h => unlisted (.item hk h)) (read k hk)
          | _ => cases has

end Content

/-! ## Malformed events -/

/-- **Objects that break the schema of events**: the reason is missing, repeated or no text; or it
is that of a compiler message, and the payload is missing, repeated or not valid. -/
def ToolEvent.Breaks (ms : List (String × Json)) : Prop :=
  (∀ r, valuesOf reasonKey ms ≠ [.string r]) ∨
    valuesOf reasonKey ms = [.string compilerMessageReason] ∧
      ∀ v, valuesOf messageKey ms = [v] → ¬ Content.Valid (.record .message) v

/-- Whether the payload of a compiler message has an array where an object is due. -/
def ToolEvent.Listed (ms : List (String × Json)) : Prop :=
  valuesOf reasonKey ms = [.string compilerMessageReason] ∧
    ∃ v ∈ valuesOf messageKey ms, Content.Listed (.record .message) v

namespace ToolEvent

variable {ms : List (String × Json)}

/-- An object with any other reason stands for an event without a message. -/
theorem ofJson_other {r : String} (reason : valuesOf reasonKey ms = [.string r])
    (other : r ≠ compilerMessageReason) : ofJson (.object ms) = .ok .other :=
  ofJson_object.mpr ⟨r, reason, ofReason_eq_ok.mpr (by rw [if_neg other])⟩

/-- **An object stands for an event unless it breaks the schema.** -/
theorem exists_ofJson_ok (unlisted : ¬ Listed ms) :
    (∃ e, ofJson (.object ms) = .ok e) ↔ ¬ Breaks ms := by
  constructor
  · rintro ⟨e, he⟩
    obtain ⟨r, reason, event⟩ := ofJson_object.mp he
    rintro (noReason | ⟨isMessage, invalid⟩)
    · exact noReason r reason
    · obtain rfl : r = compilerMessageReason := by simpa [reason] using isMessage
      obtain ⟨v, m, only, read, -⟩ := ofReason_eq_ok.mp event
      have inside : v ∈ valuesOf messageKey ms := only ▸ List.mem_singleton_self v
      exact invalid v only
        (Content.valid_of_decode (fun h => unlisted ⟨isMessage, v, inside, h⟩) ⟨m, read⟩)
  · intro keeps
    obtain ⟨hasReason, valid⟩ := not_or.mp keeps
    obtain ⟨r, reason⟩ := Classical.not_forall.mp hasReason
    rw [Classical.not_not] at reason
    by_cases isMessage : r = compilerMessageReason
    · subst isMessage
      obtain ⟨v, payload⟩ := Classical.not_forall.mp fun h => valid ⟨reason, h⟩
      obtain ⟨only, valid⟩ := Classical.not_imp.mp payload
      obtain ⟨m, read⟩ := (Classical.not_not.mp valid).decode
      exact ⟨_, ofJson_object.mpr ⟨_, reason, ofReason_eq_ok.mpr ⟨v, m, only, read, rfl⟩⟩⟩
    · exact ⟨_, ofJson_other reason isMessage⟩

end ToolEvent

/-! ## Malformed lines -/

/-- A malformed line has no part in the results of other lines. -/
theorem Numbering.eraseIdx_ofLines {n : Numbering} {line : String} {error : Malformed}
    (h : ∀ m : Numbering, m.ofLine line = (.error error, m)) (front back : List String) :
    (n.ofLines (front ++ line :: back)).eraseIdx front.length = n.ofLines (front ++ back) := by
  rw [ofLines_append, ofLines_append, ofLines, h, ← n.length_ofLines front,
    List.eraseIdx_append_of_length_le (Nat.le_refl _), Nat.sub_self]
  rfl

/-- **The malformed lines are those that break the schema, and they have no effect.**

Take a line that is the text of an object without arrays where the schema has records. It is
malformed exactly if the object breaks the schema; and then, on the standard output of a task, it is
only counted. With any reason but that of a compiler message it is an event without diagnostics,
whatever else it holds.

A malformed line is quoted in its error, is malformed at every place of a stream, and leaves the
numbering as it is: the other lines give the same results as without it. -/
theorem malformed_iff_breaks :
    (∀ (line : String) (ms : List (String × Json)), Json.readText line = .ok (.object ms) →
      ¬ ToolEvent.Listed ms → ∀ n : Numbering,
      ((∃ error, (n.ofLine line).1 = .error error) ↔ ToolEvent.Breaks ms) ∧
      (ToolEvent.Breaks ms → ∀ g : Routing, g.route (.output line) =
        (.malformed, { g with malformedLines := g.malformedLines + 1 })) ∧
      ∀ r, valuesOf ToolEvent.reasonKey ms = [.string r] → r ≠ ToolEvent.compilerMessageReason →
        n.ofLine line = (.ok [], n)) ∧
    (∀ (n n' : Numbering) (line : String) (error : Malformed),
      n.ofLine line = (.error error, n') →
      n' = n ∧ error.input = line ∧
      ∀ (m : Numbering) (front back : List String),
        (m.ofLines (front ++ line :: back))[front.length]? = some (.error error, m.after front) ∧
        (m.ofLines (front ++ line :: back)).eraseIdx front.length = m.ofLines (front ++ back)) := by
  constructor
  · intro line ms text unlisted n
    have event := ToolEvent.exists_ofJson_ok unlisted
    have malformed (breaks : ToolEvent.Breaks ms) (m : Numbering) :
        m.ofLine line = (.error ⟨line, ToolEvent.explain line⟩, m) :=
      m.ofLine_noEvent text fun e he => event.mp ⟨e, he⟩ breaks
    refine ⟨⟨fun ⟨error, h⟩ => ?_, fun breaks => ⟨_, congrArg Prod.fst (malformed breaks n)⟩⟩,
      fun breaks g => ?_, fun r reason other => ?_⟩
    · -- A line that keeps to the schema is an event, and so no error.
      refine Classical.byContradiction fun keeps => ?_
      obtain ⟨e, he⟩ := event.mpr keeps
      rw [n.ofLine_event text he] at h
      cases h
    · have looks := Routing.looksLikeEvent_of_object text rfl
      simp only [Routing.route, Routing.routeOutput, looks, if_true, malformed breaks]
    · exact n.ofLine_event text (ToolEvent.ofJson_other reason other)
  · intro n n' line error h
    obtain ⟨same, input, always⟩ := Numbering.ofLine_malformed h
    refine ⟨same, input, fun m front back => ⟨?_, Numbering.eraseIdx_ofLines always front back⟩⟩
    rw [m.getElem?_ofLines]
    simp [always]

/-- A compiler message at a line beyond all numbers of 32 bits. -/
def farAway : List (String × Json) :=
  [("reason", .string "compiler-message"),
    ("message", .object [("spans", .array [.object [("line_end", .number (.natural (2 ^ 32)))]])])]

/-- A position out of range makes a line malformed. -/
theorem malformed_iff_breaks_farAway :
    let line := "\x7b\"reason\":\"compiler-message\",\"message\":\x7b" ++
      "\"spans\":[\x7b\"line_end\":4294967296\x7d]\x7d\x7d"
    (∃ error, (Numbering.ofLine {} line).1 = .error error ∧ error.input = line) ∧
      Numbering.ofLine {} "\x7b\"reason\":\"x\",\"message\":[]\x7d" = (.ok [], {}) := by
  intro line
  have text : ∀ {l : String} {j : Json}, (Json.readText l).toOption = some j →
      Json.readText l = .ok j := Json.toOption_eq_some.mp
  -- Both facts are found by taking the tree apart down to the number.
  have unlisted : ¬ ToolEvent.Listed farAway := by
    rintro ⟨-, v, hv, h⟩
    obtain rfl : v = _ := List.mem_singleton.mp hv
    cases h with
    | field _ f hv h =>
        cases f <;> simp [valuesOf, Part.key, CompilerMessage.Field.key] at hv
        subst hv
        cases h with
        | item hj h =>
            obtain rfl := List.mem_singleton.mp hj
            cases h with
            | field _ f hv h =>
                cases f <;> simp [valuesOf, Part.key, Span.Field.key] at hv
                cases h
  have breaks : ToolEvent.Breaks farAway := by
    refine .inr ⟨rfl, fun v only valid => ?_⟩
    obtain rfl : _ = v := List.head_eq_of_cons_eq only
    cases valid with
    | object _ _ _ valid =>
        have spans : Content.Valid (.list (.record .span)) _ := valid .spans _ (.head [])
        cases spans with
        | list valid =>
            have span := valid _ (.head [])
            cases span with
            | object _ _ _ valid =>
                have position : Content.Valid .word _ := valid .lineEnd _ (.head [])
                cases position with
                | word small => exact absurd small (by decide)
  have malformed := malformed_iff_breaks.1 line farAway (text (by decide +kernel)) unlisted {}
  obtain ⟨error, h⟩ := malformed.1.mpr breaks
  have effect := malformed_iff_breaks.2 {} _ line error (Prod.ext h rfl)
  have other := malformed_iff_breaks.1 "\x7b\"reason\":\"x\",\"message\":[]\x7d"
    [("reason", .string "x"), ("message", .array [])] (text (by decide +kernel))
    (fun h => absurd h.1 (by decide)) {}
  exact ⟨⟨error, h, effect.2.1⟩, other.2.2 "x" rfl (by decide)⟩

end BuildRunner
