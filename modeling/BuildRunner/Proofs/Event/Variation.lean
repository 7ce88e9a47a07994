import BuildRunner.Proofs.Diagnostic.Numbering
import BuildRunner.Proofs.Event.Schema
import Mathlib.Logic.Relation

set_option autoImplicit false

/-! # Variations of an event

Versions of the build tool and of the compiler differ in the order of keys, in the keys they know,
and in whether they write down what is the default anyway. `Content.Varies` is one such change,
somewhere in a tree; `ToolEvent.Varies` is one in an event. Whatever an event stands for, it stands
for the same after any number of them.
-/

namespace BuildRunner

open Json (Decoded Given asOption asList bind_eq_ok map_eq_ok)
open CompilerMessage (valuesOf valuesOf_perm valuesOf_append valuesOf_cons_self valuesOf_cons_of_ne
  valuesOf_filter_self valuesOf_filter_of_ne)

/-! ## Changes of a tree -/

/-- The trees that stand for the default of a field: the empty text, zero, false, null and the empty
list. An empty label is no label. -/
inductive Content.Blank : Content → Json → Prop
  | text : Blank .text (.string "")
  | word : Blank .word (.number (.natural 0))
  | flag : Blank .flag (.bool false)
  | noLabel : Blank .label .null
  | label : Blank .label (.string "")
  | null (c : Content) : Blank (.nullable c) .null
  | list (c : Content) : Blank (.list c) (.array [])

/-- **A harmless change** of a tree that is read as a content. In an object the members are
permuted; or there is one more that is not known, or another value under a key that is not known; or
the default of an optional field is left out; or what a field contains, or an item of a list, is
changed. -/
inductive Content.Varies : Content → Json → Json → Prop
  | permute (p : Part) {ms ms' : List (String × Json)} (h : ms.Perm ms') :
    Varies (.record p) (.object ms) (.object ms')
  | add (p : Part) (front back : List (String × Json)) {k : String} (v : Json)
    (unknown : ∀ f, p.key f ≠ k) :
    Varies (.record p) (.object (front ++ back)) (.object (front ++ (k, v) :: back))
  | replace (p : Part) (front back : List (String × Json)) {k : String} (v v' : Json)
    (unknown : ∀ f, p.key f ≠ k) :
    Varies (.record p) (.object (front ++ (k, v) :: back)) (.object (front ++ (k, v') :: back))
  | leaveOut (p : Part) (f : p.Field) (front back : List (String × Json)) {v : Json}
    (optional : (p.default? f).isSome) (blank : (p.content f).Blank v) :
    Varies (.record p) (.object (front ++ (p.key f, v) :: back)) (.object (front ++ back))
  | field (p : Part) (f : p.Field) (front back : List (String × Json)) {v v' : Json}
    (h : Varies (p.content f) v v') :
    Varies (.record p) (.object (front ++ (p.key f, v) :: back))
      (.object (front ++ (p.key f, v') :: back))
  | nullable {c : Content} {j j' : Json} (h : Varies c j j') : Varies (.nullable c) j j'
  | item {c : Content} (front back : List Json) {j j' : Json} (h : Varies c j j') :
    Varies (.list c) (.array (front ++ j :: back)) (.array (front ++ j' :: back))

namespace Content

/-- What is blank stands for the default. -/
theorem Blank.decode {c : Content} {v : Json} (h : c.Blank v) {d : c.Value}
    (hd : c.default? = some d) : c.decode v = .ok d := by
  cases h <;> exact Option.some.inj hd ▸ rfl

/-- No change has to do with null. -/
theorem Varies.not_null {c : Content} {j j' : Json} (h : c.Varies j j') :
    j.isNull = false ∧ j'.isNull = false := by
  induction h with
  | nullable _ ih => exact ih
  | _ => exact ⟨rfl, rfl⟩

end Content

/-- The default of a field is that of its content. -/
theorem Part.default?_eq {p : Part} {f : p.Field} {d : (p.content f).Value}
    (h : p.default? f = some d) : (p.content f).default? = some d := by
  cases p with
  | code => cases h
  | _ => exact h

/-- An object in which every field is given what it is given in another one stands for the same. -/
theorem Part.decode_of_given {p : Part} {ms ms' : List (String × Json)} {a : p.Value}
    (h : ∀ f b, Given (p.content f).decode (p.default? f) (valuesOf (p.key f) ms) b →
      Given (p.content f).decode (p.default? f) (valuesOf (p.key f) ms') b)
    (ha : p.decode (.object ms) = .ok a) : p.decode (.object ms') = .ok a := by
  obtain ⟨b, given, rfl⟩ := p.decode_object.mp ha
  exact p.decode_object.mpr ⟨b, fun f => h f (b f) (given f), rfl⟩

/-- **A harmless change is harmless**: the tree stands for the same value as before. -/
theorem Content.Varies.decode {c : Content} {j j' : Json} (h : c.Varies j j') {a : c.Value}
    (ha : c.decode j = .ok a) : c.decode j' = .ok a := by
  -- By induction on where the change is: of an object, it is enough to look at the values of each
  -- known key.
  induction h with
  | permute p h => exact p.decode_of_given (fun f _ given => given.perm (valuesOf_perm _ h)) ha
  | add p front back v unknown =>
      refine p.decode_of_given (fun f b given => ?_) ha
      rwa [valuesOf_append, valuesOf_cons_of_ne (unknown f).symm, ← valuesOf_append]
  | replace p front back v v' unknown =>
      refine p.decode_of_given (fun f b given => ?_) ha
      rw [valuesOf_append, valuesOf_cons_of_ne (unknown f).symm] at given ⊢
      exact given
  | leaveOut p f front back optional blank =>
      refine p.decode_of_given (fun g b given => ?_) ha
      by_cases hg : g = f
      · -- The only value of the key stood for the default, which the field has without it.
        subst hg
        rw [valuesOf_append, valuesOf_cons_self] at given
        obtain ⟨before, behind, read⟩ := given.only
        obtain ⟨d, hd⟩ := Option.isSome_iff_exists.mp optional
        have default := blank.decode (p.default?_eq hd)
        rw [valuesOf_append, before, behind]
        exact Except.ok.inj (default.symm.trans read) ▸ hd
      · have other : p.key f ≠ p.key g := fun h => hg (p.key_inj h.symm)
        rwa [valuesOf_append, valuesOf_cons_of_ne other, ← valuesOf_append] at given
  | field p f front back _ ih =>
      refine p.decode_of_given (fun g b given => ?_) ha
      by_cases hg : g = f
      · subst hg
        rw [valuesOf_append, valuesOf_cons_self] at given ⊢
        obtain ⟨before, behind, read⟩ := given.only
        rw [before, behind]
        exact ih read
      · have other : p.key f ≠ p.key g := fun h => hg (p.key_inj h.symm)
        rw [valuesOf_append, valuesOf_cons_of_ne other] at given ⊢
        exact given
  | nullable h ih =>
      obtain ⟨notNull, notNull'⟩ := h.not_null
      simp only [Content.decode, asOption, notNull, notNull'] at ha ⊢
      obtain ⟨b, hb, rfl⟩ := map_eq_ok.mp ha
      exact map_eq_ok.mpr ⟨b, ih hb, rfl⟩
  | item front back _ ih =>
      simp only [Content.decode, asList, List.mapM_append, List.mapM_cons] at ha ⊢
      obtain ⟨as, has, ha⟩ := bind_eq_ok.mp ha
      obtain ⟨bs, hbs, ha⟩ := bind_eq_ok.mp ha
      obtain ⟨b, hb, hbs⟩ := bind_eq_ok.mp hbs
      exact bind_eq_ok.mpr ⟨as, has, bind_eq_ok.mpr ⟨bs, bind_eq_ok.mpr ⟨b, ih hb, hbs⟩, ha⟩⟩

/-! ## Changes of an event -/

namespace ToolEvent

/-- Whether a key is not known in an event with the members `ms`: it is not that of the reason, and
not that of the payload of a compiler message. -/
def Unknown (k : String) (ms : List (String × Json)) : Prop :=
  k ≠ reasonKey ∧ (valuesOf reasonKey ms = [.string compilerMessageReason] → k ≠ messageKey)

/-- **A harmless change of an event**: one of its own members, or one of its payload. -/
inductive Varies : Json → Json → Prop
  | permute {ms ms' : List (String × Json)} (h : ms.Perm ms') : Varies (.object ms) (.object ms')
  | add (front back : List (String × Json)) {k : String} (v : Json)
    (unknown : Unknown k (front ++ back)) :
    Varies (.object (front ++ back)) (.object (front ++ (k, v) :: back))
  | replace (front back : List (String × Json)) {k : String} (v v' : Json)
    (unknown : Unknown k (front ++ back)) :
    Varies (.object (front ++ (k, v) :: back)) (.object (front ++ (k, v') :: back))
  | payload (front back : List (String × Json)) {v v' : Json}
    (h : Content.Varies (.record .message) v v') :
    Varies (.object (front ++ (messageKey, v) :: back))
      (.object (front ++ (messageKey, v') :: back))

/-- An event that is left its reason and, as a compiler message, what its payload stands for. -/
theorem ofJson_of_values {ms ms' : List (String × Json)} {e : ToolEvent}
    (reason : ∀ v, valuesOf reasonKey ms = [v] → valuesOf reasonKey ms' = [v])
    (payload : valuesOf reasonKey ms = [.string compilerMessageReason] →
      ∀ v m, valuesOf messageKey ms = [v] → CompilerMessage.ofJson v = .ok m →
        ∃ v', valuesOf messageKey ms' = [v'] ∧ CompilerMessage.ofJson v' = .ok m)
    (h : ofJson (.object ms) = .ok e) : ofJson (.object ms') = .ok e := by
  obtain ⟨r, hr, he⟩ := ofJson_object.mp h
  refine ofJson_object.mpr ⟨r, reason _ hr, ofReason_eq_ok.mpr ?_⟩
  have before := ofReason_eq_ok.mp he
  split
  · rename_i isMessage
    subst isMessage
    obtain ⟨v, m, only, read, he⟩ := before
    obtain ⟨v', only', read'⟩ := payload hr v m only read
    exact ⟨v', m, only', read', he⟩
  · rename_i noMessage
    rwa [if_neg noMessage] at before

/-- **A harmless change of an event is harmless.** -/
theorem Varies.ofJson {j j' : Json} (h : Varies j j') {e : ToolEvent} (he : ofJson j = .ok e) :
    ofJson j' = .ok e := by
  -- An event is read from the values of two keys, and a harmless change keeps these or
  -- changes the payload harmlessly.
  cases h with
  | @permute ms ms' h =>
      have same : ∀ k v, valuesOf k ms = [v] → valuesOf k ms' = [v] := fun k v only =>
        (only ▸ valuesOf_perm k h).singleton_eq.symm
      exact ofJson_of_values (same _) (fun _ v m only read => ⟨v, same _ v only, read⟩) he
  | add front back v unknown =>
      refine ofJson_of_values (fun w only => ?_) (fun isMessage w m only read => ⟨w, ?_, read⟩) he
      · rwa [valuesOf_append, valuesOf_cons_of_ne unknown.1, ← valuesOf_append]
      · rwa [valuesOf_append, valuesOf_cons_of_ne (unknown.2 isMessage), ← valuesOf_append]
  | replace front back v v' unknown =>
      have reason : ∀ w, valuesOf reasonKey (front ++ (_, w) :: back) =
          valuesOf reasonKey (front ++ back) := fun w => by
        rw [valuesOf_append, valuesOf_cons_of_ne unknown.1, ← valuesOf_append]
      refine ofJson_of_values (fun w only => ?_) (fun isMessage w m only read => ⟨w, ?_, read⟩) he
      · rwa [reason] at only ⊢
      · have other := unknown.2 (reason v ▸ isMessage)
        rw [valuesOf_append, valuesOf_cons_of_ne other] at only ⊢
        exact only
  | payload front back h =>
      have reason : ∀ w, valuesOf reasonKey (front ++ (messageKey, w) :: back) =
          valuesOf reasonKey (front ++ back) := fun w => by
        rw [valuesOf_append, valuesOf_cons_of_ne (by decide), ← valuesOf_append]
      refine ofJson_of_values (fun w only => ?_) (fun _ w m only read => ?_) he
      · rwa [reason] at only ⊢
      · rw [valuesOf_append, valuesOf_cons_self] at only ⊢
        obtain ⟨before, behind⟩ | ⟨_, none⟩ := List.append_eq_singleton_iff.mp only
        · obtain ⟨rfl, last⟩ := List.cons.inj behind
          exact ⟨_, by rw [before, last, List.nil_append], h.decode read⟩
        · cases none

/-- Any number of harmless changes is harmless. -/
theorem ofJson_of_varies {j j' : Json} (h : Relation.ReflTransGen Varies j j') {e : ToolEvent}
    (he : ofJson j = .ok e) : ofJson j' = .ok e := by
  induction h with
  | refl => exact he
  | tail _ last ih => exact last.ofJson ih

end ToolEvent

/-! ## Required keys -/

/-- **An object stands for a value without a key** unless the key is required. -/
theorem Part.decode_without {p : Part} (f : p.Field) {ms : List (String × Json)} {a : p.Value}
    (ha : p.decode (.object ms) = .ok a) :
    (∃ a', p.decode (.object (ms.filter (·.1 ≠ p.key f))) = .ok a') ↔
      p.key f ∉ p.requiredKeys := by
  obtain ⟨b, given, -⟩ := p.decode_object.mp ha
  rw [p.mem_requiredKeys]
  constructor
  · rintro ⟨a', ha'⟩ none
    obtain ⟨b', given', -⟩ := p.decode_object.mp ha'
    have missing := given' f
    rw [valuesOf_filter_self, none] at missing
    cases missing
  · intro optional
    have stillGiven : ∀ g, ∃ b', Given (p.content g).decode (p.default? g)
        (valuesOf (p.key g) (ms.filter (·.1 ≠ p.key f))) b' := by
      intro g
      by_cases hg : g = f
      · subst hg
        obtain ⟨d, hd⟩ := Option.ne_none_iff_exists'.mp optional
        exact ⟨d, by rw [valuesOf_filter_self]; exact hd⟩
      · refine ⟨b g, ?_⟩
        rw [valuesOf_filter_of_ne fun h => hg (p.key_inj h.symm)]
        exact given g
    exact ⟨_, p.decode_object.mpr ⟨_, fun g => (stillGiven g).choose_spec, rfl⟩⟩

/-- The keys without which no object is an event, or not the same. -/
def ToolEvent.requiredKeys : ToolEvent → List String
  | .compilerMessage _ => [reasonKey, messageKey]
  | .other => [reasonKey]

theorem ToolEvent.mem_requiredKeys {ms : List (String × Json)} {e : ToolEvent}
    (he : ofJson (.object ms) = .ok e) {k : String} :
    k ∈ e.requiredKeys ↔
      k = reasonKey ∨ k = messageKey ∧ valuesOf reasonKey ms = [.string compilerMessageReason] := by
  obtain ⟨r, hr, he⟩ := ofJson_object.mp he
  have event := ofReason_eq_ok.mp he
  split at event
  · rename_i isMessage
    obtain ⟨v, m, -, -, rfl⟩ := event
    simp [requiredKeys, hr, isMessage]
  · rename_i noMessage
    subst event
    simp [requiredKeys, hr, noMessage]

/-- **An event is the same without a key** that is not required. -/
theorem ToolEvent.ofJson_without {ms : List (String × Json)} {e : ToolEvent}
    (he : ofJson (.object ms) = .ok e) {k : String} (hk : k ∉ e.requiredKeys) :
    ofJson (.object (ms.filter (·.1 ≠ k))) = .ok e := by
  rw [mem_requiredKeys he, not_or, not_and] at hk
  refine ofJson_of_values (fun v only => ?_) (fun isMessage v m only read => ⟨v, ?_, read⟩) he
  · rwa [valuesOf_filter_of_ne hk.1]
  · rwa [valuesOf_filter_of_ne fun h => hk.2 h isMessage]

/-- **No object is an event without a key** that is required. -/
theorem ToolEvent.ofJson_without_required {ms : List (String × Json)} {e : ToolEvent}
    (he : ofJson (.object ms) = .ok e) {k : String} (hk : k ∈ e.requiredKeys) (e' : ToolEvent) :
    ofJson (.object (ms.filter (·.1 ≠ k))) ≠ .ok e' := by
  intro he'
  obtain ⟨r, hr, he'⟩ := ofJson_object.mp he'
  rcases (mem_requiredKeys he).mp hk with rfl | ⟨rfl, isMessage⟩
  · rw [valuesOf_filter_self] at hr
    cases hr
  · rw [valuesOf_filter_of_ne (by decide), isMessage] at hr
    obtain rfl : compilerMessageReason = r := by simpa using hr
    obtain ⟨v, m, only, -⟩ := ofReason_eq_ok.mp he'
    rw [valuesOf_filter_self] at only
    cases only

/-! ## Events and diagnostics -/

/-- **Harmless variations are harmless.**

Let a tree stand for an event, and let it be changed any number of times, at any depth: members of
objects permuted, unknown members added, changed, defaults of optional fields left out. What comes
out stands for the same event, and a line that reads as it gives the same diagnostics and the same
numbering as a line that reads as the first tree, whatever lines came before.

The only keys that an object cannot do without are those of the reason, of the payload of a compiler
message, of the span of an expansion and of the code in its object form. -/
theorem variations_harmless :
    (∀ (j j' : Json) (e : ToolEvent), ToolEvent.ofJson j = .ok e →
      Relation.ReflTransGen ToolEvent.Varies j j' →
      ToolEvent.ofJson j' = .ok e ∧
        ∀ line line', Json.readText line = .ok j → Json.readText line' = .ok j' →
          ∀ n : Numbering, n.ofLine line = (.ok (n.ofEvent e).1, (n.ofEvent e).2) ∧
            n.ofLine line' = n.ofLine line) ∧
    (∀ (p : Part) (f : p.Field) (ms : List (String × Json)) (a : p.Value),
      p.decode (.object ms) = .ok a →
      ((∃ a', p.decode (.object (ms.filter (·.1 ≠ p.key f))) = .ok a') ↔
        p.key f ∉ p.requiredKeys)) ∧
    (∀ (ms : List (String × Json)) (e : ToolEvent), ToolEvent.ofJson (.object ms) = .ok e →
      ∀ k, (k ∉ e.requiredKeys → ToolEvent.ofJson (.object (ms.filter (·.1 ≠ k))) = .ok e) ∧
        (k ∈ e.requiredKeys →
          ∀ e', ToolEvent.ofJson (.object (ms.filter (·.1 ≠ k))) ≠ .ok e')) := by
  refine ⟨fun j j' e he changes => ?_, fun p f ms a ha => p.decode_without f ha,
    fun ms e he k => ⟨fun hk => ToolEvent.ofJson_without he hk,
      fun hk => ToolEvent.ofJson_without_required he hk⟩⟩
  have he' := ToolEvent.ofJson_of_varies changes he
  refine ⟨he', fun line line' text text' n => ⟨n.ofLine_event text he, ?_⟩⟩
  rw [n.ofLine_event text he, n.ofLine_event text' he']

/-- The members of a message with the code `code` and the span `span`. -/
def messageMembers (code span : Json) : List (String × Json) :=
  [("reason", .string "compiler-message"),
    ("message", .object [("code", code), ("spans", .array [span])])]

/-- A compiler message as one version writes it and as another one does: this one explains the code,
leaves out an empty label, says in which crate a macro is and puts the payload first. -/
theorem messageMembers_vary :
    let code : List (String × Json) := [("code", .string "E0384")]
    let expansion : List (String × Json) := [("span", .object [])]
    Relation.ReflTransGen ToolEvent.Varies
      (.object (messageMembers (.object code)
        (.object [("label", .string ""), ("expansion", .object expansion)])))
      (.object (messageMembers (.object (("explanation", .null) :: code))
        (.object [("expansion", .object (("crate", .null) :: expansion))])).reverse) := by
  intro code expansion
  have explained : Content.Varies (.nullable (.record .code)) (.object code)
      (.object (("explanation", .null) :: code)) :=
    .nullable (.add .code [] _ .null (by rintro ⟨⟩; decide))
  have unlabelled (j : Json) : Content.Varies (.record .span)
      (.object [("label", .string ""), ("expansion", j)]) (.object [("expansion", j)]) :=
    .leaveOut .span .label [] _ rfl .label
  have located : Content.Varies (.record .span) (.object [("expansion", .object expansion)])
      (.object [("expansion", .object (("crate", .null) :: expansion))]) :=
    .field .span .expansion [] [] (.nullable (.add .expansion [] _ _ (by rintro ⟨⟩ <;> decide)))
  have inCode {c c' : Json} (s : Json) (h : Content.Varies (.nullable (.record .code)) c c') :
      ToolEvent.Varies (.object (messageMembers c s)) (.object (messageMembers c' s)) :=
    .payload [_] [] (.field .message .code [] [_] h)
  have inSpan (c : Json) {s s' : Json} (h : Content.Varies (.record .span) s s') :
      ToolEvent.Varies (.object (messageMembers c s)) (.object (messageMembers c s')) :=
    .payload [_] [] (.field .message .spans [_] [] (.item [] [] h))
  refine .head (inCode _ explained) (.head (inSpan _ (unlabelled _)) (.head (inSpan _ located) ?_))
  exact .single (.permute (List.reverse_perm _).symm)

/-- The lines of the two versions give the same diagnostics. -/
theorem variations_harmless_versions :
    let line := "\x7b\"reason\":\"compiler-message\",\"message\":\x7b" ++
      "\"code\":\x7b\"code\":\"E0384\"\x7d,\"spans\":[\x7b\"label\":\"\"," ++
      "\"expansion\":\x7b\"span\":\x7b\x7d\x7d\x7d]\x7d\x7d"
    let line' := "\x7b\"message\":\x7b\"code\":\x7b\"explanation\":null,\"code\":\"E0384\"\x7d," ++
      "\"spans\":[\x7b\"expansion\":\x7b\"crate\":null,\"span\":\x7b\x7d\x7d\x7d]\x7d," ++
      "\"reason\":\"compiler-message\"\x7d"
    Numbering.ofLine {} line' = Numbering.ofLine {} line ∧
      ∀ a, Part.decode .expansion (.object ([("span", .object [])].filter (·.1 ≠ "span"))) ≠
        .ok a := by
  intro line line'
  have text : ∀ {l : String} {j : Json}, (Json.readText l).toOption = some j →
      Json.readText l = .ok j := Json.toOption_eq_some.mp
  have same := (variations_harmless.1 _ _ _ rfl messageMembers_vary).2 line line'
    (text (by decide +kernel)) (text (by decide +kernel)) {}
  refine ⟨same.2, fun a ha => ?_⟩
  exact (variations_harmless.2.1 .expansion .span _ _ rfl).mp ⟨a, ha⟩ (by decide)

end BuildRunner
