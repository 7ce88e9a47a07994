import BuildRunner.Event.Encode
import BuildRunner.Proofs.Json.Record

set_option autoImplicit false

/-! # Events as records

Spans, expansions and child messages are decoded by functions that call each other, since spans
contain spans and child messages contain child messages. Each of these functions reads a record:
`Span.ofJson_eq`, `Expansion.ofJson?_eq` and `Child.ofJson_eq` say which. What is known of records
holds of them as well.
-/

namespace BuildRunner

open Json (Decoded Record fill asText asList asOption vacant_bind bind_of_vacant asOption_bind
  map_some_bind)

/-! ## Spans -/

namespace Span

def record : Record Field Draft Span where
  title := "struct Span"
  fields := Field.all
  key := Field.key
  empty := {}
  put := fun d f v =>
    match f with
    | .expansion =>
      return { d with expansion := ← fill Field.expansion.key d.expansion Expansion.ofJson? v }
    | f => d.put f v
  finish := fun _ d => .ok d.finish

theorem ofMembers_eq (d : Draft) (ms : List (String × Json)) :
    ofMembers d ms = record.ofMembers d ms := by
  refine Record.ofMembers_unique (fun d => rfl) (fun d k v ms h => ?_) (fun d k v ms f h => ?_) d ms
  · have unknown : fieldOfName? Field.all Field.key k = none := h
    rw [ofMembers, unknown]
  · have known : fieldOfName? Field.all Field.key k = some f := h
    rw [ofMembers, known]
    cases f with
    | expansion =>
        simp only [record, bind_assoc, pure_bind]
        exact vacant_bind _ d.expansion Expansion.ofJson? v fun e =>
          ofMembers { d with expansion := e } ms
    | _ => rfl

/-- A value put into another slot leaves the one of the expansion as it is. -/
theorem put_expansion {d d' : Draft} {f : Field} {v : Json} (hf : f ≠ .expansion)
    (h : record.put d f v = .ok d') : d'.expansion = d.expansion := by
  cases f with
  | expansion => exact absurd rfl hf
  | _ =>
      obtain ⟨-, a, -, rfl⟩ := Json.put_eq_ok.mp h
      rfl

theorem ofItems_eq (js : List Json) :
    ofItems {} Field.all js = record.ofItems record.empty record.fields js := by
  refine Record.ofItems_unique (fun d f => f = .expansion → d.expansion = none)
    (fun d fs => by rw [ofItems]) (fun d j js => by rw [ofItems]; rfl) ?_ ?_ _ js (by decide)
    (fun _ _ _ => rfl)
  · intro d f fs j js vacant
    cases f with
    | expansion =>
        simp only [record, bind_assoc, pure_bind]
        exact bind_of_vacant (vacant rfl) Expansion.ofJson? j fun e =>
          ofItems { d with expansion := e } fs js
    | _ => rfl
  · rintro d f f' j d' put other vacant rfl
    rw [put_expansion other.symm put]
    exact vacant rfl

theorem ofJson_eq (j : Json) : ofJson j = record.ofJson j := by
  cases j with
  | object ms =>
      rw [ofJson, ofMembers_eq]
      rfl
  | array js =>
      rw [ofJson, ofItems_eq]
      rfl
  | _ => rfl

end Span

/-! ## Expansions -/

namespace Expansion

def Draft.put (d : Draft) (f : Field) (v : Json) : Decoded Draft :=
  match f with
  | .span => return { d with span := ← fill f.key d.span Span.ofJson v }
  | .macroName => return { d with macroName := ← fill f.key d.macroName asText v }
  | .definition => return { d with definition := ← fill f.key d.definition (asOption Span.ofJson) v }

def record : Record Field Draft (Expansion Span) where
  title := title
  fields := Field.all
  key := Field.key
  empty := {}
  put := Draft.put
  finish := Draft.finish

theorem ofMembers_eq (d : Draft) (ms : List (String × Json)) :
    ofMembers d ms = record.ofMembers d ms := by
  refine Record.ofMembers_unique (fun d => rfl) (fun d k v ms h => ?_) (fun d k v ms f h => ?_) d ms
  · have unknown : fieldOfName? Field.all Field.key k = none := h
    rw [ofMembers, unknown]
  · have known : fieldOfName? Field.all Field.key k = some f := h
    rw [ofMembers, known]
    cases f with
    | span =>
        simp only [record, Draft.put, bind_assoc, pure_bind]
        exact vacant_bind _ d.span Span.ofJson v fun s => ofMembers { d with span := s } ms
    | macroName => simp only [record, Draft.put, bind_assoc, pure_bind]
    | definition =>
        simp only [record, Draft.put, bind_assoc, pure_bind]
        rw [← vacant_bind]
        exact congrArg (Json.vacant _ d.definition >>= ·) (funext fun _ =>
          asOption_bind Span.ofJson v fun s => ofMembers { d with definition := some s } ms)

/-- A value put into one slot leaves the others as they are. -/
theorem put_others {d d' : Draft} {f : Field} {v : Json} (h : record.put d f v = .ok d') :
    (f ≠ .span → d'.span = d.span) ∧ (f ≠ .definition → d'.definition = d.definition) := by
  cases f with
  | span | definition | macroName =>
      obtain ⟨-, a, -, rfl⟩ := Json.put_eq_ok.mp h
      simp

theorem ofItems_eq (js : List Json) :
    ofItems {} Field.all js = record.ofItems record.empty record.fields js := by
  refine Record.ofItems_unique
    (fun d f => (f = .span → d.span = none) ∧ (f = .definition → d.definition = none))
    (fun d fs => by rw [ofItems]) (fun d j js => by rw [ofItems]; rfl) ?_ ?_ _ js (by decide)
    (fun _ _ => ⟨fun _ => rfl, fun _ => rfl⟩)
  · rintro d f fs j js ⟨span, definition⟩
    cases f with
    | span =>
        simp only [record, Draft.put, bind_assoc, pure_bind]
        exact bind_of_vacant (span rfl) Span.ofJson j fun s => ofItems { d with span := s } fs js
    | macroName => simp only [record, Draft.put, bind_assoc, pure_bind]; rfl
    | definition =>
        simp only [record, Draft.put, bind_assoc, pure_bind]
        rw [← bind_of_vacant (definition rfl)]
        exact asOption_bind Span.ofJson j fun s => ofItems { d with definition := some s } fs js
  · rintro d f f' j d' put other ⟨span, definition⟩
    obtain ⟨spanStays, definitionStays⟩ := put_others put
    exact ⟨fun hf => (spanStays fun h => other (hf.trans h.symm)).trans (span hf),
      fun hf => (definitionStays fun h => other (hf.trans h.symm)).trans (definition hf)⟩

theorem ofJson?_eq (j : Json) : ofJson? j = asOption record.ofJson j := by
  cases j with
  | object ms =>
      rw [ofJson?, ofMembers_eq]
      exact (map_some_bind (record.ofMembers record.empty ms) (record.finish .object)).symm
  | array js =>
      rw [ofJson?, ofItems_eq]
      exact (map_some_bind (record.ofItems record.empty record.fields js) (record.finish _)).symm
  | _ => rfl

theorem ofJson_eq (j : Json) : ofJson j = record.ofJson j := by
  rw [ofJson, ofJson?_eq]
  cases j with
  | object ms =>
      show (record.ofJson (.object ms)).map some >>= _ = record.ofJson (.object ms)
      cases record.ofJson (.object ms) <;> rfl
  | array js =>
      show (record.ofJson (.array js)).map some >>= _ = record.ofJson (.array js)
      cases record.ofJson (.array js) <;> rfl
  | _ => rfl

end Expansion

/-! ## Child messages -/

namespace Child

theorem listOfJson_eq (j : Json) : listOfJson j = asList ofJson j := by
  cases j with
  | array js =>
      show listOfItems js = js.mapM ofJson
      induction js with
      | nil => rfl
      | cons j js ih =>
          rw [listOfItems, ih, List.mapM_cons]
  | _ => rfl

def Draft.put (d : Draft) (f : Field) (v : Json) : Decoded Draft :=
  match f with
  | .level => return { d with level := ← fill f.key d.level asText v }
  | .message => return { d with message := ← fill f.key d.message asText v }
  | .children => return { d with children := ← fill f.key d.children (asList ofJson) v }

def record : Record Field Draft Child where
  title := "struct ChildMessage"
  fields := Field.all
  key := Field.key
  empty := {}
  put := Draft.put
  finish := fun _ d => .ok d.finish

theorem ofMembers_eq (d : Draft) (ms : List (String × Json)) :
    ofMembers d ms = record.ofMembers d ms := by
  refine Record.ofMembers_unique (fun d => rfl) (fun d k v ms h => ?_) (fun d k v ms f h => ?_) d ms
  · have unknown : fieldOfName? Field.all Field.key k = none := h
    rw [ofMembers, unknown]
  · have known : fieldOfName? Field.all Field.key k = some f := h
    rw [ofMembers, known]
    cases f with
    | children =>
        simp only [record, Draft.put, bind_assoc, pure_bind, listOfJson_eq]
        exact vacant_bind _ d.children (asList ofJson) v fun cs =>
          ofMembers { d with children := cs } ms
    | _ => simp only [record, Draft.put, bind_assoc, pure_bind]

/-- A value put into another slot leaves the one of the children as it is. -/
theorem put_children {d d' : Draft} {f : Field} {v : Json} (hf : f ≠ .children)
    (h : record.put d f v = .ok d') : d'.children = d.children := by
  cases f with
  | children => exact absurd rfl hf
  | _ =>
      obtain ⟨-, a, -, rfl⟩ := Json.put_eq_ok.mp h
      rfl

theorem ofItems_eq (js : List Json) :
    ofItems {} Field.all js = record.ofItems record.empty record.fields js := by
  refine Record.ofItems_unique (fun d f => f = .children → d.children = none)
    (fun d fs => by rw [ofItems]) (fun d j js => by rw [ofItems]; rfl) ?_ ?_ _ js (by decide)
    (fun _ _ _ => rfl)
  · intro d f fs j js vacant
    cases f with
    | children =>
        simp only [record, Draft.put, bind_assoc, pure_bind]
        rw [ofItems, listOfJson_eq]
        exact bind_of_vacant (vacant rfl) (asList ofJson) j fun cs =>
          ofItems { d with children := cs } fs js
    | _ => simp only [record, Draft.put, bind_assoc, pure_bind]; rfl
  · rintro d f f' j d' put other vacant rfl
    rw [put_children other.symm put]
    exact vacant rfl

theorem ofJson_eq (j : Json) : ofJson j = record.ofJson j := by
  cases j with
  | object ms =>
      rw [ofJson, ofMembers_eq]
      rfl
  | array js =>
      rw [ofJson, ofItems_eq]
      rfl
  | _ => rfl

end Child

end BuildRunner
