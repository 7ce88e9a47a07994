import BuildRunner.Json.Decode
import Mathlib.Algebra.Group.Nat.Defs

set_option autoImplicit false

/-! # Records in trees

What decoders of records have in common. A record is read by putting values into slots: what every
put keeps holds of the finished record (`Record.ofJson_keeps`), and the object of all fields in
their order is read by as many puts (`Record.ofJson_fields`).

`RoundTrip` says that a decoder takes back what an encoder has written, and that nothing else comes
out of it than what an encoder could have been given.
-/

namespace BuildRunner.Json

/-! ## Trees -/

def children : Json → List Json
  | .array js => js
  | .object ms => ms.map Prod.snd
  | _ => []

mutual

/-- **Induction on trees**: what holds of a tree when it holds of all below it holds of all. -/
theorem tree_induction {P : Json → Prop} (step : ∀ j : Json, (∀ k ∈ j.children, P k) → P j) :
    ∀ j : Json, P j
  | .null => step .null nofun
  | .bool b => step (.bool b) nofun
  | .number n => step (.number n) nofun
  | .string s => step (.string s) nofun
  | .array js => step (.array js) (items_induction step js)
  | .object ms => step (.object ms) (members_induction step ms)

theorem items_induction {P : Json → Prop} (step : ∀ j : Json, (∀ k ∈ j.children, P k) → P j) :
    ∀ (js : List Json), ∀ k ∈ js, P k
  | [] => nofun
  | j :: js => List.forall_mem_cons.mpr ⟨tree_induction step j, items_induction step js⟩

theorem members_induction {P : Json → Prop} (step : ∀ j : Json, (∀ k ∈ j.children, P k) → P j) :
    ∀ (ms : List (String × Json)), ∀ k ∈ ms.map Prod.snd, P k
  | [] => nofun
  | (_, j) :: ms => List.forall_mem_cons.mpr ⟨tree_induction step j, members_induction step ms⟩

end

/-! ## Equality -/

mutual

def same : Json → Json → Bool
  | .null, .null => true
  | .bool a, .bool b => a = b
  | .number m, .number n => m = n
  | .string s, .string t => s = t
  | .array js, .array ks => sameItems js ks
  | .object ms, .object ns => sameMembers ms ns
  | _, _ => false
termination_by structural j => j

def sameItems : List Json → List Json → Bool
  | [], [] => true
  | j :: js, k :: ks => same j k && sameItems js ks
  | _, _ => false
termination_by structural js => js

def sameMembers : List (String × Json) → List (String × Json) → Bool
  | [], [] => true
  | (s, j) :: ms, (t, k) :: ns => decide (s = t) && same j k && sameMembers ms ns
  | _, _ => false
termination_by structural ms => ms

end

mutual

theorem same_iff : ∀ j k : Json, same j k = true ↔ j = k
  | .null, k => by cases k <;> simp [same]
  | .bool a, k => by cases k <;> simp [same]
  | .number m, k => by cases k <;> simp [same]
  | .string s, k => by cases k <;> simp [same]
  | .array js, k => by cases k <;> simp [same, sameItems_iff js]
  | .object ms, k => by cases k <;> simp [same, sameMembers_iff ms]

theorem sameItems_iff : ∀ js ks : List Json, sameItems js ks = true ↔ js = ks
  | [], ks => by cases ks <;> simp [sameItems]
  | j :: js, ks => by cases ks <;> simp [sameItems, same_iff j, sameItems_iff js]

theorem sameMembers_iff : ∀ ms ns : List (String × Json), sameMembers ms ns = true ↔ ms = ns
  | [], ns => by cases ns <;> simp [sameMembers]
  | (s, j) :: ms, ns => by
      cases ns <;> simp [sameMembers, same_iff j, sameMembers_iff ms, Prod.ext_iff]

end

instance : DecidableEq Json := fun j k => decidable_of_iff _ (same_iff j k)

/-! ## Results -/

variable {α β : Type}

theorem ok_bind (a : α) (f : α → Decoded β) : (Except.ok a : Decoded α) >>= f = f a := rfl

theorem bind_eq_ok {x : Decoded α} {f : α → Decoded β} {b : β} :
    (x >>= f) = .ok b ↔ ∃ a, x = .ok a ∧ f a = .ok b := by
  cases x with
  | error e => exact ⟨nofun, nofun⟩
  | ok a => exact ⟨fun h => ⟨a, rfl, h⟩, fun ⟨_, ha, h⟩ => Except.ok.inj ha ▸ h⟩

theorem map_eq_ok {x : Decoded α} {f : α → β} {b : β} :
    x.map f = .ok b ↔ ∃ a, x = .ok a ∧ f a = b := by
  cases x <;> simp [Except.map]

theorem toOption_eq_some {ε : Type} {x : Except ε α} {a : α} : x.toOption = some a ↔ x = .ok a := by
  cases x <;> simp [Except.toOption]

theorem map_some_bind (x : Decoded α) (f : α → Decoded β) :
    (x >>= f).map some = x >>= fun a => f a >>= fun b => pure (some b) := by
  cases x with
  | error e => rfl
  | ok a =>
      show (f a).map some = f a >>= fun b => pure (some b)
      cases f a <;> rfl

theorem pure_eq_ok {a b : α} : (pure a : Decoded α) = .ok b ↔ a = b :=
  ⟨Except.ok.inj, congrArg Except.ok⟩

theorem fill_eq_ok {name : String} {slot s : Option α} {value : Json → Decoded α} {v : Json} :
    fill name slot value v = .ok s ↔ slot = none ∧ ∃ a, value v = .ok a ∧ s = some a := by
  cases slot with
  | none =>
      rw [fill, if_neg (by simp), map_eq_ok]
      simp [eq_comm]
  | some a => simp [fill]

theorem fill_vacant {name : String} {value : Json → Decoded α} {v : Json} {a : α}
    (h : value v = .ok a) : fill name none value v = .ok (some a) :=
  fill_eq_ok.mpr ⟨rfl, a, h, rfl⟩

/-- What has been put into a slot was read, and the slot was vacant. -/
theorem put_eq_ok {name : String} {slot : Option α} {value : Json → Decoded α} {v : Json}
    {set : Option α → β} {d : β} :
    (fill name slot value v >>= fun s => pure (set s)) = (.ok d : Decoded β) ↔
      slot = none ∧ ∃ a, value v = .ok a ∧ set (some a) = d := by
  rw [bind_eq_ok]
  constructor
  · rintro ⟨s, filled, h⟩
    obtain ⟨free, a, ha, rfl⟩ := fill_eq_ok.mp filled
    exact ⟨free, a, ha, pure_eq_ok.mp h⟩
  · rintro ⟨free, a, ha, rfl⟩
    exact ⟨some a, fill_eq_ok.mpr ⟨free, a, ha, rfl⟩, rfl⟩

theorem required_eq_ok {form : Form} {name : String} {index : Nat} {slot : Option α} {a : α} :
    required form name index slot = .ok a ↔ slot = some a := by
  cases slot with
  | none => cases form <;> simp [required]
  | some a' => simp [required]

/-- To look whether a slot is vacant and then to read is to fill it. -/
theorem vacant_bind (name : String) (slot : Option α) (value : Json → Decoded α) (v : Json)
    (next : Option α → Decoded β) :
    (vacant name slot >>= fun _ => value v >>= fun a => next (some a)) =
      fill name slot value v >>= next := by
  cases slot with
  | some a => rfl
  | none =>
      rw [fill, if_neg (by simp)]
      cases value v <;> rfl

/-- To read into a slot that is vacant is to fill it. -/
theorem bind_of_vacant {name : String} {slot : Option α} (free : slot = none)
    (value : Json → Decoded α) (v : Json) (next : Option α → Decoded β) :
    (value v >>= fun a => next (some a)) = fill name slot value v >>= next := by
  rw [← vacant_bind, free]
  rfl

/-- To tell null from a value before what comes next is to do so first. -/
theorem asOption_bind (value : Json → Decoded α) (j : Json) (next : Option α → Decoded β) :
    (if j.isNull then Except.ok none >>= next else (value j).map some >>= next) =
      asOption value j >>= next := by
  unfold asOption
  split <;> rfl

/-! ## Values -/

theorem asText_string (s : String) : asText (.string s) = .ok s := rfl

theorem asText_eq_ok {j : Json} {s : String} : asText j = .ok s ↔ j = .string s := by
  cases j <;> simp [asText, wanted]

theorem asBool_bool (b : Bool) : asBool (.bool b) = .ok b := rfl

/-- A number of 32 bits is taken back. -/
theorem asWord_word (n : UInt32) : asWord (word n) = .ok n := by
  have small : n.toNat < twoTo 32 := n.toNat_lt
  simp [asWord, word, small]

/-- The numbers of 32 bits are the integers below 2^32. -/
theorem exists_asWord_ok {j : Json} :
    (∃ a, asWord j = .ok a) ↔ ∃ n, n < 2 ^ 32 ∧ j = .number (.natural n) := by
  constructor
  · rintro ⟨a, h⟩
    unfold asWord at h
    split at h
    · rename_i n
      split at h
      · exact ⟨n, ‹_›, rfl⟩
      · cases h
    · cases h
    · cases h
  · rintro ⟨n, small, rfl⟩
    exact ⟨_, if_pos small⟩

/-- A list is taken back if its items are. -/
theorem asList_map {enc : α → Json} {dec : Json → Decoded α} {as : List α}
    (h : ∀ a ∈ as, dec (enc a) = .ok a) : asList dec (.array (as.map enc)) = .ok as := by
  induction as with
  | nil => rfl
  | cons a as ih =>
      obtain ⟨first, rest⟩ := List.forall_mem_cons.mp h
      have more : (as.map enc).mapM dec = .ok as := ih rest
      simp only [asList, List.map_cons, List.mapM_cons, first, more]
      rfl

theorem mapM_eq_ok {dec : Json → Decoded α} {js : List Json} {as : List α}
    (h : js.mapM dec = .ok as) : ∀ a ∈ as, ∃ j ∈ js, dec j = .ok a := by
  induction js generalizing as with
  | nil =>
      obtain rfl : [] = as := pure_eq_ok.mp h
      nofun
  | cons j js ih =>
      rw [List.mapM_cons] at h
      obtain ⟨a, ha, h⟩ := bind_eq_ok.mp h
      obtain ⟨as', has, h⟩ := bind_eq_ok.mp h
      obtain rfl := pure_eq_ok.mp h
      refine List.forall_mem_cons.mpr ⟨⟨j, List.mem_cons_self, ha⟩, fun a' ha' => ?_⟩
      obtain ⟨k, hk, hka⟩ := ih has a' ha'
      exact ⟨k, List.mem_cons_of_mem j hk, hka⟩

/-- A list is read exactly if every item is. -/
theorem exists_mapM_ok {dec : Json → Decoded α} {js : List Json} :
    (∃ as, js.mapM dec = .ok as) ↔ ∀ j ∈ js, ∃ a, dec j = .ok a := by
  induction js with
  | nil => exact ⟨fun _ => nofun, fun _ => ⟨[], rfl⟩⟩
  | cons j js ih =>
      rw [List.forall_mem_cons, ← ih, List.mapM_cons]
      constructor
      · rintro ⟨as, h⟩
        obtain ⟨a, ha, h⟩ := bind_eq_ok.mp h
        obtain ⟨as', has, -⟩ := bind_eq_ok.mp h
        exact ⟨⟨a, ha⟩, as', has⟩
      · rintro ⟨⟨a, ha⟩, as, has⟩
        exact ⟨a :: as, bind_eq_ok.mpr ⟨a, ha, bind_eq_ok.mpr ⟨as, has, rfl⟩⟩⟩

/-- Every item of a list comes from a tree below. -/
theorem asList_eq_ok {dec : Json → Decoded α} {j : Json} {as : List α} (h : asList dec j = .ok as) :
    ∀ a ∈ as, ∃ k ∈ j.children, dec k = .ok a := by
  cases j with
  | array js => exact mapM_eq_ok h
  | _ => cases h

theorem asOption_eq_ok {dec : Json → Decoded α} {j : Json} {a : α}
    (h : asOption dec j = .ok (some a)) : dec j = .ok a := by
  unfold asOption at h
  split at h
  · cases h
  · obtain ⟨a', ha, same⟩ := map_eq_ok.mp h
    exact Option.some.inj same ▸ ha

/-- A tree is read as a value or null exactly if it is null or read as a value. -/
theorem exists_asOption_ok {dec : Json → Decoded α} {j : Json} :
    (∃ a, asOption dec j = .ok a) ↔ j = .null ∨ ∃ a, dec j = .ok a := by
  unfold asOption
  cases j with
  | null => exact ⟨fun _ => .inl rfl, fun _ => ⟨none, rfl⟩⟩
  | _ =>
      simp only [isNull, map_eq_ok, reduceCtorEq, false_or, Bool.false_eq_true, if_false]
      rw [exists_comm]
      simp

/-- A value that may be null is taken back if it is not written as null itself. -/
theorem asOption_ok {dec : Json → Decoded α} {j : Json} {a : α} (h : dec j = .ok a)
    (kept : j.isNull = false) : asOption dec j = .ok (some a) := by
  simp [asOption, kept, h, Except.map]

/-! ## Records -/

namespace Record

variable {φ δ : Type} {r : Record φ δ α} {d d' : δ} {P : δ → Prop}

/-- What every put keeps holds behind the members of an object. -/
theorem ofMembers_keeps {ms : List (String × Json)}
    (put : ∀ k ∈ ms.map Prod.snd, ∀ d f d', r.put d f k = .ok d' → P d → P d')
    (h : r.ofMembers d ms = .ok d') (hd : P d) : P d' := by
  induction ms generalizing d with
  | nil => exact Except.ok.inj h ▸ hd
  | cons m ms ih =>
      obtain ⟨k, v⟩ := m
      obtain ⟨first, rest⟩ := List.forall_mem_cons.mp put
      simp only [ofMembers] at h
      split at h
      · exact ih rest h hd
      · obtain ⟨d₁, h₁, h⟩ := bind_eq_ok.mp h
        exact ih rest h (first d _ d₁ h₁ hd)

@[simp] theorem ofItems_nil (r : Record φ δ α) (d : δ) (fs : List φ) : r.ofItems d fs [] = .ok d := by
  rw [ofItems]

/-- What every put keeps holds behind the items of a list. -/
theorem ofItems_keeps {fs : List φ} {js : List Json}
    (put : ∀ k ∈ js, ∀ d f d', r.put d f k = .ok d' → P d → P d')
    (h : r.ofItems d fs js = .ok d') (hd : P d) : P d' := by
  induction js generalizing d fs with
  | nil =>
      rw [ofItems_nil] at h
      exact Except.ok.inj h ▸ hd
  | cons j js ih =>
      obtain ⟨first, rest⟩ := List.forall_mem_cons.mp put
      cases fs with
      | nil => cases h
      | cons f fs =>
          obtain ⟨d₁, h₁, h⟩ := bind_eq_ok.mp h
          exact ih rest h (first d f d₁ h₁ hd)

/-- **What every put keeps holds of the finished record**, in whichever form it was written. -/
theorem ofJson_keeps {Q : α → Prop} {j : Json} {a : α} (empty : P r.empty)
    (put : ∀ k ∈ j.children, ∀ d f d', r.put d f k = .ok d' → P d → P d')
    (finish : ∀ form d a, r.finish form d = .ok a → P d → Q a) (h : r.ofJson j = .ok a) : Q a := by
  cases j with
  | object ms =>
      obtain ⟨d, hd, h⟩ := bind_eq_ok.mp h
      exact finish _ d a h (ofMembers_keeps put hd empty)
  | array js =>
      obtain ⟨d, hd, h⟩ := bind_eq_ok.mp h
      exact finish _ d a h (ofItems_keeps put hd empty)
  | _ => cases h

/-- Members that stand for fields are put into their slots one after another. -/
theorem ofMembers_fields {fs : List φ} (slot : φ → Json)
    (keyed : ∀ f ∈ fs, r.field? (r.key f) = some f) :
    r.ofMembers d (fs.map fun f => (r.key f, slot f)) =
      fs.foldlM (fun d f => r.put d f (slot f)) d := by
  induction fs generalizing d with
  | nil => rfl
  | cons f fs ih =>
      obtain ⟨first, rest⟩ := List.forall_mem_cons.mp keyed
      simp only [List.map_cons, ofMembers, first, List.foldlM_cons]
      exact congrArg (r.put d f (slot f) >>= ·) (funext fun d => ih rest)

/-- **The object of all fields in their order** is read by putting one after another. -/
theorem ofJson_fields (slot : φ → Json) {a : α}
    (keyed : ∀ f ∈ r.fields, r.field? (r.key f) = some f)
    (read : r.fields.foldlM (fun d f => r.put d f (slot f)) r.empty = .ok d)
    (finish : r.finish .object d = .ok a) :
    r.ofJson (.object (r.fields.map fun f => (r.key f, slot f))) = .ok a := by
  simp only [ofJson, ofMembers_fields slot keyed, read]
  exact finish

/-- A function that goes through members as a record does reads them as the record does. -/
theorem ofMembers_unique {g : δ → List (String × Json) → Decoded δ} (nil : ∀ d, g d [] = .ok d)
    (unknown : ∀ d k v ms, r.field? k = none → g d ((k, v) :: ms) = g d ms)
    (known : ∀ d k v ms f, r.field? k = some f →
      g d ((k, v) :: ms) = r.put d f v >>= fun d => g d ms)
    (d : δ) (ms : List (String × Json)) : g d ms = r.ofMembers d ms := by
  induction ms generalizing d with
  | nil => exact nil d
  | cons m ms ih =>
      obtain ⟨k, v⟩ := m
      simp only [ofMembers]
      split
      · rw [unknown d k v ms ‹_›, ih]
      · rw [known d k v ms _ ‹_›]
        exact congrArg (r.put d _ v >>= ·) (funext fun d => ih d)

/-- A function that goes through items as a record does reads them as the record does. It need not
look whether a slot is `vacant`, as long as no field comes twice. -/
theorem ofItems_unique {g : δ → List φ → List Json → Decoded δ} (vacant : δ → φ → Prop)
    (nil : ∀ d fs, g d fs [] = .ok d)
    (tooMany : ∀ d j js, g d [] (j :: js) = surplus r.fields.length (j :: js))
    (step : ∀ d f fs j js, vacant d f →
      g d (f :: fs) (j :: js) = r.put d f j >>= fun d => g d fs js)
    (keeps : ∀ d f f' j d', r.put d f j = .ok d' → f' ≠ f → vacant d f' → vacant d' f')
    (d : δ) {fs : List φ} (js : List Json) (distinct : fs.Nodup) (free : ∀ f ∈ fs, vacant d f) :
    g d fs js = r.ofItems d fs js := by
  induction js generalizing d fs with
  | nil => rw [nil, ofItems_nil]
  | cons j js ih =>
      cases fs with
      | nil => exact tooMany d j js
      | cons f fs =>
          obtain ⟨other, distinct⟩ := List.nodup_cons.mp distinct
          obtain ⟨first, rest⟩ := List.forall_mem_cons.mp free
          rw [step d f fs j js first, ofItems]
          cases hp : r.put d f j with
          | error e => rfl
          | ok d' =>
              -- What is left does not contain the field just filled, so its slots are still vacant.
              refine ih d' distinct fun f' hf' => keeps d f f' j d' hp ?_ (rest f' hf')
              rintro rfl
              exact other hf'

end Record

/-! ## Round trips -/

/-- **A round trip** of an encoder and a decoder, for the values that are `good`: what is written for a
good value is read as that value; only good values are read; and what was read once, however it was
written, is read again from what is written for it. -/
structure RoundTrip (enc : α → Json) (dec : Json → Decoded α) (good : α → Prop) : Prop where
  back : ∀ a, good a → dec (enc a) = .ok a
  good : ∀ j a, dec j = .ok a → good a
  again : ∀ j a, dec j = .ok a → dec (enc a) = dec j

theorem roundTrip_of {enc : α → Json} {dec : Json → Decoded α} {good : α → Prop}
    (back : ∀ a, good a → dec (enc a) = .ok a) (sound : ∀ j a, dec j = .ok a → good a) :
    RoundTrip enc dec good :=
  ⟨back, sound, fun j a h => (back a (sound j a h)).trans h.symm⟩

end BuildRunner.Json
