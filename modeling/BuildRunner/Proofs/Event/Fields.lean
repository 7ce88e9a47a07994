import BuildRunner.Event.Decode
import BuildRunner.Proofs.Json.Record

set_option autoImplicit false

/-! # Objects as records

Which record an object stands for depends on the values of each known key alone: there is none, and
the field has its default, or there is one, and the field is read from it. `Record.Slots` says how a
draft keeps the fields of a record, and `Slots.ofJson_object` draws the conclusion.
-/

namespace BuildRunner

open Json (Decoded Record fill required required_eq_ok bind_eq_ok fill_eq_ok fill_vacant pure_eq_ok)
open CompilerMessage (valuesOf)

/-! ## The values of a key -/

namespace CompilerMessage

variable {key k : String} {v : Json} {ms ms' : List (String × Json)}

@[simp] theorem valuesOf_cons_self (key : String) (v : Json) (ms : List (String × Json)) :
    valuesOf key ((key, v) :: ms) = v :: valuesOf key ms := by
  simp [valuesOf]

theorem valuesOf_cons_of_ne (h : k ≠ key) (v : Json) (ms : List (String × Json)) :
    valuesOf key ((k, v) :: ms) = valuesOf key ms := by
  simp [valuesOf, h]

@[simp] theorem valuesOf_append (key : String) (ms ms' : List (String × Json)) :
    valuesOf key (ms ++ ms') = valuesOf key ms ++ valuesOf key ms' := by
  simp [valuesOf]

theorem mem_valuesOf : v ∈ valuesOf key ms ↔ (key, v) ∈ ms := by
  simp [valuesOf]

theorem valuesOf_perm (key : String) (h : ms.Perm ms') :
    (valuesOf key ms).Perm (valuesOf key ms') :=
  (h.filter _).map _

/-- The values of a key, where the members of some key have been left out. -/
theorem valuesOf_filter_self (key : String) (ms : List (String × Json)) :
    valuesOf key (ms.filter (·.1 ≠ key)) = [] := by
  simp [valuesOf]

theorem valuesOf_filter_of_ne (h : k ≠ key) (ms : List (String × Json)) :
    valuesOf key (ms.filter (·.1 ≠ k)) = valuesOf key ms := by
  induction ms with
  | nil => rfl
  | cons m ms ih =>
      obtain ⟨l, v⟩ := m
      by_cases hl : l = k
      · subst hl
        rw [List.filter_cons_of_neg (by simp), ih, valuesOf_cons_of_ne h]
      · rw [List.filter_cons_of_pos (by simpa using hl)]
        by_cases hk : l = key
        · subst hk
          rw [valuesOf_cons_self, valuesOf_cons_self, ih]
        · rw [valuesOf_cons_of_ne hk, valuesOf_cons_of_ne hk, ih]

end CompilerMessage

/-! ## The value of a field -/

namespace Json

variable {β : Type} {read : Json → Decoded β} {default? : Option β} {vs : List Json} {b : β}

/-- **What is given to a field** by the values of its key: the default if there are none and the
only one if there is one; there is nothing to choose among several. -/
def Given (read : Json → Decoded β) (default? : Option β) : List Json → β → Prop
  | [], b => default? = some b
  | [v], b => read v = .ok b
  | _ :: _ :: _, _ => False

/-- A field without a default needs exactly one value. -/
theorem given_none : Given read none vs b ↔ ∃ v, vs = [v] ∧ read v = .ok b := by
  match vs with
  | [] => exact ⟨nofun, nofun⟩
  | [v] => simp [Given]
  | _ :: _ :: _ => exact ⟨nofun, nofun⟩

/-- The order of the values does not matter, since there is at most one. -/
theorem Given.perm {vs' : List Json} (h : Given read default? vs b) (hp : vs.Perm vs') :
    Given read default? vs' b := by
  match vs, h with
  | [], h => exact hp.nil_eq ▸ h
  | [v], h => exact hp.singleton_eq ▸ h

theorem Given.length_le (h : Given read default? vs b) : vs.length ≤ 1 := by
  match vs, h with
  | [], _ => exact Nat.zero_le 1
  | [_], _ => exact Nat.le_refl 1

/-- A value among those that are given to a field is the only one. -/
theorem Given.only {v : Json} {ws : List Json} (h : Given read default? (vs ++ v :: ws) b) :
    vs = [] ∧ ws = [] ∧ read v = .ok b := by
  match vs, ws, h with
  | [], [], h => exact ⟨rfl, rfl, h⟩
  | [_], _, h => exact h.elim
  | _ :: _ :: _, _, h => exact h.elim

/-- The slot of a field after all values of its key have been put into it. -/
def fillAll (name : String) (read : Json → Decoded β) (slot : Option β) (vs : List Json) :
    Decoded (Option β) :=
  vs.foldlM (fun slot v => fill name slot read v) slot

variable {name : String} {slot s : Option β} {v : Json}

theorem fillAll_cons :
    fillAll name read slot (v :: vs) = .ok s ↔
      slot = none ∧ ∃ b, read v = .ok b ∧ fillAll name read (some b) vs = .ok s := by
  rw [fillAll, List.foldlM_cons, bind_eq_ok]
  constructor
  · rintro ⟨slot', filled, rest⟩
    obtain ⟨free, b, hb, rfl⟩ := fill_eq_ok.mp filled
    exact ⟨free, b, hb, rest⟩
  · rintro ⟨rfl, b, hb, rest⟩
    exact ⟨some b, fill_vacant hb, rest⟩

/-- A function that goes through members and puts those with a key into a slot fills it. -/
theorem fillAll_unique {g : Option β → List (String × Json) → Decoded (Option β)}
    (nil : ∀ slot, g slot [] = .ok slot)
    (cons : ∀ slot k v ms, g slot ((k, v) :: ms) =
      if k = name then fill name slot read v >>= fun slot => g slot ms else g slot ms)
    (slot : Option β) (ms : List (String × Json)) :
    g slot ms = fillAll name read slot (valuesOf name ms) := by
  induction ms generalizing slot with
  | nil => exact nil slot
  | cons m ms ih =>
      obtain ⟨k, v⟩ := m
      rw [cons]
      split
      · rename_i hk
        subst hk
        rw [CompilerMessage.valuesOf_cons_self, fillAll, List.foldlM_cons]
        exact congrArg (fill k slot read v >>= ·) (funext fun slot => ih slot)
      · rename_i hk
        rw [CompilerMessage.valuesOf_cons_of_ne hk, ih]

/-- All values of a key fill its slot to what is given to the field. -/
theorem given_iff (name : String) :
    Given read default? vs b ↔
      ∃ s, fillAll name read none vs = .ok s ∧ s.or default? = some b := by
  match vs with
  | [] =>
      show default? = some b ↔ ∃ s, (.ok none : Decoded (Option β)) = .ok s ∧ s.or default? = some b
      simp
  | [v] =>
      constructor
      · intro hb
        exact ⟨some b, fillAll_cons.mpr ⟨rfl, b, hb, rfl⟩, rfl⟩
      · rintro ⟨s, filled, hs⟩
        obtain ⟨-, b', hb', last⟩ := fillAll_cons.mp filled
        obtain rfl : some b' = s := pure_eq_ok.mp last
        exact Option.some.inj hs ▸ hb'
  | v :: w :: vs =>
      show False ↔ _
      simp [fillAll_cons]

/-- A required field is read from exactly one value. -/
theorem required_fillAll {index : Nat} :
    (fillAll name read none vs >>= required .object name index) = .ok b ↔
      ∃ v, vs = [v] ∧ read v = .ok b := by
  rw [← given_none, given_iff name, bind_eq_ok]
  simp only [required_eq_ok, Option.or_none]

end Json

/-! ## The fields of a record -/

namespace Json.Record

variable {φ δ α : Type} {β : φ → Type}

/-- **How a draft keeps the fields of a record**: each field has a slot of its own, into which
`read` puts the value of a member, and the finished record is made of what the slots hold or, where
one is vacant, of the default. -/
structure Slots (r : Record φ δ α) (read : ∀ f, Json → Decoded (β f)) (default? : ∀ f, Option (β f))
    (make : (∀ f, β f) → α) where
  get : δ → ∀ f, Option (β f)
  set : δ → ∀ f, β f → δ
  keyed : ∀ f, r.field? (r.key f) = some f
  get_empty : ∀ f, get r.empty f = none
  get_set_self : ∀ d f b, get (set d f b) f = some b
  get_set_of_ne : ∀ d f b g, g ≠ f → get (set d f b) g = get d g
  put_iff : ∀ d f v d',
    r.put d f v = .ok d' ↔ get d f = none ∧ ∃ b, read f v = .ok b ∧ set d f b = d'
  finish_iff : ∀ d a,
    r.finish .object d = .ok a ↔ ∃ b, (∀ f, (get d f).or (default? f) = some (b f)) ∧ make b = a

/-- A record whose fields all have defaults is finished whatever the slots hold. -/
theorem finish_of_defaults {r : Record φ δ α} {default? slot : ∀ f, Option (β f)}
    {make : (∀ f, β f) → α} (all : ∀ f, (default? f).isSome) {d : δ}
    (h : r.finish .object d = .ok (make fun f => (slot f).getD ((default? f).get (all f))))
    (a : α) : r.finish .object d = .ok a ↔
      ∃ b, (∀ f, (slot f).or (default? f) = some (b f)) ∧ make b = a := by
  have held : ∀ f, (slot f).or (default? f) = some ((slot f).getD ((default? f).get (all f))) := by
    intro f
    cases slot f <;> simp
  rw [h, Except.ok.injEq]
  constructor
  · intro ha
    exact ⟨_, held, ha⟩
  · rintro ⟨b, hb, rfl⟩
    exact congrArg make (funext fun f => Option.some.inj ((held f).symm.trans (hb f)))

namespace Slots

variable {r : Record φ δ α} {read : ∀ f, Json → Decoded (β f)} {default? : ∀ f, Option (β f)}
  {make : (∀ f, β f) → α} {d d' : δ} {ms : List (String × Json)}

theorem key_of_field? {k : String} {f : φ} (h : r.field? k = some f) : r.key f = k := by
  simpa using List.find?_some h

theorem key_inj (s : Slots r read default? make) {f g : φ} (h : r.key f = r.key g) : f = g :=
  Option.some.inj ((s.keyed f).symm.trans (h ▸ s.keyed g))

/-- Behind the members of an object every slot has got the values of its key. -/
theorem fillAll_of_ofMembers (s : Slots r read default? make) (h : r.ofMembers d ms = .ok d')
    (f : φ) :
    fillAll (r.key f) (read f) (s.get d f) (valuesOf (r.key f) ms) = .ok (s.get d' f) := by
  induction ms generalizing d with
  | nil => exact congrArg (fun d => Except.ok (s.get d f)) (Except.ok.inj h)
  | cons m ms ih =>
      obtain ⟨k, v⟩ := m
      rw [ofMembers] at h
      split at h
      · rename_i unknown
        have other : k ≠ r.key f := by
          rintro rfl
          rw [s.keyed f] at unknown
          cases unknown
        rw [CompilerMessage.valuesOf_cons_of_ne other]
        exact ih h
      · rename_i g known
        obtain rfl := key_of_field? known
        obtain ⟨d₁, put, rest⟩ := bind_eq_ok.mp h
        obtain ⟨free, b, hb, rfl⟩ := (s.put_iff d g v d₁).mp put
        -- The member fills the slot of its own key and leaves all others as they are.
        by_cases hf : f = g
        · subst hf
          rw [CompilerMessage.valuesOf_cons_self, fillAll_cons]
          exact ⟨free, b, hb, s.get_set_self d f b ▸ ih rest⟩
        · rw [CompilerMessage.valuesOf_cons_of_ne fun h => hf (s.key_inj h.symm),
            ← s.get_set_of_ne d g b f hf]
          exact ih rest

/-- An object is read if the values of each key fit into its slot. -/
theorem ofMembers_of_fillAll (s : Slots r read default? make)
    (h : ∀ f, ∃ c, fillAll (r.key f) (read f) (s.get d f) (valuesOf (r.key f) ms) = .ok c) :
    ∃ d', r.ofMembers d ms = .ok d' := by
  induction ms generalizing d with
  | nil => exact ⟨d, rfl⟩
  | cons m ms ih =>
      obtain ⟨k, v⟩ := m
      rw [ofMembers]
      split
      · rename_i unknown
        refine ih fun f => ?_
        have other : k ≠ r.key f := by
          rintro rfl
          rw [s.keyed f] at unknown
          cases unknown
        exact CompilerMessage.valuesOf_cons_of_ne other v ms ▸ h f
      · -- The first value of a key fits, and what is left of the values still fits behind it.
        rename_i g known
        obtain rfl := key_of_field? known
        obtain ⟨c, hc⟩ := h g
        rw [CompilerMessage.valuesOf_cons_self, fillAll_cons] at hc
        obtain ⟨free, b, hb, hc⟩ := hc
        rw [(s.put_iff d g v _).mpr ⟨free, b, hb, rfl⟩]
        refine ih fun f => ?_
        by_cases hf : f = g
        · subst hf
          exact ⟨c, (s.get_set_self d f b).symm ▸ hc⟩
        · rw [s.get_set_of_ne d g b f hf]
          exact CompilerMessage.valuesOf_cons_of_ne (fun h => hf (s.key_inj h.symm)) v ms ▸ h f

/-- **Which record an object stands for** depends on the values of each known key alone. -/
theorem ofJson_object (s : Slots r read default? make) {a : α} :
    r.ofJson (.object ms) = .ok a ↔
      ∃ b, (∀ f, Given (read f) (default? f) (valuesOf (r.key f) ms) (b f)) ∧ make b = a := by
  rw [ofJson, bind_eq_ok]
  constructor
  · rintro ⟨d, members, finish⟩
    obtain ⟨b, hb, rfl⟩ := (s.finish_iff d a).mp finish
    refine ⟨b, fun f => (given_iff (r.key f)).mpr ⟨s.get d f, ?_, hb f⟩, rfl⟩
    exact s.get_empty f ▸ s.fillAll_of_ofMembers members f
  · rintro ⟨b, given, rfl⟩
    have fits : ∀ f, ∃ c, fillAll (r.key f) (read f) none (valuesOf (r.key f) ms) = .ok c ∧
        c.or (default? f) = some (b f) := fun f => (given_iff (r.key f)).mp (given f)
    obtain ⟨d, members⟩ : ∃ d, r.ofMembers r.empty ms = .ok d := by
      refine s.ofMembers_of_fillAll fun f => ?_
      obtain ⟨c, hc, -⟩ := fits f
      exact ⟨c, (s.get_empty f).symm ▸ hc⟩
    refine ⟨d, members, (s.finish_iff d _).mpr ⟨b, fun f => ?_, rfl⟩⟩
    obtain ⟨c, hc, hb⟩ := fits f
    have held := s.get_empty f ▸ s.fillAll_of_ofMembers members f
    exact Except.ok.inj (held.symm.trans hc) ▸ hb

end Slots
end Json.Record
end BuildRunner
