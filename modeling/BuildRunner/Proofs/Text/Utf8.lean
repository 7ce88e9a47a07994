import BuildRunner.Text.Utf8
import Mathlib.Tactic.ByContra
import Mathlib.Tactic.SplitIfs

set_option autoImplicit false

/-! # What decoding makes of bytes

`Reads` says what any bytes are as characters without a reader and its states, from the encodings of
characters alone: a whole character is itself, and a maximal prefix of a character that is not
completed, or a byte with which no character begins, is one replacement character. `decode` computes
this relation (`decode_eq_iff`).

An ASCII character is never part of another one, so it divides a text into parts that are decoded
apart (`decode_eq_append_iff`).
-/

namespace BuildRunner.Utf8

open String (utf8EncodeChar)

/-- **Bytes with which a character begins.** -/
def Begins (w : List UInt8) : Prop := ∃ c, w <+: utf8EncodeChar c

/-- **A broken sequence** of bytes and what follows it: the beginning of a character that does not
go on, or a byte with which no character begins. -/
inductive Broken : List UInt8 → List UInt8 → Prop where
  | cut {w bs : List UInt8} : w ≠ [] → Begins w → (∀ c, utf8EncodeChar c ≠ w) →
      (∀ b, bs.head? = some b → ¬ Begins (w ++ [b])) → Broken w bs
  | stray {b : UInt8} {bs : List UInt8} : ¬ Begins [b] → Broken [b] bs

/-- **Bytes read as characters**, with one replacement for each broken sequence. -/
inductive Reads : List UInt8 → List Char → Prop where
  | nil : Reads [] []
  | char {c : Char} {bs : List UInt8} {cs : List Char} :
      Reads bs cs → Reads (utf8EncodeChar c ++ bs) (c :: cs)
  | broken {w bs : List UInt8} {cs : List Char} :
      Broken w bs → Reads bs cs → Reads (w ++ bs) (replacement :: cs)

variable {v : Nat} {a b : UInt8} {as bs t w : List UInt8} {c : Char} {cs ds : List Char}
  {u u' : Unfinished}

/-! ## The table of encodings -/

/-- A byte of a character **behind its first one**. -/
def IsTail (b : UInt8) : Prop := 0x80 ≤ b.toNat ∧ b.toNat ≤ 0xBF

/-- **The table of encodings**: the bytes of a character with a number. -/
inductive Spells (v : Nat) : List UInt8 → Prop where
  | one {a : UInt8} : a.toNat < 0x80 → v = a.toNat → Spells v [a]
  | two {a b : UInt8} : 0xC2 ≤ a.toNat → a.toNat < 0xE0 → IsTail b →
      v = (a.toNat - 0xC0) * 64 + (b.toNat - 0x80) → Spells v [a, b]
  | three {a b c : UInt8} : 0xE0 ≤ a.toNat → a.toNat < 0xF0 → IsTail b → IsTail c →
      (a.toNat = 0xE0 → 0xA0 ≤ b.toNat) → (a.toNat = 0xED → b.toNat ≤ 0x9F) →
      v = ((a.toNat - 0xE0) * 64 + (b.toNat - 0x80)) * 64 + (c.toNat - 0x80) → Spells v [a, b, c]
  | four {a b c d : UInt8} : 0xF0 ≤ a.toNat → a.toNat < 0xF5 → IsTail b → IsTail c → IsTail d →
      (a.toNat = 0xF0 → 0x90 ≤ b.toNat) → (a.toNat = 0xF4 → b.toNat ≤ 0x8F) →
      v = (((a.toNat - 0xF0) * 64 + (b.toNat - 0x80)) * 64 + (c.toNat - 0x80)) * 64 +
        (d.toNat - 0x80) → Spells v [a, b, c, d]

theorem toNat_ofNat (h : v.isValidChar) : (Char.ofNat v).val.toNat = v := by
  rw [Char.ofNat, dif_pos h]
  rfl

/-- There are no surrogates and no too great numbers in the table. -/
theorem Spells.isValidChar (h : Spells v w) : v.isValidChar := by
  unfold Nat.isValidChar
  cases h with
  | one => omega
  | two | three | four => simp only [IsTail] at *; omega

theorem Spells.encode (h : Spells v w) : utf8EncodeChar (Char.ofNat v) = w := by
  unfold utf8EncodeChar
  rw [toNat_ofNat h.isValidChar]
  cases h with
  | one _ number =>
      rw [if_pos (by omega), number]
      simp
  | two _ _ hb _ =>
      unfold IsTail at hb
      rw [if_neg (by omega), if_pos (by omega)]
      simp only [List.cons.injEq, ← UInt8.toNat_inj, UInt8.toNat_ofNat', and_true]
      omega
  | three _ _ hb hc _ _ _ =>
      unfold IsTail at hb hc
      rw [if_neg (by omega), if_neg (by omega), if_pos (by omega)]
      simp only [List.cons.injEq, ← UInt8.toNat_inj, UInt8.toNat_ofNat', and_true]
      omega
  | four _ _ hb hc hd _ _ _ =>
      unfold IsTail at hb hc hd
      rw [if_neg (by omega), if_neg (by omega), if_neg (by omega)]
      simp only [List.cons.injEq, ← UInt8.toNat_inj, UInt8.toNat_ofNat', and_true]
      omega

theorem spells_encode (c : Char) : Spells c.val.toNat (utf8EncodeChar c) := by
  have valid : c.val.toNat < 0xD800 ∨ 0xDFFF < c.val.toNat ∧ c.val.toNat < 0x110000 := c.valid
  unfold utf8EncodeChar
  generalize c.val.toNat = v at *
  dsimp only
  split
  · apply Spells.one <;> simp only [UInt8.toNat_ofNat'] <;> omega
  · split
    · apply Spells.two <;> simp only [IsTail, UInt8.toNat_ofNat'] <;> omega
    · split
      · apply Spells.three <;> simp only [IsTail, UInt8.toNat_ofNat'] <;> omega
      · apply Spells.four <;> simp only [IsTail, UInt8.toNat_ofNat'] <;> omega

/-- An ASCII byte in a character is all of it. -/
theorem Spells.of_ascii (h : Spells v w) (hb : b ∈ w) (ascii : b.toNat < 0x80) : w = [b] := by
  cases h with
  | one => exact congrArg (· :: []) (List.mem_singleton.mp hb).symm
  | two | three | four =>
      -- All bytes of a longer character are greater.
      simp only [List.mem_cons, List.not_mem_nil, or_false] at hb
      unfold IsTail at *
      rcases hb with rfl | rfl | rfl | rfl <;> omega

theorem encode_of_ascii (hb : b ∈ utf8EncodeChar c) (ascii : b.toNat < 0x80) :
    utf8EncodeChar c = [b] :=
  (spells_encode c).of_ascii hb ascii

theorem encode_ascii (ascii : b.toNat < 0x80) : utf8EncodeChar (Char.ofNat b.toNat) = [b] :=
  (Spells.one ascii rfl).encode

/-! ## What a lead byte fixes -/

theorem lead_one (h : a.toNat < 0x80) : lead a = .char (Char.ofNat a.toNat) :=
  if_pos (UInt8.lt_iff_toNat_lt.mpr h)

theorem lead_two (h : 0xC2 ≤ a.toNat) (h' : a.toNat < 0xE0) :
    ∃ u : Unfinished, lead a = .opens u ∧ u.value = a.toNat - 0xC0 ∧ u.later = 0 ∧
      ∀ b, u.accepts b = true ↔ IsTail b := by
  simp only [lead, UInt8.lt_iff_toNat_lt, UInt8.reduceToNat]
  rw [if_neg (by omega), if_neg (by omega), if_pos (by omega)]
  exact ⟨_, rfl, rfl, rfl, fun b => by
    simp [Unfinished.accepts, UInt8.le_iff_toNat_le, IsTail]⟩

theorem lead_three (h : 0xE0 ≤ a.toNat) (h' : a.toNat < 0xF0) :
    ∃ u : Unfinished, lead a = .opens u ∧ u.value = a.toNat - 0xE0 ∧ u.later = 1 ∧
      ∀ b, u.accepts b = true ↔
        IsTail b ∧ (a.toNat = 0xE0 → 0xA0 ≤ b.toNat) ∧ (a.toNat = 0xED → b.toNat ≤ 0x9F) := by
  simp only [lead, UInt8.lt_iff_toNat_lt, UInt8.reduceToNat]
  rw [if_neg (by omega), if_neg (by omega), if_neg (by omega), if_pos (by omega)]
  refine ⟨_, rfl, rfl, rfl, fun b => ?_⟩
  simp only [Unfinished.accepts, Bool.and_eq_true, decide_eq_true_eq, UInt8.le_iff_toNat_le, IsTail,
    ← UInt8.toNat_inj, UInt8.reduceToNat]
  split <;> split <;> simp only [UInt8.reduceToNat] <;> omega

theorem lead_four (h : 0xF0 ≤ a.toNat) (h' : a.toNat < 0xF5) :
    ∃ u : Unfinished, lead a = .opens u ∧ u.value = a.toNat - 0xF0 ∧ u.later = 2 ∧
      ∀ b, u.accepts b = true ↔
        IsTail b ∧ (a.toNat = 0xF0 → 0x90 ≤ b.toNat) ∧ (a.toNat = 0xF4 → b.toNat ≤ 0x8F) := by
  simp only [lead, UInt8.lt_iff_toNat_lt, UInt8.reduceToNat]
  rw [if_neg (by omega), if_neg (by omega), if_neg (by omega), if_neg (by omega),
    if_pos (by omega)]
  refine ⟨_, rfl, rfl, rfl, fun b => ?_⟩
  simp only [Unfinished.accepts, Bool.and_eq_true, decide_eq_true_eq, UInt8.le_iff_toNat_le, IsTail,
    ← UInt8.toNat_inj, UInt8.reduceToNat]
  split <;> split <;> simp only [UInt8.reduceToNat] <;> omega

theorem lead_invalid (h : 0x80 ≤ a.toNat) (h' : a.toNat < 0xC2 ∨ 0xF5 ≤ a.toNat) :
    lead a = .invalid := by
  simp only [lead, UInt8.lt_iff_toNat_lt, UInt8.reduceToNat]
  rcases h' with h' | h'
  · rw [if_neg (by omega), if_pos (by omega)]
  · rw [if_neg (by omega), if_neg (by omega), if_neg (by omega), if_neg (by omega),
      if_neg (by omega)]

/-! ## What completes a character -/

/-- The character that is completed by **exactly the bytes** that are missing. -/
def Unfinished.complete? (u : Unfinished) : List UInt8 → Option Char
  | [] => none
  | b :: bs =>
    if u.accepts b then
      match u.extend b with
      | .inl c => if bs = [] then some c else none
      | .inr v => v.complete? bs
    else none

/-- The character that a reader makes of **exactly these bytes**. -/
def char? : List UInt8 → Option Char
  | [] => none
  | b :: bs =>
    match lead b with
    | .char c => if bs = [] then some c else none
    | .opens u => u.complete? bs
    | .invalid => none

/-- The unfinished character that wants `later` more bytes behind the next one. -/
def Unfinished.within (value later : Nat) : Unfinished := ⟨value, later, 0x80, 0xBF⟩

theorem accepts_within {value later : Nat} :
    (Unfinished.within value later).accepts b = true ↔ IsTail b := by
  simp [Unfinished.within, Unfinished.accepts, UInt8.le_iff_toNat_le, IsTail]

theorem complete?_last (last : u.later = 0) : u.complete? w = some c ↔
    ∃ b, w = [b] ∧ u.accepts b = true ∧ Char.ofNat (u.value * 64 + (b.toNat - 0x80)) = c := by
  cases w with
  | nil => simp [Unfinished.complete?]
  | cons b bs =>
      simp only [Unfinished.complete?, Unfinished.extend, last, List.cons.injEq]
      constructor
      · intro h
        obtain ⟨accepted, rest, number⟩ : u.accepts b = true ∧ bs = [] ∧ _ = c := by simpa using h
        exact ⟨b, ⟨rfl, rest⟩, accepted, number⟩
      · rintro ⟨_, ⟨rfl, rfl⟩, accepted, rfl⟩
        simp [accepted]

theorem complete?_more {later : Nat} (more : u.later = later + 1) : u.complete? w = some c ↔
    ∃ b bs, w = b :: bs ∧ u.accepts b = true ∧
      (Unfinished.within (u.value * 64 + (b.toNat - 0x80)) later).complete? bs = some c := by
  cases w with
  | nil => simp [Unfinished.complete?]
  | cons b bs =>
      simp only [Unfinished.complete?, Unfinished.extend, more, List.cons.injEq]
      constructor
      · intro h
        obtain ⟨accepted, rest⟩ : u.accepts b = true ∧ _ = some c := by simpa using h
        exact ⟨b, bs, ⟨rfl, rfl⟩, accepted, rest⟩
      · rintro ⟨_, _, ⟨rfl, rfl⟩, accepted, rest⟩
        rw [if_pos accepted]
        exact rest

/-- **A reader makes characters of their encodings** and of nothing else. -/
theorem spells_of_char? (h : char? w = some c) : ∃ v, Spells v w ∧ Char.ofNat v = c := by
  cases w with
  | nil => cases h
  | cons a w =>
      rw [char?] at h
      -- The first byte decides how many follow; each range of it is a row of the table.
      by_cases one : a.toNat < 0x80
      · rw [lead_one one] at h
        obtain ⟨rfl, rfl⟩ : w = [] ∧ Char.ofNat a.toNat = c := by simpa using h
        exact ⟨_, .one one rfl, rfl⟩
      by_cases two : 0xC2 ≤ a.toNat ∧ a.toNat < 0xE0
      · obtain ⟨u, opens, value, later, accepts⟩ := lead_two two.1 two.2
        rw [opens] at h
        obtain ⟨b, rfl, hb, rfl⟩ := (complete?_last later).mp h
        exact ⟨_, .two two.1 two.2 ((accepts b).mp hb) rfl, by rw [value]⟩
      by_cases three : 0xE0 ≤ a.toNat ∧ a.toNat < 0xF0
      · obtain ⟨u, opens, value, later, accepts⟩ := lead_three three.1 three.2
        rw [opens] at h
        obtain ⟨b, _, rfl, hb, h⟩ := (complete?_more later).mp h
        obtain ⟨d, rfl, hd, rfl⟩ := (complete?_last rfl).mp h
        obtain ⟨hb, least, greatest⟩ := (accepts b).mp hb
        exact ⟨_, .three three.1 three.2 hb (accepts_within.mp hd) least greatest rfl, by
          rw [← value]; rfl⟩
      by_cases four : 0xF0 ≤ a.toNat ∧ a.toNat < 0xF5
      · obtain ⟨u, opens, value, later, accepts⟩ := lead_four four.1 four.2
        rw [opens] at h
        obtain ⟨b, _, rfl, hb, h⟩ := (complete?_more later).mp h
        obtain ⟨d, _, rfl, hd, h⟩ := (complete?_more rfl).mp h
        obtain ⟨e, rfl, he, rfl⟩ := (complete?_last rfl).mp h
        obtain ⟨hb, least, greatest⟩ := (accepts b).mp hb
        exact ⟨_, .four four.1 four.2 hb (accepts_within.mp hd) (accepts_within.mp he) least greatest
          rfl, by rw [← value]; rfl⟩
      · rw [lead_invalid (by omega) (by omega)] at h
        cases h

theorem Spells.char? (h : Spells v w) : char? w = some (Char.ofNat v) := by
  cases h with
  | one ha number => simp [Utf8.char?, lead_one ha, number]
  | two ha ha' hb number =>
      obtain ⟨u, opens, value, later, accepts⟩ := lead_two ha ha'
      rw [Utf8.char?, opens]
      exact (complete?_last later).mpr ⟨_, rfl, (accepts _).mpr hb, by rw [number, value]⟩
  | three ha ha' hb hc least greatest number =>
      obtain ⟨u, opens, value, later, accepts⟩ := lead_three ha ha'
      rw [Utf8.char?, opens]
      refine (complete?_more later).mpr ⟨_, _, rfl, (accepts _).mpr ⟨hb, least, greatest⟩, ?_⟩
      exact (complete?_last rfl).mpr ⟨_, rfl, accepts_within.mpr hc, by rw [number, value]; rfl⟩
  | four ha ha' hb hc hd least greatest number =>
      obtain ⟨u, opens, value, later, accepts⟩ := lead_four ha ha'
      rw [Utf8.char?, opens]
      refine (complete?_more later).mpr ⟨_, _, rfl, (accepts _).mpr ⟨hb, least, greatest⟩, ?_⟩
      refine (complete?_more rfl).mpr ⟨_, _, rfl, accepts_within.mpr hc, ?_⟩
      exact (complete?_last rfl).mpr ⟨_, rfl, accepts_within.mpr hd, by rw [number, value]; rfl⟩

/-- **A reader makes a character of its encoding** and of nothing else. -/
theorem char?_eq_some : char? w = some c ↔ utf8EncodeChar c = w := by
  constructor
  · intro h
    obtain ⟨v, spells, rfl⟩ := spells_of_char? h
    exact spells.encode
  · rintro rfl
    rw [(spells_encode c).char?]
    exact congrArg some (Char.ofNat_toNat c)

/-! ## Readers -/

/-- **A reader holds bytes**: what completes its unfinished character completes a character that
begins with them. -/
structure Holds (u : Unfinished) (w : List UInt8) : Prop where
  nonempty : w ≠ []
  complete : ∀ t, char? (w ++ t) = u.complete? t
  canGoOn : u.least ≤ u.greatest

theorem canGoOn_of_lead (h : lead b = .opens u) : u.least ≤ u.greatest := by
  unfold lead at h
  split_ifs at h <;> simp only [Lead.opens.injEq] at h <;> subst h <;> simp_all

theorem canGoOn_within (value later : Nat) :
    (Unfinished.within value later).least ≤ (Unfinished.within value later).greatest := by
  simp [Unfinished.within]

theorem holds_of_lead (h : lead b = .opens u) : Holds u [b] where
  nonempty := List.cons_ne_nil _ _
  complete t := by rw [List.singleton_append, char?, h]
  canGoOn := canGoOn_of_lead h

/-- An unfinished character can be completed. -/
theorem exists_complete (h : u.least ≤ u.greatest) : ∃ t c, u.complete? t = some c := by
  have least : u.accepts u.least = true := by simp [Unfinished.accepts, h]
  induction hl : u.later generalizing u with
  | zero => exact ⟨[u.least], _, (complete?_last hl).mpr ⟨_, rfl, least, rfl⟩⟩
  | succ later ih =>
      let v := Unfinished.within (u.value * 64 + (u.least.toNat - 0x80)) later
      have ordered : v.least ≤ v.greatest := canGoOn_within _ _
      obtain ⟨t, c, rest⟩ := ih ordered (by simp [Unfinished.accepts, ordered]) rfl
      exact ⟨u.least :: t, c, (complete?_more hl).mpr ⟨_, _, rfl, least, rest⟩⟩

namespace Holds

theorem begins (h : Holds u w) : Begins w := by
  obtain ⟨t, c, complete⟩ := exists_complete h.canGoOn
  exact ⟨c, t, (char?_eq_some.mp (h.complete t ▸ complete)).symm⟩

theorem incomplete (h : Holds u w) (c : Char) : utf8EncodeChar c ≠ w := by
  intro whole
  have made := char?_eq_some.mpr whole
  rw [← List.append_nil w, h.complete] at made
  cases made

/-- A byte that is accepted completes the character or is held as well. -/
theorem char (h : Holds u w) (accepted : u.accepts b = true) (hc : u.extend b = .inl c) :
    utf8EncodeChar c = w ++ [b] := by
  rw [← char?_eq_some, h.complete]
  simp [Unfinished.complete?, accepted, hc]

theorem extend (h : Holds u w) (accepted : u.accepts b = true) (hv : u.extend b = .inr u') :
    Holds u' (w ++ [b]) where
  nonempty := List.append_ne_nil_of_right_ne_nil _ (List.cons_ne_nil _ _)
  complete t := by
    rw [List.append_assoc, h.complete]
    simp [Unfinished.complete?, accepted, hv]
  canGoOn := by
    unfold Unfinished.extend at hv
    split at hv
    · cases hv
    · obtain rfl := Sum.inr.inj hv
      exact canGoOn_within _ _

/-- With any other byte no character goes on. -/
theorem stops (h : Holds u w) (refused : ¬ u.accepts b = true) : ¬ Begins (w ++ [b]) := by
  rintro ⟨c, t, whole⟩
  have made := char?_eq_some.mpr whole.symm
  rw [List.append_assoc, h.complete] at made
  simp [Unfinished.complete?, refused] at made

end Holds

theorem not_begins_of_invalid (h : lead b = .invalid) : ¬ Begins [b] := by
  rintro ⟨c, t, whole⟩
  have made := char?_eq_some.mpr whole.symm
  simp [char?, h] at made

theorem encode_of_lead (h : lead b = .char c) : utf8EncodeChar c = [b] :=
  char?_eq_some.mp (by simp [char?, h])

/-! ## Decoding -/

theorem decodeFrom_char (h : lead b = .char c) (bs : List UInt8) :
    decodeFrom none (b :: bs) = c :: decodeFrom none bs := by
  simp [decodeFrom, step, stepLead, h]

theorem decodeFrom_opens (h : lead b = .opens u) (bs : List UInt8) :
    decodeFrom none (b :: bs) = decodeFrom (some u) bs := by
  simp [decodeFrom, step, stepLead, h]

theorem decodeFrom_invalid (h : lead b = .invalid) (bs : List UInt8) :
    decodeFrom none (b :: bs) = replacement :: decodeFrom none bs := by
  simp [decodeFrom, step, stepLead, h]

theorem decodeFrom_completed (accepted : u.accepts b = true) (h : u.extend b = .inl c)
    (bs : List UInt8) : decodeFrom (some u) (b :: bs) = c :: decodeFrom none bs := by
  simp [decodeFrom, step, accepted, h]

theorem decodeFrom_extended (accepted : u.accepts b = true) (h : u.extend b = .inr u')
    (bs : List UInt8) : decodeFrom (some u) (b :: bs) = decodeFrom (some u') bs := by
  simp [decodeFrom, step, accepted, h]

/-- A byte that is refused is read afresh. -/
theorem decodeFrom_refused (refused : ¬ u.accepts b = true) (bs : List UInt8) :
    decodeFrom (some u) (b :: bs) = replacement :: decodeFrom none (b :: bs) := by
  simp [decodeFrom, step, refused]

/-- **A reader reads** the bytes that it holds together with those that follow. -/
theorem reads_decodeFrom (bs : List UInt8) : Reads bs (decodeFrom none bs) ∧
    ∀ u w, Holds u w → Reads (w ++ bs) (decodeFrom (some u) bs) := by
  -- Both readers go into one induction: a byte may open a character, and it may end one.
  induction bs with
  | nil => exact ⟨.nil, fun u w h => .broken (.cut h.nonempty h.begins h.incomplete nofun) .nil⟩
  | cons b bs ih =>
      have afresh : Reads (b :: bs) (decodeFrom none (b :: bs)) := by
        cases hl : lead b with
        | char c =>
            rw [decodeFrom_char hl, ← List.singleton_append, ← encode_of_lead hl]
            exact .char ih.1
        | opens u =>
            rw [decodeFrom_opens hl]
            exact ih.2 u [b] (holds_of_lead hl)
        | invalid =>
            rw [decodeFrom_invalid hl]
            exact .broken (.stray (not_begins_of_invalid hl)) ih.1
      refine ⟨afresh, fun u w h => ?_⟩
      by_cases accepted : u.accepts b = true
      · rw [List.append_cons]
        cases he : u.extend b with
        | inl c =>
            rw [decodeFrom_completed accepted he, ← h.char accepted he]
            exact .char ih.1
        | inr v =>
            rw [decodeFrom_extended accepted he]
            exact ih.2 v _ (h.extend accepted he)
      · rw [decodeFrom_refused accepted]
        refine .broken (.cut h.nonempty h.begins h.incomplete fun x hx => ?_) afresh
        obtain rfl := Option.some.inj hx
        exact h.stops accepted

theorem decodeFrom_complete (h : u.complete? w = some c) (bs : List UInt8) :
    decodeFrom (some u) (w ++ bs) = c :: decodeFrom none bs := by
  induction w generalizing u with
  | nil => cases h
  | cons b w ih =>
      rw [Unfinished.complete?] at h
      split at h
      · rename_i accepted
        rw [List.cons_append]
        cases he : u.extend b with
        | inl x =>
            rw [he] at h
            obtain ⟨rfl, rfl⟩ : w = [] ∧ x = c := by simpa using h
            exact decodeFrom_completed accepted he bs
        | inr v =>
            rw [he] at h
            rw [decodeFrom_extended accepted he]
            exact ih h
      · cases h

/-- Whole characters are decoded. -/
theorem decode_encode_append (c : Char) (bs : List UInt8) :
    decode (utf8EncodeChar c ++ bs) = c :: decode bs := by
  have made := char?_eq_some.mpr (rfl : utf8EncodeChar c = _)
  cases h : utf8EncodeChar c with
  | nil => rw [h] at made; cases made
  | cons b w =>
      rw [h, char?] at made
      rw [List.cons_append, decode]
      cases hl : lead b with
      | char x =>
          rw [hl] at made
          obtain ⟨rfl, rfl⟩ : w = [] ∧ x = c := by simpa using made
          exact decodeFrom_char hl bs
      | opens u =>
          rw [hl] at made
          rw [decodeFrom_opens hl]
          exact decodeFrom_complete made bs
      | invalid => rw [hl] at made; cases made

theorem Holds.begins_of_accepts (h : Holds u w) (accepted : u.accepts b = true) :
    Begins (w ++ [b]) := by
  cases he : u.extend b with
  | inl c => exact ⟨c, h.char accepted he ▸ List.prefix_rfl⟩
  | inr v => exact (h.extend accepted he).begins

/-- A reader goes on as long as a character may. -/
theorem Holds.exists_holds (h : Holds u w) (begins : Begins (w ++ t))
    (incomplete : ∀ c, utf8EncodeChar c ≠ w ++ t) :
    ∃ v, Holds v (w ++ t) ∧ ∀ bs, decodeFrom (some u) (t ++ bs) = decodeFrom (some v) bs := by
  induction t generalizing u w with
  | nil => exact ⟨u, by simpa using h, fun _ => rfl⟩
  | cons b t ih =>
      rw [List.append_cons] at begins incomplete ⊢
      have accepted : u.accepts b = true := by
        by_contra refused
        obtain ⟨c, first⟩ := begins
        exact h.stops refused ⟨c, (List.prefix_append _ _).trans first⟩
      cases he : u.extend b with
      | inl c =>
          -- The character is complete, so nothing longer begins one.
          obtain ⟨x, s, whole⟩ := begins
          have made := char?_eq_some.mpr whole.symm
          rw [List.append_assoc, List.append_assoc, h.complete] at made
          have rest : t = [] := by
            by_contra more
            simp [Unfinished.complete?, accepted, he, more] at made
          exact absurd (h.char accepted he) (by simpa [rest] using incomplete c)
      | inr v =>
          obtain ⟨x, hx, same⟩ := ih (h.extend accepted he) begins incomplete
          refine ⟨x, hx, fun bs => ?_⟩
          rw [List.cons_append, decodeFrom_extended accepted he, same]

theorem exists_holds_of_begins (some : w ≠ []) (begins : Begins w)
    (incomplete : ∀ c, utf8EncodeChar c ≠ w) :
    ∃ u, Holds u w ∧ ∀ bs, decode (w ++ bs) = decodeFrom (.some u) bs := by
  cases w with
  | nil => exact absurd rfl some
  | cons b w =>
      obtain ⟨x, s, whole⟩ := begins
      have made := char?_eq_some.mpr whole.symm
      rw [List.cons_append, char?] at made
      cases hl : lead b with
      | char c =>
          have rest : w = [] := by
            by_contra more
            simp [hl, more] at made
          exact absurd (encode_of_lead hl) (by simpa [rest] using incomplete c)
      | opens u =>
          obtain ⟨v, held, same⟩ := (holds_of_lead hl).exists_holds ⟨x, s, whole⟩ incomplete
          refine ⟨v, held, fun bs => ?_⟩
          rw [List.cons_append, decode, decodeFrom_opens hl, same]
      | invalid => simp [hl] at made

/-- A broken sequence is replaced. -/
theorem decode_broken (h : Broken w bs) : decode (w ++ bs) = replacement :: decode bs := by
  cases h with
  | @stray b _ stray =>
      cases hl : lead b with
      | char c => exact absurd ⟨c, (encode_of_lead hl) ▸ List.prefix_rfl⟩ stray
      | opens u => exact absurd (holds_of_lead hl).begins stray
      | invalid => exact decodeFrom_invalid hl bs
  | cut some begins incomplete ends =>
      obtain ⟨u, held, same⟩ := exists_holds_of_begins some begins incomplete
      rw [same]
      cases bs with
      | nil => rfl
      | cons b bs =>
          exact decodeFrom_refused (fun accepted => ends b rfl (held.begins_of_accepts accepted)) bs

/-- **Decoding computes the relation**: every sequence of bytes is read in one way. -/
theorem decode_eq_iff : decode bs = cs ↔ Reads bs cs := by
  constructor
  · rintro rfl
    exact (reads_decodeFrom bs).1
  · intro h
    induction h with
    | nil => rfl
    | char _ ih => rw [decode_encode_append, ih]
    | broken broken _ ih => rw [decode_broken broken, ih]

/-- Bytes are never nothing. -/
theorem decode_eq_nil_iff : decode bs = [] ↔ bs = [] := by
  rw [decode_eq_iff]
  constructor
  · intro h
    cases h
    rfl
  · rintro rfl
    exact .nil

theorem reads_decode (bs : List UInt8) : Reads bs (decode bs) := decode_eq_iff.mp rfl

/-! ## Texts -/

theorem toList_loop (bytes : ByteArray) (i : Nat) (done : List UInt8) :
    ByteArray.toList.loop bytes i done = done.reverse ++ bytes.data.toList.drop i := by
  have size : bytes.data.toList.length = bytes.size := rfl
  induction h : bytes.size - i generalizing i done with
  | zero =>
      rw [ByteArray.toList.loop, if_neg (by omega), List.drop_eq_nil_of_le (by omega),
        List.append_nil]
  | succ n ih =>
      have there : i < bytes.data.toList.length := by omega
      have byte : bytes.get! i = bytes.data.toList[i] := by
        rw [ByteArray.get!, getElem!_pos bytes.data i there]
        rfl
      rw [ByteArray.toList.loop, if_pos (by omega), ih _ _ (by omega),
        List.drop_eq_getElem_cons there, byte]
      simp

/-- The bytes of a text are those of its characters. -/
theorem encode_eq (s : String) : encode s = s.toList.flatMap utf8EncodeChar := by
  have bytes : s.toUTF8.data.toList = s.toList.flatMap utf8EncodeChar := by
    rw [String.toUTF8_eq_toByteArray, ← String.utf8Encode_toList, List.utf8Encode,
      List.toList_data_toByteArray]
  rw [encode, ByteArray.toList, toList_loop, bytes]
  rfl

/-- **What was encoded is read back.** -/
theorem decode_encode (s : String) : decode (encode s) = s.toList := by
  rw [encode_eq]
  induction s.toList with
  | nil => rfl
  | cons c cs ih => rw [List.flatMap_cons, decode_encode_append, ih]

theorem text_encode (s : String) : text (encode s) = s := by
  rw [text, decode_encode, String.ofList_toList]

/-! ## ASCII -/

/-- An ASCII byte never goes on with a character. -/
theorem not_begins_ascii (some : w ≠ []) (ascii : b.toNat < 0x80) : ¬ Begins (w ++ [b]) := by
  rintro ⟨c, first⟩
  have whole := encode_of_ascii (first.subset (List.mem_append_right _ List.mem_cons_self)) ascii
  have short := first.length_le
  rw [whole, List.length_append, List.length_singleton] at short
  have := List.length_pos_iff.mpr some
  omega

namespace Reads

/-- What is before an ASCII byte is read without it, and what is behind it as well. -/
theorem append_ascii (h : Reads as cs) (ascii : b.toNat < 0x80) (h' : Reads bs ds) :
    Reads (as ++ b :: bs) (cs ++ Char.ofNat b.toNat :: ds) := by
  induction h with
  | nil =>
      rw [List.nil_append, List.nil_append, ← List.singleton_append, ← encode_ascii ascii]
      exact .char h'
  | char _ ih =>
      rw [List.append_assoc]
      exact .char ih
  | @broken w as cs broken _ ih =>
      rw [List.append_assoc]
      refine .broken ?_ ih
      cases broken with
      | stray stray => exact .stray stray
      | cut some begins incomplete ends =>
          refine .cut some begins incomplete fun x hx => ?_
          cases as with
          | nil =>
              obtain rfl := Option.some.inj hx
              exact not_begins_ascii some ascii
          | cons a as => exact ends x hx

/-- An ASCII character is read of its byte only. -/
theorem exists_ascii (h : Reads as (cs ++ Char.ofNat b.toNat :: ds)) (ascii : b.toNat < 0x80) :
    ∃ front back, as = front ++ b :: back ∧ Reads front cs ∧ Reads back ds := by
  generalize hxs : cs ++ Char.ofNat b.toNat :: ds = xs at h
  induction h generalizing cs with
  | nil => simp at hxs
  | @char c bs _ h ih =>
      rcases List.append_eq_cons_iff.mp hxs with ⟨rfl, same⟩ | ⟨cs', rfl, same⟩
      · obtain ⟨rfl, rfl⟩ := List.cons.inj same
        exact ⟨[], bs, by rw [encode_ascii ascii]; rfl, .nil, h⟩
      · obtain ⟨front, back, rfl, first, second⟩ := ih same.symm
        exact ⟨_, back, (List.append_assoc _ _ _).symm, .char first, second⟩
  | @broken w bs _ broken h ih =>
      rcases List.append_eq_cons_iff.mp hxs with ⟨rfl, same⟩ | ⟨cs', rfl, same⟩
      · -- The replacement is no ASCII character.
        have number := congrArg (fun c : Char => c.val.toNat) (List.cons.inj same).1
        rw [toNat_ofNat (.inl (by omega))] at number
        exact absurd number (by rw [replacement, toNat_ofNat (by decide)]; omega)
      · obtain ⟨front, back, rfl, first, second⟩ := ih same.symm
        refine ⟨w ++ front, back, (List.append_assoc _ _ _).symm, .broken ?_ first, second⟩
        cases broken with
        | stray stray => exact .stray stray
        | cut some begins incomplete ends =>
            refine .cut some begins incomplete fun x hx => ends x ?_
            rw [List.head?_append, hx, Option.some_or]

end Reads

/-- **An ASCII character divides a text** into parts that are decoded apart: it stands in the text
exactly where its byte stands, and neither part depends on the other. -/
theorem decode_eq_append_iff (ascii : b.toNat < 0x80) :
    decode bs = cs ++ Char.ofNat b.toNat :: ds ↔
      ∃ front back, bs = front ++ b :: back ∧ decode front = cs ∧ decode back = ds := by
  simp only [decode_eq_iff]
  constructor
  · exact fun h => h.exists_ascii ascii
  · rintro ⟨front, back, rfl, first, second⟩
    exact first.append_ascii ascii second

end BuildRunner.Utf8
