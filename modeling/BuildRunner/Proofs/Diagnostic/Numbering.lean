import BuildRunner.Diagnostic.Numbering

set_option autoImplicit false

/-! # The numbers of complex messages

The numbering after some lines is the number of complex messages among them, whatever else these
lines are. All diagnostics of a complex message start with its number in parentheses. A number is
written with digits only, so it ends at the first closing parenthesis of the text; so two diagnostics
of complex messages agree up to there exactly if they belong to the same message.
-/

namespace BuildRunner

/-! ## Complex messages -/

/-- A message is complex if it has several spans, or a single one that came out of a macro. -/
theorem CompilerMessage.isComplex_iff {m : CompilerMessage} : m.isComplex = true ↔
    2 ≤ m.spans.length ∨ ∃ s, m.spans = [s] ∧ s.expansion.isSome = true := by
  unfold isComplex
  rcases m.spans with _ | ⟨s, _ | ⟨s', ss⟩⟩ <;> simp

/-- The **complex message of a line**, if the line is an event that carries one. -/
def complexMessage? (line : String) : Option CompilerMessage :=
  match ToolEvent.ofLine line with
  | .ok e => e.message?.filter CompilerMessage.isComplex
  | .error _ => none

def complexMessages (lines : List String) : List CompilerMessage := lines.filterMap complexMessage?

variable {n : Numbering} {line : String} {lines : List String} {m : CompilerMessage}
  {d d' : Diagnostic} {i j : Nat}

theorem complexMessage?_eq_some : complexMessage? line = some m ↔
    ToolEvent.ofLine line = .ok (.compilerMessage m) ∧ m.isComplex = true := by
  unfold complexMessage?
  split
  · rename_i e h
    cases e <;> simp [h, ToolEvent.message?, Option.filter_eq_some_iff]
  · rename_i h
    simp [h]

theorem length_complexMessages_le (lines : List String) :
    (complexMessages lines).length ≤ lines.length :=
  List.length_filterMap_le _ _

/-! ## One line -/

/-- A line is an event if its tree is one. -/
theorem ToolEvent.ofLine_eq_ok {e : ToolEvent} : ofLine line = .ok e ↔
    ∃ tree, Json.readText line = .ok tree ∧ ofJson tree = .ok e := by
  unfold ofLine ofLine?
  cases Json.readText line with
  | error fault => simp
  | ok tree => cases event : ofJson tree <;> simp [event]

namespace Numbering

/-- A complex message takes the next number. -/
theorem ofEvent_complex (n : Numbering) (h : m.isComplex = true) :
    n.ofEvent (.compilerMessage m) =
      (m.spans.filterMap (m.diagnosticAt (n.count + 1)), ⟨n.count + 1⟩) := by
  have spans : m.spans ≠ [] := by
    rcases CompilerMessage.isComplex_iff.mp h with many | ⟨s, one, -⟩
    · exact List.ne_nil_of_length_pos (by omega)
    · simp [one]
  cases hs : m.spans with
  | nil => exact absurd hs spans
  | cons s ss => simp [ofEvent, ToolEvent.message?, ofMessage, hs, h]

theorem ofLine_complex (n : Numbering) (h : complexMessage? line = some m) :
    n.ofLine line = (.ok (m.spans.filterMap (m.diagnosticAt (n.count + 1))), ⟨n.count + 1⟩) := by
  obtain ⟨read, complex⟩ := complexMessage?_eq_some.mp h
  rw [ofLine, read]
  simp only [ofEvent_complex n complex]

/-- **No other line counts**, be it malformed or any other event. -/
theorem ofLine_other (n : Numbering) (h : complexMessage? line = none) : (n.ofLine line).2 = n := by
  unfold complexMessage? at h
  unfold ofLine
  split
  · rfl
  · rename_i e read
    rw [read] at h
    cases e with
    | other => rfl
    | compilerMessage m =>
        have simple : m.isComplex = false := by simpa [ToolEvent.message?] using h
        simp only [ofEvent, ToolEvent.message?, ofMessage, simple]
        split <;> rfl

variable {tree : Json} {e : ToolEvent}

/-- A line whose tree stands for an event gives the diagnostics of the event. -/
theorem ofLine_event (n : Numbering) (text : Json.readText line = .ok tree)
    (event : ToolEvent.ofJson tree = .ok e) :
    n.ofLine line = (.ok (n.ofEvent e).1, (n.ofEvent e).2) := by
  have read : ToolEvent.ofLine line = .ok e := ToolEvent.ofLine_eq_ok.mpr ⟨tree, text, event⟩
  rw [ofLine, read]

/-- A line whose tree stands for no event is malformed. -/
theorem ofLine_noEvent (n : Numbering) (text : Json.readText line = .ok tree)
    (event : ∀ e, ToolEvent.ofJson tree ≠ .ok e) :
    n.ofLine line = (.error ⟨line, ToolEvent.explain line⟩, n) := by
  have read : ToolEvent.ofLine line = .error (ToolEvent.explain line) := by
    cases h : ToolEvent.ofJson tree with
    | ok e => exact absurd h (event e)
    | error _ => simp [ToolEvent.ofLine, ToolEvent.ofLine?, text, h]
  rw [ofLine, read]

/-- A line that is accepted is an event, whose diagnostics it gives. -/
theorem exists_event {n n' : Numbering} {ds : List Diagnostic}
    (h : n.ofLine line = (.ok ds, n')) :
    ∃ e, ToolEvent.ofLine line = .ok e ∧ n.ofEvent e = (ds, n') := by
  unfold ofLine at h
  split at h
  · cases h
  · rename_i e read
    obtain ⟨found, after⟩ := Prod.mk.inj h
    exact ⟨e, read, Prod.ext (Except.ok.inj found) after⟩

/-- **A malformed line leaves the numbering as it is** and is malformed at any place of a stream. -/
theorem ofLine_malformed {n n' : Numbering} {error : Malformed}
    (h : n.ofLine line = (.error error, n')) :
    n' = n ∧ error.input = line ∧ ∀ m : Numbering, m.ofLine line = (.error error, m) := by
  unfold ofLine at h ⊢
  split at h
  · rename_i reason read
    obtain ⟨same, rfl⟩ := Prod.mk.inj h
    obtain rfl := Except.error.inj same
    exact ⟨rfl, rfl, fun _ => rfl⟩
  · cases h

/-! ## A stream -/

def after (n : Numbering) (lines : List String) : Numbering :=
  lines.foldl (fun n line => (n.ofLine line).2) n

theorem length_ofLines (n : Numbering) (lines : List String) :
    (n.ofLines lines).length = lines.length := by
  induction lines generalizing n with
  | nil => rfl
  | cons line lines ih => simp [ofLines, ih]

theorem ofLines_append (n : Numbering) (front back : List String) :
    n.ofLines (front ++ back) = n.ofLines front ++ (n.after front).ofLines back := by
  induction front generalizing n with
  | nil => rfl
  | cons line front ih => exact congrArg (n.ofLine line :: ·) (ih _)

/-- Every line is read with the numbering after the lines before it. -/
theorem getElem?_ofLines (n : Numbering) (lines : List String) (i : Nat) :
    (n.ofLines lines)[i]? = (lines[i]?).map ((n.after (lines.take i)).ofLine ·) := by
  induction lines generalizing n i with
  | nil => simp [ofLines]
  | cons line lines ih =>
      cases i with
      | zero => simp [ofLines, after]
      | succ i => simpa [ofLines, after] using ih _ i

/-- **The numbering counts complex messages.** -/
theorem count_after (n : Numbering) (lines : List String) :
    (n.after lines).count = n.count + .ofNat (complexMessages lines).length := by
  induction lines generalizing n with
  | nil => simp [after, complexMessages]
  | cons line lines ih =>
      have step : n.after (line :: lines) = (n.ofLine line).2.after lines := rfl
      rw [step, ih]
      cases h : complexMessage? line with
      | none => simp [ofLine_other n h, complexMessages, h]
      | some m =>
          simp only [ofLine_complex n h, complexMessages, List.filterMap_cons, h, List.length_cons]
          rw [UInt32.add_assoc, Nat.add_comm, UInt32.ofNat_add]
          rfl

end Numbering

/-! ## Numbers -/

/-- The **number of the line** with an index: how many complex messages there are up to that line,
which counts. -/
def complexNumber (lines : List String) (i : Nat) : Nat := (complexMessages (lines.take (i + 1))).length

/-- There are no more complex messages in the first part of a stream than in all of it. -/
theorem length_complexMessages_mono {first all : List String} (h : first <+: all) :
    (complexMessages first).length ≤ (complexMessages all).length :=
  (h.filterMap complexMessage?).length_le

theorem complexNumber_le (lines : List String) (i : Nat) :
    complexNumber lines i ≤ (complexMessages lines).length :=
  length_complexMessages_mono (List.take_prefix _ _)

/-- The number of a complex message is one more than there were before. -/
theorem complexNumber_of_complex (h : (lines[i]?).bind complexMessage? = some m) :
    complexNumber lines i = (complexMessages (lines.take i)).length + 1 := by
  obtain ⟨line, hi, complex⟩ := Option.bind_eq_some_iff.mp h
  simp [complexNumber, complexMessages, List.take_add_one, hi, complex]

/-- So it is the complex message with that number. -/
theorem getElem?_complexMessages (h : (lines[i]?).bind complexMessage? = some m) :
    (complexMessages lines)[complexNumber lines i - 1]? = some m := by
  obtain ⟨line, hi, complex⟩ := Option.bind_eq_some_iff.mp h
  have split : complexMessages lines =
      complexMessages (lines.take i) ++ m :: complexMessages (lines.drop (i + 1)) := by
    conv => lhs; rw [← List.take_append_drop i lines, List.drop_eq_getElem?_toList_append, hi]
    simp [complexMessages, complex]
  rw [complexNumber_of_complex h, split]
  simp

/-- **Numbers grow** from one complex message to the next. -/
theorem complexNumber_lt (hij : i < j) (h : (lines[j]?).bind complexMessage? = some m) :
    complexNumber lines i < complexNumber lines j := by
  have first : lines.take (i + 1) <+: lines.take j := List.take_prefix_take_left (by omega)
  have le := length_complexMessages_mono first
  rw [complexNumber_of_complex h, complexNumber]
  omega

/-- Complex messages are told apart by their numbers. -/
theorem complexNumber_inj {m' : CompilerMessage} (h : (lines[i]?).bind complexMessage? = some m)
    (h' : (lines[j]?).bind complexMessage? = some m') :
    complexNumber lines i = complexNumber lines j ↔ i = j := by
  constructor
  · intro same
    rcases Nat.lt_trichotomy i j with less | equal | more
    · exact absurd same (Nat.ne_of_lt (complexNumber_lt less h'))
    · exact equal
    · exact absurd same.symm (Nat.ne_of_lt (complexNumber_lt more h))
  · exact fun same => same ▸ rfl

/-! ## Marks -/

/-- A text **up to and including its first closing parenthesis**. -/
def throughParenthesis (s : String) : List Char := s.toList.take (s.toList.idxOf ')' + 1)

/-- A number ends at the first closing parenthesis, whatever follows it. -/
theorem throughParenthesis_number (k : Nat) (text : String) :
    throughParenthesis ("(" ++ toString k ++ ") " ++ text) = '(' :: Nat.toDigits 10 k ++ [')'] := by
  have digits : ')' ∉ Nat.toDigits 10 k := fun h =>
    absurd (Nat.isDigit_of_mem_toDigits (by decide) (by decide) h) (by decide)
  have chars : ("(" ++ toString k ++ ") " ++ text).toList =
      ('(' :: Nat.toDigits 10 k) ++ (')' :: ' ' :: text.toList) := by
    simp [Nat.toString_eq_repr, Nat.toList_repr]
  have found : ('(' :: Nat.toDigits 10 k ++ ')' :: ' ' :: text.toList).idxOf ')' =
      ('(' :: Nat.toDigits 10 k).length := by
    rw [List.idxOf_append, if_neg (by simpa using digits)]
    simp
  rw [throughParenthesis, chars, found, List.take_length_add_append]
  rfl

theorem throughParenthesis_inj {k k' : Nat} {text text' : String} :
    throughParenthesis ("(" ++ toString k ++ ") " ++ text) =
      throughParenthesis ("(" ++ toString k' ++ ") " ++ text') ↔ k = k' := by
  rw [throughParenthesis_number, throughParenthesis_number]
  constructor
  · intro same
    have digits : Nat.toDigits 10 k = Nat.toDigits 10 k' := by simpa using same
    have values := congrArg (Nat.ofDigitChars 10 · 0) digits
    simpa using values
  · exact fun same => same ▸ rfl

theorem CompilerMessage.message_of_diagnosticAt {k : UInt32} {s : Span}
    (h : m.diagnosticAt k s = some d) : ∃ text, d.message = mark k ++ text := by
  unfold diagnosticAt at h
  split at h
  · exact ⟨m.textAt s, by rw [← Option.some.inj h]; rfl⟩
  · obtain ⟨label, -, rfl⟩ := Option.map_eq_some_iff.mp h
    exact ⟨label, rfl⟩

/-! ## Every stream -/

/-- A diagnostic **comes from the complex message** of the line with an index, in a stream that is
read with a new numbering. -/
def ComesFrom (lines : List String) (i : Nat) (d : Diagnostic) : Prop :=
  ∃ m ds n, (lines[i]?).bind complexMessage? = some m ∧
    (Numbering.ofLines {} lines)[i]? = some (.ok ds, n) ∧ d ∈ ds

/-- The count behind a line of a stream is its number. -/
theorem toNat_count_ofLines (few : (complexMessages lines).length < UInt32.size)
    {x : Except Malformed (List Diagnostic)} (h : (Numbering.ofLines {} lines)[i]? = some (x, n)) :
    n.count.toNat = complexNumber lines i := by
  rw [Numbering.getElem?_ofLines] at h
  obtain ⟨line, hi, read⟩ := Option.map_eq_some_iff.mp h
  have after : (Numbering.after {} (lines.take (i + 1))) =
      ((Numbering.after {} (lines.take i)).ofLine line).2 := by
    simp [Numbering.after, List.take_add_one, hi]
  have count := Numbering.count_after {} (lines.take (i + 1))
  rw [after, read] at count
  have lt := Nat.lt_of_le_of_lt (complexNumber_le lines i) few
  simp only [UInt32.zero_add] at count
  rw [count]
  exact UInt32.toNat_ofNat_of_lt' lt

/-- **A complex message is read**, and all its diagnostics start with its number. -/
theorem message_of_complex (few : (complexMessages lines).length < UInt32.size)
    (h : (lines[i]?).bind complexMessage? = some m) :
    ∃ ds n, (Numbering.ofLines {} lines)[i]? = some (.ok ds, n) ∧
      ∀ d ∈ ds, ∃ text, d.message = "(" ++ toString (complexNumber lines i) ++ ") " ++ text := by
  obtain ⟨line, hi, complex⟩ := Option.bind_eq_some_iff.mp h
  have read := Numbering.getElem?_ofLines {} lines i
  rw [hi, Option.map_some, Numbering.ofLine_complex _ complex] at read
  refine ⟨_, _, read, fun d hd => ?_⟩
  obtain ⟨s, -, hs⟩ := List.mem_filterMap.mp hd
  obtain ⟨text, message⟩ := CompilerMessage.message_of_diagnosticAt hs
  refine ⟨text, ?_⟩
  rw [message, mark, toNat_count_ofLines few read]

/-- **The numbers of complex messages**, over every stream with fewer than `2^32` of them.

Every line has a result, and the count behind it is the number of complex messages up to this line.
The line of a complex message is read without an error, and every diagnostic of the `k`-th complex
message starts with `k` in parentheses. Whatever their texts are, two diagnostics of complex messages
agree up to and including the first closing parenthesis exactly if they come from the same
message. -/
theorem complex_messages_numbered (lines : List String)
    (few : (complexMessages lines).length < UInt32.size) :
    let results := Numbering.ofLines {} lines
    results.length = lines.length ∧
    (∀ i x n, results[i]? = some (x, n) →
      n.count.toNat = (complexMessages (lines.take (i + 1))).length) ∧
    (∀ i m, (lines[i]?).bind complexMessage? = some m →
      let k := (complexMessages (lines.take (i + 1))).length
      (complexMessages lines)[k - 1]? = some m ∧
      ∃ ds n, results[i]? = some (.ok ds, n) ∧
        ∀ d ∈ ds, ∃ text, d.message = "(" ++ toString k ++ ") " ++ text) ∧
    (∀ i j d d', ComesFrom lines i d → ComesFrom lines j d' →
      (throughParenthesis d.message = throughParenthesis d'.message ↔ i = j)) := by
  intro results
  refine ⟨Numbering.length_ofLines _ _, fun i x n h => toNat_count_ofLines few h,
    fun i m h => ⟨getElem?_complexMessages h, message_of_complex few h⟩, ?_⟩
  · rintro i j d d' ⟨m, ds, n, complex, read, hd⟩ ⟨m', ds', n', complex', read', hd'⟩
    obtain ⟨xs, x, found, starts⟩ := message_of_complex few complex
    obtain ⟨xs', x', found', starts'⟩ := message_of_complex few complex'
    rw [read] at found
    rw [read'] at found'
    obtain ⟨rfl, -⟩ : ds = xs ∧ n = x := by simpa using found
    obtain ⟨rfl, -⟩ : ds' = xs' ∧ n' = x' := by simpa using found'
    obtain ⟨text, message⟩ := starts d hd
    obtain ⟨text', message'⟩ := starts' d' hd'
    rw [message, message', throughParenthesis_inj, complexNumber_inj complex complex']

def labelLine (label : String) : String :=
  "\x7b\"reason\":\"compiler-message\",\"message\":\x7b\"spans\":[\x7b\"label\":\"" ++ label ++
    "\"\x7d,\x7b\x7d]\x7d\x7d"

/-- Two complex messages and between them a line that is no event. The label of the first one looks
like the number of the second one. -/
def mislabelled : List String := [labelLine "(2) a", "\x7b", labelLine "b"]

theorem complex_messages_numbered_mislabelled :
    let d := Span.diagnostic {} .error "(1) (2) a"
    let d' := Span.diagnostic {} .error "(2) b"
    ComesFrom mislabelled 0 d ∧ ComesFrom mislabelled 2 d' ∧
      throughParenthesis d.message ≠ throughParenthesis d'.message := by
  intro d d'
  have few : (complexMessages mislabelled).length < UInt32.size :=
    Nat.lt_of_le_of_lt (length_complexMessages_le _) (by decide)
  obtain ⟨-, -, complex, apart⟩ := complex_messages_numbered mislabelled few
  have found : (Numbering.ofLines {} mislabelled).map (·.1.toOption) =
      [some [d], none, some [d']] := by decide +kernel
  have comes : ∀ i x, ((mislabelled[i]?).bind complexMessage?).isSome = true →
      (((Numbering.ofLines {} mislabelled).map (·.1.toOption))[i]?).any (·.any (x ∈ ·)) = true →
      ComesFrom mislabelled i x := by
    intro i x carries holds
    obtain ⟨m, hm⟩ := Option.isSome_iff_exists.mp carries
    obtain ⟨-, ds, n, read, -⟩ := complex i m hm
    exact ⟨m, ds, n, hm, read, by simpa [read, Except.toOption] using holds⟩
  rw [found] at comes
  have first := comes 0 d (by decide +kernel) (by decide)
  have second := comes 2 d' (by decide +kernel) (by decide)
  exact ⟨first, second, fun same => absurd ((apart 0 2 d d' first second).mp same) (by decide)⟩

end BuildRunner
