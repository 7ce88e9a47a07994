import BuildRunner.Proofs.Coordinator.Cancellation
import BuildRunner.Proofs.Coordinator.Serial
import BuildRunner.Session.Basic

set_option autoImplicit false

/-! # A session and its coordinator

A `Sitting` is a session together with the coordinator that it serves one person with. What happens in
it comes in any order: somebody takes a step in the coordinator, the session goes on because a call has
ended or a task has come to its result, or the person does something. A *play* is any sequence of such
steps.

A session calls the coordinator only when its last call has ended (`goOn_cases`, `notice_calls`), so
it keeps to one call at a time (`Serial.moved`).
-/

namespace BuildRunner

open Coordinator (Action new step run)

namespace Session

/-- The caller on which a session **waits** in a stage. -/
def Stage.caller? : Stage → Option Nat
  | .starting k | .interrupting k | .obeying k | .stopping k | .leaving k => some k
  | .running _ | .reading | .finished _ => none

variable {c : Coordinator} {s : Stage} {r : Reaction} {k : Nat} {dir time : String} {e : Event}

/-- A call has ended exactly if its caller is in a stage in which it has. -/
theorem ending?_isSome : (ending? c k).isSome = true ↔ ∃ st, c.stage? k = some st ∧ st.isEnded = true := by
  unfold ending?
  cases c.stage? k with
  | none => simp
  | some st => cases st <;> simp [BuildRunner.Stage.isEnded]

/-- A session **goes on by itself** only when the call on which it waits has ended; it calls nobody. -/
theorem goOn_cases (h : goOn time c s = some r) : r.demand = none ∧ r.stage.caller? = none ∧
    ∀ k, s.caller? = some k → ∃ st, c.stage? k = some st ∧ st.isEnded = true := by
  have ended : ∀ {k : Nat} {f : Except String Answer → Reaction}, (ending? c k).map f = some r →
      (∃ e, r = f e) ∧ ∃ st, c.stage? k = some st ∧ st.isEnded = true := by
    intro k f h
    obtain ⟨e, he, rfl⟩ := Option.map_eq_some_iff.mp h
    exact ⟨⟨e, rfl⟩, ending?_isSome.mp (by rw [he]; rfl)⟩
  cases s with
  | starting k =>
      obtain ⟨⟨e, rfl⟩, isOver⟩ := ended h
      refine ⟨?_, ?_, fun j hj => ?_⟩
      · split <;> rfl
      · split <;> rfl
      · obtain rfl := Option.some.inj hj
        exact isOver
  | interrupting k | obeying k | stopping k | leaving k =>
      obtain ⟨⟨e, rfl⟩, isOver⟩ := ended h
      refine ⟨rfl, rfl, fun j hj => ?_⟩
      obtain rfl := Option.some.inj hj
      exact isOver
  | running line =>
      obtain ⟨x, -, rfl⟩ := Option.map_eq_some_iff.mp h
      exact ⟨rfl, rfl, nofun⟩
  | reading | finished n => cases h

/-- A typed line is carried out by one call; whatever ends a task or the session calls for a stop. -/
theorem obey_cases (dir : String) (k : Nat) (t : Typed) :
    ∃ d, (obey dir k t).demand = some d ∧ ((obey dir k t).stage = .obeying k ∨
      d = .stop ∧ ((obey dir k t).stage = .stopping k ∨ (obey dir k t).stage = .leaving k)) := by
  by_cases leaves : t.command = "quit" ∨ t.command = "exit"
  · rw [obey, if_pos leaves]
    exact ⟨_, rfl, .inr ⟨rfl, .inr rfl⟩⟩
  by_cases stops : t.command = "stop"
  · rw [obey, if_neg leaves, if_pos stops]
    exact ⟨_, rfl, .inr ⟨rfl, .inl rfl⟩⟩
  by_cases checks : t.command = "check"
  · rw [obey, if_neg leaves, if_neg stops, if_pos checks]
    exact ⟨_, rfl, .inl rfl⟩
  · rw [obey, if_neg leaves, if_neg stops, if_neg checks]
    exact ⟨_, rfl, .inl rfl⟩

/-- A session that awaits a command **reads on, or makes one call**. -/
theorem read_cases (dir : String) (k : Nat) (e : Event) :
    (read dir k e).demand = none ∧ (read dir k e).stage = .reading ∨
    ∃ d, (read dir k e).demand = some d ∧ ((read dir k e).stage = .obeying k ∨
      d = .stop ∧ ((read dir k e).stage = .stopping k ∨ (read dir k e).stage = .leaving k)) := by
  cases e with
  | line text =>
      cases typed : Typed.parse text with
      | none =>
          rw [read, typed]
          exact .inl ⟨rfl, rfl⟩
      | some t =>
          rw [read, typed]
          exact .inr (obey_cases dir k t)
  | ended | unreadable reason => exact .inr ⟨_, rfl, .inr ⟨rfl, .inr rfl⟩⟩
  | interrupt => exact .inr ⟨_, rfl, .inr ⟨rfl, .inl rfl⟩⟩

/-- A session **takes notice** of what a person does only while it awaits a command or its only task
runs. -/
theorem notice_cases (h : notice dir c s e = some r) :
    s = .reading ∧ r = read dir c.callers.length e ∨
      (∃ line, s = .running line) ∧ e = .interrupt ∧
        r = ⟨.interrupting c.callers.length, some .stop, []⟩ := by
  cases s with
  | reading => exact .inl ⟨rfl, (Option.some.inj h).symm⟩
  | running line =>
      cases e with
      | interrupt => exact .inr ⟨⟨line, rfl⟩, rfl, (Option.some.inj h).symm⟩
      | _ => cases h
  | _ => cases e <;> cases h

/-- Whatever a session takes notice of, it waits for no call before, and afterwards for the call that it
makes then, if any. -/
theorem notice_calls (h : notice dir c s e = some r) : s.caller? = none ∧
    (r.demand = none ∧ r.stage.caller? = none ∨
      ∃ d, r.demand = some d ∧ r.stage.caller? = some c.callers.length) := by
  rcases notice_cases h with ⟨rfl, rfl⟩ | ⟨⟨line, rfl⟩, rfl, rfl⟩
  · refine ⟨rfl, ?_⟩
    rcases read_cases dir c.callers.length e with ⟨silent, reads⟩ | ⟨d, calls, obeys | ⟨-, stops | leaves⟩⟩
    · exact .inl ⟨silent, by rw [reads]; rfl⟩
    · exact .inr ⟨d, calls, by rw [obeys]; rfl⟩
    · exact .inr ⟨d, calls, by rw [stops]; rfl⟩
    · exact .inr ⟨d, calls, by rw [leaves]; rfl⟩
  · exact ⟨rfl, .inr ⟨_, rfl, rfl⟩⟩

/-- Nothing that a person does ends a session at once. -/
theorem notice_ne_finished (h : notice dir c s e = some r) (n : Nat) : r.stage ≠ .finished n := by
  intro isOver
  rcases notice_cases h with ⟨-, rfl⟩ | ⟨-, -, rfl⟩
  · rcases read_cases dir c.callers.length e with ⟨-, other⟩ | ⟨d, -, other | ⟨-, other | other⟩⟩ <;>
      rw [other] at isOver <;> cases isOver
  · cases isOver

end Session

/-! ## Plays -/

/-- A **session with its coordinator**. -/
structure Sitting where
  directory : String
  coordinator : Coordinator
  stage : Session.Stage

namespace Sitting

inductive Step where
  /-- Somebody takes a step in the coordinator. -/
  | act (a : Action)
  /-- The session goes on, if it can; the time is shown with what it prints. -/
  | goOn (time : String)
  /-- The person does something. -/
  | notice (e : Session.Event)

def react (s : Sitting) (r : Session.Reaction) : Sitting :=
  { s with stage := r.stage, coordinator := r.demand.elim s.coordinator s.coordinator.call }

theorem react_silent {s : Sitting} {r : Session.Reaction} (h : r.demand = none) :
    (s.react r).coordinator = s.coordinator := by
  rw [react, h]
  rfl

/-- The sitting after a step. Nobody but its session calls the coordinator. -/
def apply (b : Breakdown) (s : Sitting) : Step → Sitting
  | .act (.call _) => s
  | .act a => { s with coordinator := step b s.coordinator a }
  | .goOn time => ((Session.goOn time s.coordinator s.stage).map s.react).getD s
  | .notice e => ((Session.notice s.directory s.coordinator s.stage e).map s.react).getD s

def play (b : Breakdown) (s : Sitting) (xs : List Step) : Sitting := xs.foldl (apply b) s

def begin (tool : Tool) (dir : String) (w : CommandLine.Work) : Sitting :=
  let r := Session.opening dir (new tool) w
  react ⟨dir, new tool, r.stage⟩ r

def Step.delivers : Step → Bool
  | .act (.proceed _ o) => o.signal.isNone
  | _ => true

def Step.actor? : Step → Option Coordinator.Actor
  | .act a => a.actor?
  | _ => none

/-- A **cooperative play**: while somebody is in the middle of a go, nobody else moves. -/
def Cooperative (b : Breakdown) (s : Sitting) : List Step → Prop
  | [] => True
  | x :: xs => (∀ y ∈ s.coordinator.midway, x.actor? = some y) ∧ Cooperative b (s.apply b x) xs

instance decidableCooperative (b : Breakdown) (s : Sitting) :
    (xs : List Step) → Decidable (Cooperative b s xs)
  | [] => .isTrue trivial
  | x :: xs =>
    have := decidableCooperative b (s.apply b x) xs
    inferInstanceAs (Decidable (_ ∧ _))

variable {b : Breakdown} {s : Sitting} {x : Step} {xs : List Step} {a : Action} {n k : Nat}

theorem play_append (b : Breakdown) (s : Sitting) (xs ys : List Step) :
    play b s (xs ++ ys) = play b (play b s xs) ys := by
  simp [play]

/-- **What a step can do**: somebody takes a step in the coordinator, or the session reacts. -/
inductive Moved (b : Breakdown) (s : Sitting) : Step → Sitting → Prop
  | rest {x : Step} : Moved b s x s
  | act {a : Action} (nobody : ∀ d, a ≠ .call d) :
      Moved b s (.act a) { s with coordinator := step b s.coordinator a }
  | goOn {time : String} {r : Session.Reaction}
      (goes : Session.goOn time s.coordinator s.stage = some r) : Moved b s (.goOn time) (s.react r)
  | notice {e : Session.Event} {r : Session.Reaction}
      (noticed : Session.notice s.directory s.coordinator s.stage e = some r) :
      Moved b s (.notice e) (s.react r)

theorem apply_moved (b : Breakdown) (s : Sitting) (x : Step) : Moved b s x (s.apply b x) := by
  cases x with
  | act a =>
      cases a with
      | call d => exact .rest
      | proceed k o | drive line o elapsed | follow o => exact .act nofun
  | goOn time =>
      rw [apply]
      cases h : Session.goOn time s.coordinator s.stage with
      | none => exact .rest
      | some r => exact .goOn h
  | notice e =>
      rw [apply]
      cases h : Session.notice s.directory s.coordinator s.stage e with
      | none => exact .rest
      | some r => exact .notice h

/-- What every step keeps holds after every play. -/
theorem play_induction {P : Sitting → Prop} {Q : Step → Prop}
    (hstep : ∀ s x s', Moved b s x s' → Q x → P s → P s') (hs : P s) (hx : ∀ x ∈ xs, Q x) :
    P (play b s xs) := by
  induction xs generalizing s with
  | nil => exact hs
  | cons x xs ih =>
      rw [List.forall_mem_cons] at hx
      exact ih (hstep s x _ (apply_moved b s x) hx.1 hs) hx.2

/-- The coordinator of a sitting **makes a run**. -/
theorem exists_run (b : Breakdown) (s : Sitting) (xs : List Step) :
    ∃ as, (play b s xs).coordinator = run b s.coordinator as := by
  refine play_induction (P := fun y => ∃ as, y.coordinator = run b s.coordinator as)
    (Q := fun _ => True) (fun y x y' moved _ ⟨as, h⟩ => ?_) ⟨[], rfl⟩ (fun _ _ => trivial)
  have later : ∀ a : Action, step b y.coordinator a = run b s.coordinator (as ++ [a]) := fun a => by
    rw [Coordinator.run_append, ← h]
    rfl
  have reacts : ∀ r : Session.Reaction, ∃ as, (y.react r).coordinator = run b s.coordinator as := by
    intro r
    cases hd : r.demand with
    | none => exact ⟨as, by simp [react, hd, h]⟩
    | some d => exact ⟨_, by rw [react, hd]; exact later (.call d)⟩
  cases moved with
  | rest => exact ⟨as, h⟩
  | act _ => exact ⟨_, later _⟩
  | goOn _ => exact reacts _
  | notice _ => exact reacts _

/-- **The coordinator of a session** has come about by a run from a new one. -/
theorem exists_run_begin (tool : Tool) (dir : String) (w : CommandLine.Work) (b : Breakdown)
    (xs : List Step) : ∃ as, (play b (begin tool dir w) xs).coordinator = run b (new tool) as := by
  obtain ⟨as, later⟩ := exists_run b (begin tool dir w) xs
  cases hd : (Session.opening dir (new tool) w).demand with
  | none => exact ⟨as, by rw [later, begin, react, hd]; rfl⟩
  | some d => exact ⟨.call d :: as, by rw [later, begin, react, hd]; rfl⟩

/-! ## One call at a time -/

/-- A sitting **keeps to one call at a time**: that on which its session waits. -/
def Serial (s : Sitting) : Prop := s.coordinator.Serial s.stage.caller?

/-- The call on which a session has waited has ended when it goes on. -/
theorem Serial.rest {time : String} {r : Session.Reaction} (hs : s.Serial)
    (goes : Session.goOn time s.coordinator s.stage = some r) : s.coordinator.Serial none := by
  obtain ⟨-, -, ended⟩ := Session.goOn_cases goes
  unfold Serial at hs
  cases waits : s.stage.caller? with
  | none => exact waits ▸ hs
  | some k =>
      obtain ⟨st, hk, hended⟩ := ended k waits
      rw [waits] at hs
      exact hs.rest hk hended

theorem Serial.moved {s' : Sitting} (hs : s.Serial) (moved : Moved b s x s') : s'.Serial := by
  cases moved with
  | rest => exact hs
  | act nobody => exact Coordinator.Serial.step hs b nobody
  | goOn goes =>
      obtain ⟨silent, waits, -⟩ := Session.goOn_cases goes
      rw [Serial, react, silent, waits]
      exact hs.rest goes
  | notice noticed =>
      obtain ⟨free, next⟩ := Session.notice_calls noticed
      rw [Serial, free] at hs
      rcases next with ⟨silent, waits⟩ | ⟨d, calls, waits⟩
      · rw [Serial, react, silent, waits]
        exact hs
      · rw [Serial, react, calls, waits]
        exact hs.call d

theorem serial_begin (tool : Tool) (dir : String) (w : CommandLine.Work) : (begin tool dir w).Serial := by
  unfold Serial begin Session.opening
  cases Session.demandOf dir w with
  | none => exact Coordinator.serial_new tool
  | some d => exact (Coordinator.serial_new tool).call d

end Sitting
end BuildRunner
