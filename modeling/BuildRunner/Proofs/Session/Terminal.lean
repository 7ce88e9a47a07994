import BuildRunner.Proofs.Coordinator.Hosted
import BuildRunner.Proofs.Session.Leaving
import BuildRunner.Session.Terminal

set_option autoImplicit false

/-! # A session at a terminal makes plays

A terminal lets its session and its coordinator on a host go on together, and prints what comes of it.
Whatever a person does at it and however long the person waits, some play leads from the session as it
was to the session as it is, with every signal delivered (`plays_of_visited`). So what holds of every
play holds at every terminal: the program leaves nothing running (`idle_of_left`).
-/

namespace BuildRunner

open Coordinator (Action new run)
open Host (Machine Surroundings)
open Sitting (play begin)

/-- Steps that a host lets happen are **steps of a play**. -/
theorem Sitting.play_acts (b : Breakdown) (s : Sitting) {as : List Action}
    (hosted : ∀ a ∈ as, a.isHosted = true) :
    play b s (as.map .act) = { s with coordinator := run b s.coordinator as } := by
  induction as generalizing s with
  | nil => rfl
  | cons a as ih =>
      rw [List.forall_mem_cons] at hosted
      have acts : s.apply b (.act a) = { s with coordinator := Coordinator.step b s.coordinator a } := by
        cases a with
        | call d => cases hosted.1
        | proceed k o | drive line o elapsed | follow o => rfl
      show play b (s.apply b (.act a)) (as.map .act) = _
      rw [acts, ih _ hosted.2]
      rfl

theorem Coordinator.Action.delivers_of_isHosted {a : Action} (h : a.isHosted = true) :
    (Sitting.Step.act a).delivers = true := by
  cases a with
  | call d => cases h
  | proceed k o => exact h
  | drive line o elapsed | follow o => rfl

namespace Terminal

/-- The session at a terminal, with its coordinator. -/
def sitting (t : Terminal) : Sitting := ⟨t.directory, t.live.coordinator, t.stage⟩

/-- A terminal **plays on**: some play in which every signal is delivered leads from its session as it
was to its session as it is. -/
def Plays (t t' : Terminal) : Prop :=
  t'.live.breakdown = t.live.breakdown ∧ ∃ xs : List Sitting.Step, (∀ x ∈ xs, x.delivers = true) ∧
    t'.sitting = play t.live.breakdown t.sitting xs

variable {t t' t'' : Terminal} {r : Session.Reaction}

theorem Plays.of_eq (breakdown : t'.live.breakdown = t.live.breakdown) (sitting : t'.sitting = t.sitting) :
    t.Plays t' :=
  ⟨breakdown, [], nofun, sitting⟩

theorem Plays.refl (t : Terminal) : t.Plays t := .of_eq rfl rfl

theorem Plays.trans (h : t.Plays t') (h' : t'.Plays t'') : t.Plays t'' := by
  obtain ⟨same, xs, delivers, leads⟩ := h
  obtain ⟨same', xs', delivers', leads'⟩ := h'
  refine ⟨same'.trans same, xs ++ xs', List.forall_mem_append.mpr ⟨delivers, delivers'⟩, ?_⟩
  rw [leads', leads, same, Sitting.play_append]

/-! ## Output -/

/-- Printing changes nothing in a session, -/
theorem plays_flush (t : Terminal) : t.Plays t.flush := .of_eq rfl rfl

/-- nor does telling results. -/
theorem plays_tell (t : Terminal) : t.Plays t.tell := .of_eq rfl rfl

/-! ## Steps -/

/-- A coordinator that a host carries on plays its part. -/
theorem plays_live {l : Live} (h : t.live.Carries l) : t.Plays { t with live := l } := by
  obtain ⟨same, as, hosted, leads⟩ := h
  refine ⟨same, as.map .act, List.forall_mem_map.mpr fun a ha => ?_, ?_⟩
  · exact Action.delivers_of_isHosted (hosted a ha)
  · rw [Sitting.play_acts _ _ hosted]
    exact congrArg (Sitting.mk t.directory · t.stage) leads

/-- **What a terminal does for a reaction** is the reaction itself, and what the coordinator can do then
without waiting. -/
theorem plays_react {x : Sitting.Step} (delivers : x.delivers = true)
    (reacts : t.sitting.apply t.live.breakdown x = t.sitting.react r) : t.Plays (t.react r) := by
  unfold react
  dsimp only
  split
  · rename_i silent
    refine ⟨rfl, [x], List.forall_mem_singleton.mpr delivers, ?_⟩
    show _ = t.sitting.apply t.live.breakdown x
    rw [reacts, Sitting.react, silent]
    rfl
  · rename_i d demands
    have called : t.Plays
        { t with stage := r.stage, live := { t.live with coordinator := t.live.coordinator.call d } } := by
      refine ⟨rfl, [x], List.forall_mem_singleton.mpr delivers, ?_⟩
      show _ = t.sitting.apply t.live.breakdown x
      rw [reacts, Sitting.react, demands]
      rfl
    refine (called.trans (plays_live (t.live.carries_call d))).trans ?_
    exact .of_eq rfl rfl

/-- **One thing that a session does** at a terminal is one step of it. -/
theorem plays_goOn? (h : t.goOn? = some t') : t.Plays t' := by
  unfold goOn? at h
  split at h
  · rename_i r goes
    obtain rfl := Option.some.inj h
    refine plays_react (x := .goOn t.time) rfl ?_
    show ((Session.goOn t.time t.live.coordinator t.stage).map t.sitting.react).getD t.sitting = _
    rw [goes]
    rfl
  · split at h
    · cases h
    · rename_i e rest _
      obtain ⟨r, noticed, rfl⟩ := Option.map_eq_some_iff.mp h
      have reads : t.Plays { t with input := rest } := .of_eq rfl rfl
      refine reads.trans (plays_react (x := .notice e) rfl ?_)
      show ((Session.notice t.directory t.live.coordinator t.stage e).map t.sitting.react).getD
        t.sitting = _
      rw [noticed]
      rfl

theorem plays_settle (fuel : Nat) (t : Terminal) : t.Plays (t.settle fuel) := by
  induction fuel generalizing t with
  | zero => exact .refl t
  | succ fuel ih =>
      unfold settle
      split
      · rename_i t' goes
        exact (plays_goOn? goes).trans (ih t')
      · exact .refl t

theorem plays_poll (t : Terminal) : t.Plays t.poll.2 := by
  have shown : t.Plays t.flush.tell := (plays_flush t).trans (plays_tell _)
  unfold poll
  dsimp only
  split
  · rename_i t' goes
    exact shown.trans (plays_goOn? goes)
  · refine (shown.trans (plays_live (Live.carries_poll _))).trans ?_
    exact (plays_flush _).trans (plays_tell _)

/-- **Waiting** at a terminal plays on. -/
theorem plays_await (goal : Terminal → Bool) (limit : Option Nat) (fuel : Nat) (t : Terminal) :
    t.Plays (ongoing.await goal limit fuel t) := by
  refine Host.Ongoing.await_induction (P := t.Plays) (fun x hx => hx.trans (plays_poll x))
    (fun x hx => hx.trans (plays_live x.live.carries_pull)) (fun limit x y later hx => ?_)
    goal limit fuel (.refl t)
  obtain ⟨live, moment, rfl⟩ := Option.map_eq_some_iff.mp later
  exact hx.trans (plays_live (Live.carries_later moment))

/-! ## A person -/

theorem plays_type (t : Terminal) (bytes : List UInt8) : t.Plays (t.type bytes) := by
  have typed : t.Plays { t with input := t.input ++ bytes } := .of_eq rfl rfl
  exact typed.trans (plays_settle _ _)

theorem plays_interrupt (t : Terminal) : t.Plays t.interrupt := by
  unfold interrupt
  split
  · exact .of_eq rfl rfl
  · split
    · rename_i r noticed
      refine plays_react (x := .notice .interrupt) rfl ?_
      show ((Session.notice t.directory t.live.coordinator t.stage .interrupt).map
        t.sitting.react).getD t.sitting = _
      rw [noticed]
      rfl
    · exact .refl t

/-- The terminals to which a person can bring a terminal, by **what can be done at it**. -/
inductive Visited (t : Terminal) : Terminal → Prop
  | here : Visited t t
  | type {t' : Terminal} (bytes : List UInt8) : Visited t t' → Visited t (t'.type bytes)
  | endInput {t' : Terminal} : Visited t t' → Visited t t'.endInput
  | interrupt {t' : Terminal} : Visited t t' → Visited t t'.interrupt
  | finish {t' : Terminal} : Visited t t' → Visited t t'.finish
  | wait {t' : Terminal} (goal : Terminal → Bool) (time : Nat) :
      Visited t t' → Visited t (t'.wait goal time)

/-- **Whatever is done at a terminal is a play** of its session. -/
theorem plays_of_visited (h : t.Visited t') : t.Plays t' := by
  induction h with
  | here => exact .refl t
  | type bytes _ ih => exact ih.trans (plays_type _ bytes)
  | endInput _ ih => exact ih.trans (.of_eq rfl rfl)
  | interrupt _ ih => exact ih.trans (plays_interrupt _)
  | finish _ ih => exact ih.trans (plays_await _ _ _ _)
  | wait goal time _ ih => exact ih.trans (plays_await _ _ _ _)

/-! ## The program -/

/-- A session that begins at a terminal **is a play from its beginning**. -/
theorem exists_play_start (host : Machine) (around : Surroundings) (dir : String)
    (timeText : Nat → String) (tool : Tool) (w : CommandLine.Work) :
    ∃ xs : List Sitting.Step, (∀ x ∈ xs, x.delivers = true) ∧
      (start ⟨host, around, new tool, .never, [], none⟩ dir timeText w).sitting =
        play .never (begin tool dir w) xs ∧
      (start ⟨host, around, new tool, .never, [], none⟩ dir timeText w).live.breakdown = .never := by
  unfold start react begin Sitting.react
  cases demands : (Session.opening dir (new tool) w).demand with
  | none => exact ⟨[], nofun, by simp only [demands]; rfl, by simp only [demands]; rfl⟩
  | some d =>
      let l : Live := ⟨host, around, new tool, .never, [], none⟩
      obtain ⟨same, as, hosted, leads⟩ := l.carries_call d
      refine ⟨as.map .act, List.forall_mem_map.mpr fun a ha => ?_, ?_, ?_⟩
      · exact Action.delivers_of_isHosted (hosted a ha)
      · rw [Sitting.play_acts _ _ hosted]
        simp only [demands]
        exact congrArg (Sitting.mk dir · _) leads
      · simp only [demands]
        exact same

/-- **The program leaves nothing running**: when it was to read commands and has ended, whatever the
person did at the terminal, it reports success, nothing is running, and all drivers have left. -/
theorem idle_of_left {host : Machine} {around : Surroundings} {timeText : Nat → String}
    {args : List String} {p : Session.Prepared}
    (prepared : Session.ofArgs (timeText host.clock) host.files around args = .ok p)
    (interactive : p.work = .interactive)
    (visited : (Terminal.run host around timeText args).Visited t) {n : Nat}
    (isOver : t.status? = some n) :
    n = Session.success ∧ t.live.coordinator.state = .idle ∧
      ∀ x ∈ t.live.coordinator.tasks, x.driver.isAtWork = false := by
  obtain ⟨xs, delivers, begins, unbroken⟩ :=
    exists_play_start host around p.directory timeText p.tool p.work
  obtain ⟨-, ys, delivers', goes_on⟩ := plays_of_visited visited
  have running : Terminal.run host around timeText args =
      start ⟨host, around, new p.tool, .never, [], none⟩ p.directory timeText p.work := by
    rw [Terminal.run, prepared]
  rw [running, unbroken, begins, ← Sitting.play_append, interactive] at goes_on
  have tidy : t.sitting.Tidy := by
    rw [goes_on]
    exact (Sitting.tidy_begin p.tool p.directory).play (List.forall_mem_append.mpr ⟨delivers, delivers'⟩)
  have ended : t.sitting.stage = .finished n := by
    unfold status? at isOver
    split at isOver
    · cases isOver
    · split at isOver
      · rename_i m stage
        exact stage.trans (congrArg _ (Option.some.inj isOver))
      · cases isOver
  obtain ⟨success, idle⟩ := tidy.finished n ended
  exact ⟨success, idle, fun x hx => tidy.serial.left_of_idle idle hx⟩

end Terminal
end BuildRunner
