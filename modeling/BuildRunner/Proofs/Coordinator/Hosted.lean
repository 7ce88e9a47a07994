import BuildRunner.Coordinator.Live
import BuildRunner.Proofs.Coordinator.Growth

set_option autoImplicit false

/-! # A coordinator on a host makes runs

What a host decides and lets happen is some run of the coordinator in which nobody comes and every
signal is delivered: `Live.Carries` says so of the states of a coordinator on a host, and each operation
of a host carries (`carries_poll`, `carries_call`). So what holds of every run holds on every host.
-/

namespace BuildRunner

open Coordinator (Action run)

/-- What holds while nobody waits **holds after every wait**, if no step of what goes on breaks it. -/
theorem Host.Ongoing.await_induction {σ : Type} {o : Host.Ongoing σ} {P : σ → Prop}
    (poll : ∀ x, P x → P (o.poll x).2) (pull : ∀ x, P x → P (o.pull x).2)
    (later : ∀ limit x y, o.later? limit x = some y → P x → P y) (goal : σ → Bool)
    (limit : Option Nat) (fuel : Nat) {x : σ} (hx : P x) : P (o.await goal limit fuel x) := by
  -- By induction on the fuel, along the definition: what is returned came out of a poll, a pull or
  -- a later moment, or is what the wait began with.
  induction fuel generalizing x with
  | zero => exact hx
  | succ fuel ih =>
      unfold await
      split
      · exact hx
      have polled := poll x hx
      split
      · rename_i y moved
        exact ih (by rw [moved] at polled; exact polled)
      · rename_i y moved
        rw [moved] at polled
        have pulled := pull y polled
        dsimp only
        have again := poll _ pulled
        split
        · rename_i z moved'
          exact ih (by rw [moved'] at again; exact again)
        · rename_i z moved'
          rw [moved'] at again
          split
          · exact again
          split
          · exact ih again
          split
          · rename_i w goes_on
            exact ih (later _ _ _ goes_on again)
          · exact again

/-- Whether a host can let an action happen: nobody comes by it, and signals are delivered. -/
def Coordinator.Action.isHosted : Action → Bool
  | .call _ => false
  | .proceed _ o => o.signal.isNone
  | .drive _ _ _ | .follow _ => true

namespace Coordinator

theorem exists_driveOn (c : Coordinator) (b : Breakdown) (line : Nat) (o : Offer) (elapsed : Elapsed)
    (n : Nat) : ∃ as : List Action, (∀ a ∈ as, a.isHosted = true) ∧
      c.driveOn b line o elapsed n = run b c as := by
  induction n generalizing c with
  | zero => exact ⟨[], nofun, rfl⟩
  | succ n ih =>
      unfold driveOn
      split
      · exact ⟨[], nofun, rfl⟩
      · obtain ⟨as, hosted, goes_on⟩ := ih (c.drive b line o elapsed)
        exact ⟨.drive line o elapsed :: as, List.forall_mem_cons.mpr ⟨rfl, hosted⟩, goes_on⟩

/-- What a driver does in one go is a run. -/
theorem exists_driveToRest (c : Coordinator) (b : Breakdown) (line : Nat) (o : Offer)
    (elapsed : Elapsed) : ∃ as : List Action, (∀ a ∈ as, a.isHosted = true) ∧
      c.driveToRest b line o elapsed = run b c as := by
  obtain ⟨as, hosted, goes_on⟩ := exists_driveOn (c.drive b line o elapsed) b line o elapsed
    ((((c.drive b line o elapsed).tasks[line]?).map fun t => t.driver.bound).getD 0)
  exact ⟨.drive line o elapsed :: as, List.forall_mem_cons.mpr ⟨rfl, hosted⟩, goes_on⟩

end Coordinator

namespace Live

/-- **A host carries a coordinator on**: it makes a run in which nobody comes and every signal is
delivered. -/
def Carries (l l' : Live) : Prop :=
  l'.breakdown = l.breakdown ∧ ∃ as : List Action, (∀ a ∈ as, a.isHosted = true) ∧
    l'.coordinator = run l.breakdown l.coordinator as

variable {l l' l'' : Live}

theorem Carries.of_eq (breakdown : l'.breakdown = l.breakdown)
    (coordinator : l'.coordinator = l.coordinator) : l.Carries l' :=
  ⟨breakdown, [], nofun, coordinator⟩

theorem Carries.refl (l : Live) : l.Carries l := .of_eq rfl rfl

theorem Carries.trans (h : l.Carries l') (h' : l'.Carries l'') : l.Carries l'' := by
  obtain ⟨same, as, hosted, leads⟩ := h
  obtain ⟨same', as', hosted', leads'⟩ := h'
  refine ⟨same'.trans same, as ++ as', List.forall_mem_append.mpr ⟨hosted, hosted'⟩, ?_⟩
  rw [leads', leads, same, Coordinator.run_append]

/-! ## Steps -/

/-- Whatever a host does for a caller that takes a step, the step is one of the coordinator. -/
theorem proceed_eq (l : Live) (k : Nat) : (l.proceed k).breakdown = l.breakdown ∧
    ∃ failure, (l.proceed k).coordinator =
      l.coordinator.proceed l.breakdown k { launch := failure } := by
  unfold proceed
  dsimp only
  split
  · exact ⟨rfl, none, rfl⟩
  · split
    · rename_i e _
      exact ⟨rfl, some e, rfl⟩
    · split
      · exact ⟨rfl, none, rfl⟩
      · split
        · exact ⟨rfl, none, rfl⟩
        · exact ⟨rfl, none, rfl⟩

theorem carries_proceed (l : Live) (k : Nat) : l.Carries (l.proceed k) := by
  obtain ⟨same, failure, steps⟩ := proceed_eq l k
  refine ⟨same, [.proceed k { launch := failure }], fun a ha => ?_, steps⟩
  rw [List.mem_singleton.mp ha]
  rfl

theorem carries_proceedOn (l : Live) (k n : Nat) : l.Carries (l.proceedOn k n) := by
  induction n generalizing l with
  | zero => exact .refl l
  | succ n ih =>
      unfold proceedOn
      split
      · exact .refl l
      · exact (carries_proceed l k).trans (ih _)

theorem carries_advance (l : Live) (k : Nat) : l.Carries (l.advance k).2 := by
  unfold advance
  split
  · exact .refl l
  · exact carries_proceedOn l k stepsInOneGo

theorem release_eq (l : Live) (line : Nat) :
    (l.release line).breakdown = l.breakdown ∧ (l.release line).coordinator = l.coordinator := by
  unfold release
  split <;> exact ⟨rfl, rfl⟩

theorem carries_drive (l : Live) (line : Nat) : l.Carries (l.drive line).2 := by
  unfold drive
  split
  · rename_i t p _ _
    split
    · rename_i run' _
      dsimp only
      split
      · exact .refl l
      · obtain ⟨as, hosted, goes⟩ := l.coordinator.exists_driveToRest l.breakdown line
          (p.follower.offer l.host t.line.killed) (Elapsed.ofMicros (l.host.clock - p.since))
        exact ⟨(release_eq _ line).1, as, hosted, (release_eq _ line).2.trans goes⟩
    · exact .refl l
  · exact .refl l

theorem carries_follow (l : Live) : l.Carries l.follow.2 := by
  unfold follow
  split
  · rename_i run' f _ _
    dsimp only
    split
    · exact .refl l
    · refine ⟨?_, [.follow (f.offer l.host false)], fun a ha => ?_, ?_⟩
      · split <;> rfl
      · rw [List.mem_singleton.mp ha]
        rfl
      · split <;> rfl
  · exact .refl l

/-- Steps that are taken one after another carry a coordinator on if each of them does. -/
theorem carries_foldl {f : Live → Nat → Bool × Live} (step : ∀ (l : Live) k, l.Carries (f l k).2)
    (ks : List Nat) (x : Bool × Live) : x.2.Carries
      (ks.foldl (fun x k => (x.1 || (f x.2 k).1, (f x.2 k).2)) x).2 := by
  induction ks generalizing x with
  | nil => exact .refl x.2
  | cons k ks ih => exact (step x.2 k).trans (ih (x.1 || (f x.2 k).1, (f x.2 k).2))

/-- **Whatever is done on a host** is a run, -/
theorem carries_poll (l : Live) : l.Carries l.poll.2 := by
  unfold poll
  have drivers := carries_foldl (f := drive) carries_drive (List.range l.coordinator.tasks.length)
    (false, l)
  refine drivers.trans ?_
  refine (carries_follow _).trans ?_
  exact carries_foldl (f := advance) carries_advance _ (_, _)

/-- and so is a wait of the host, in which the coordinator takes no step. -/
theorem carries_pull (l : Live) : l.Carries l.pull.2 := .of_eq rfl rfl

theorem carries_later {limit : Option Nat} (h : l.later? limit = some l') : l.Carries l' := by
  obtain ⟨host, -, rfl⟩ := Option.map_eq_some_iff.mp h
  exact .of_eq rfl rfl

/-- **A call** on a host is a call of the coordinator, and a run behind it. -/
theorem carries_call (l : Live) (d : Demand) :
    Carries { l with coordinator := l.coordinator.call d } (l.call d).2 :=
  carries_advance _ _

end Live
end BuildRunner
