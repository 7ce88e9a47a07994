import BuildRunner.Proofs.Session.Play

set_option autoImplicit false

/-! # Leaving a session

A person leaves a session that reads commands by typing so, by ending the input, or because a line
cannot be read. Whichever way is taken, the session calls for a stop and ends when this call has ended.
`Tidy` is what holds at every moment of such a session, however the steps of its tasks come in between;
`session_leaves_nothing_running` says what this means when the session has ended.
-/

namespace BuildRunner

open Coordinator (Action new step run cargo)

/-- The stages of a session that **reads commands**. -/
def Session.Stage.isCommanded : Session.Stage → Bool
  | .reading | .obeying _ | .stopping _ | .leaving _ | .finished _ => true
  | .starting _ | .running _ | .interrupting _ => false

namespace Sitting

variable {b : Breakdown} {s s' : Sitting} {x : Step} {xs : List Step}

/-- **What holds of a session that reads commands**, at every moment: whoever leaves it halts what is
running, and nothing is running when it has ended. -/
structure Tidy (s : Sitting) : Prop where
  serial : s.Serial
  commanded : s.stage.isCommanded = true
  leaving : ∀ k, s.stage = .leaving k → s.coordinator.Halts k
  finished : ∀ n, s.stage = .finished n → n = Session.success ∧ s.coordinator.state = .idle

/-- A step in the coordinator keeps a session tidy. -/
theorem Tidy.act (hs : s.Tidy) {a : Action} (nobody : ∀ d, a ≠ .call d)
    (delivers : (Step.act a).delivers = true) :
    Tidy { s with coordinator := step b s.coordinator a } where
  serial := hs.serial.moved (.act nobody)
  commanded := hs.commanded
  leaving k leaves := by
    have serial : s.coordinator.Serial s.stage.caller? := hs.serial
    rw [show s.stage.caller? = some k by rw [show s.stage = .leaving k from leaves]; rfl] at serial
    refine serial.halts_step (hs.leaving k leaves) fun j o acts => ?_
    subst acts
    simpa [Step.delivers] using delivers
  finished n ended := by
    have serial : s.coordinator.Serial s.stage.caller? := hs.serial
    rw [show s.stage.caller? = none by rw [show s.stage = .finished n from ended]; rfl] at serial
    obtain ⟨success, idle⟩ := hs.finished n ended
    exact ⟨success, serial.idle_step b idle (fun _ _ => nofun) a⟩

/-- A session that goes on by itself **has halted what was running** if it ends. -/
theorem Tidy.goOn (hs : s.Tidy) {time : String} {r : Session.Reaction}
    (goes : Session.goOn time s.coordinator s.stage = some r) : (s.react r).Tidy := by
  have serial : (s.react r).Serial := hs.serial.moved (b := .never) (.goOn goes)
  obtain ⟨silent, -, ended⟩ := Session.goOn_cases goes
  have same := react_silent (s := s) silent
  have commanded := hs.commanded
  cases stage : s.stage with
  | obeying k | stopping k =>
      rw [stage] at goes
      obtain ⟨e, -, rfl⟩ := Option.map_eq_some_iff.mp goes
      exact ⟨serial, rfl, nofun, nofun⟩
  | leaving k =>
      obtain ⟨st, hk, isOver⟩ := ended k (by rw [stage]; rfl)
      have idle : s.coordinator.state = .idle := (hs.leaving k stage).idle hk isOver
      rw [stage] at goes
      obtain ⟨e, -, rfl⟩ := Option.map_eq_some_iff.mp goes
      refine ⟨serial, rfl, nofun, fun n left => ⟨?_, same ▸ idle⟩⟩
      exact (Session.Stage.finished.inj left).symm
  | reading | finished n =>
      rw [stage] at goes
      cases goes
  | starting k | running line | interrupting k =>
      rw [stage] at commanded
      cases commanded

/-- A session that takes notice of a person **calls for a stop** if it is left. -/
theorem Tidy.notice (hs : s.Tidy) {e : Session.Event} {r : Session.Reaction}
    (noticed : Session.notice s.directory s.coordinator s.stage e = some r) : (s.react r).Tidy := by
  have serial : (s.react r).Serial := hs.serial.moved (b := .never) (.notice noticed)
  rcases Session.notice_cases noticed with ⟨-, rfl⟩ | ⟨⟨line, runs⟩, -, -⟩
  · rcases Session.read_cases s.directory s.coordinator.callers.length e with
      ⟨-, reads⟩ | ⟨d, calls, obeys | ⟨rfl, stops | leaves⟩⟩
    · refine ⟨serial, ?_, ?_, ?_⟩ <;> rw [react, reads]
      · rfl
      · rintro _ ⟨⟩
      · rintro _ ⟨⟩
    · refine ⟨serial, ?_, ?_, ?_⟩ <;> rw [react, obeys]
      · rfl
      · rintro _ ⟨⟩
      · rintro _ ⟨⟩
    · refine ⟨serial, ?_, ?_, ?_⟩ <;> rw [react, stops]
      · rfl
      · rintro _ ⟨⟩
      · rintro _ ⟨⟩
    · -- Only a session that is left has something to show: its stop is on its way.
      refine ⟨serial, ?_, fun k left => ?_, ?_⟩
      · rw [react, leaves]
        rfl
      · rw [react, leaves] at left
        obtain rfl := Session.Stage.leaving.inj left
        rw [react, calls]
        exact Coordinator.halts_call s.coordinator
      · rw [react, leaves]
        rintro _ ⟨⟩
  · have commanded := hs.commanded
    rw [runs] at commanded
    cases commanded

theorem Tidy.moved (hs : s.Tidy) (moved : Moved b s x s') (delivers : x.delivers = true) :
    s'.Tidy := by
  cases moved with
  | rest => exact hs
  | act nobody => exact hs.act nobody delivers
  | goOn goes => exact hs.goOn goes
  | notice noticed => exact hs.notice noticed

theorem Tidy.play (hs : s.Tidy) (delivers : ∀ x ∈ xs, x.delivers = true) : (play b s xs).Tidy :=
  play_induction (Q := fun x => x.delivers = true) (fun _ _ _ moved delivers hs => hs.moved moved delivers)
    hs delivers

theorem tidy_begin (tool : Tool) (dir : String) : (begin tool dir .interactive).Tidy :=
  ⟨serial_begin tool dir .interactive, rfl, nofun, nofun⟩

/-! ## Those who have left -/

/-- While nothing is running, no driver is at work. -/
theorem Serial.left_of_idle (hs : s.Serial) (idle : s.coordinator.state = .idle) {t : Task}
    (ht : t ∈ s.coordinator.tasks) : t.driver.isAtWork = false := by
  obtain ⟨i, hi⟩ := List.mem_iff_getElem?.mp ht
  refine (Bool.not_eq_true _).mp fun working => ?_
  have running := Coordinator.Serial.single hs i t hi working
  rw [idle] at running
  cases running

/-- **All results have been handed over.** -/
def Closed (s : Sitting) : Prop := ∀ t ∈ s.coordinator.tasks, ∃ r, t.driver = .done r

/-- No results are to come if nobody is in the middle of a go while nothing is running. -/
theorem closed_of_idle (hs : s.Serial) (idle : s.coordinator.state = .idle)
    (present : ∀ t ∈ s.coordinator.tasks, t.driver ≠ .vanished)
    (quiet : ∀ y ∈ s.coordinator.midway, False) : s.Closed := by
  intro t ht
  have left := hs.left_of_idle idle ht
  obtain ⟨i, hi⟩ := List.mem_iff_getElem?.mp ht
  have rests : t.driver.rests = true := by
    refine Classical.byContradiction fun busy => ?_
    exact quiet _ (Coordinator.driver_mem_midway hi ((Bool.not_eq_true _).mp busy))
  cases hd : t.driver with
  | done r => exact ⟨r, rfl⟩
  | vanished => exact absurd hd (present t ht)
  | _ => simp [hd, Driver.rests, Driver.isAtWork] at rests left

/-- Nothing is started any more when a session has ended, so all results stay handed over. -/
theorem Closed.act (hs : s.Serial) (closed : s.Closed) (waits : s.stage.caller? = none) (a : Action) :
    Closed { s with coordinator := step b s.coordinator a } := by
  intro t' ht'
  obtain ⟨i, hi⟩ := List.mem_iff_getElem?.mp ht'
  rcases (Coordinator.step_move b s.coordinator a).task hi with
    ⟨t, ht, rfl | change⟩ | ⟨-, k, r, starting, -⟩
  · exact closed t' (List.mem_of_getElem? ht)
  · obtain ⟨r, hd⟩ := closed t (List.mem_of_getElem? ht)
    exact ⟨r, change.done hd⟩
  · have current := Coordinator.Serial.alone hs k _ starting rfl
    rw [waits] at current
    cases current

/-- A cooperative play **ends with all results handed over**. -/
theorem closed_of_cooperative (hs : s.Tidy)
    (present : ∀ ys, ∀ t ∈ (play b s ys).coordinator.tasks, t.driver ≠ .vanished)
    (before : ∀ n, s.stage = .finished n → s.Closed) (delivers : ∀ x ∈ xs, x.delivers = true)
    (cooperative : Cooperative b s xs) {n : Nat} (ends : (play b s xs).stage = .finished n) :
    (play b s xs).Closed := by
  induction xs generalizing s with
  | nil => exact before n ends
  | cons x xs ih =>
      rw [List.forall_mem_cons] at delivers
      have moved := apply_moved b s x
      have next : (s.apply b x).Tidy := hs.moved moved delivers.1
      refine ih next (fun ys => present (x :: ys)) (fun m isOver => ?_) delivers.2 cooperative.2 ends
      have present' := present [x]
      have quiet := cooperative.1
      change ∀ t ∈ (s.apply b x).coordinator.tasks, _ at present'
      generalize s.apply b x = s' at *
      cases moved with
      | rest => exact before m isOver
      | act nobody =>
          have waits : s.stage.caller? = none := by
            rw [show s.stage = .finished m from isOver]
            rfl
          exact Closed.act hs.serial (before m isOver) waits _
      | goOn goes =>
          -- The session ends in this step, so nobody is in the middle of a go.
          obtain ⟨silent, -, -⟩ := Session.goOn_cases goes
          refine closed_of_idle next.serial (next.finished m isOver).2 present' fun y hy => ?_
          rw [react_silent silent] at hy
          cases quiet y hy
      | notice noticed => exact absurd isOver (Session.notice_ne_finished noticed m)

/-! ## Every session -/

/-- **A session leaves nothing running**, whatever a person types, ends or interrupts, and however the
steps of all tasks come in between, as long as signals are delivered and nothing breaks down.

At every moment at most one of its tasks has a driver at work. When it has ended, it has done so with
success, nothing is running, and every driver has left the state and has its result; if nobody was
interrupted in the middle of a go, all results have been handed over as well. -/
theorem session_leaves_nothing_running (tool : Tool) (dir : String) (xs : List Step)
    (delivers : ∀ x ∈ xs, x.delivers = true) :
    let s := play .never (begin tool dir .interactive) xs
    (∀ (i j : Nat) (t t' : Task), s.coordinator.tasks[i]? = some t →
      s.coordinator.tasks[j]? = some t' → t.driver.isAtWork = true → t'.driver.isAtWork = true →
      i = j) ∧
    ∀ n, s.stage = .finished n → n = Session.success ∧ s.coordinator.state = .idle ∧
      (∀ t ∈ s.coordinator.tasks,
        t.driver.isAtWork = false ∧ ∃ r, t.driver.result? = some r) ∧
      (Cooperative .never (begin tool dir .interactive) xs →
        ∀ t ∈ s.coordinator.tasks, ∃ r, t.result? = some r) := by
  intro s
  -- A sitting takes no steps but those of its coordinator, which loses no driver.
  have present : ∀ ys, ∀ t ∈ (play .never (begin tool dir .interactive) ys).coordinator.tasks,
      t.driver ≠ .vanished := by
    intro ys
    obtain ⟨as, comes⟩ := exists_run_begin tool dir .interactive .never ys
    rw [comes]
    exact Coordinator.run_present tool .never as
  have tidy : s.Tidy := (tidy_begin tool dir).play delivers
  have orderly := Coordinator.Serial.orderly tidy.serial
  have single := Coordinator.Serial.single tidy.serial
  refine ⟨fun i j t t' => single.eq_of_isAtWork orderly, fun n ended => ?_⟩
  obtain ⟨success, idle⟩ := tidy.finished n ended
  refine ⟨success, idle, fun t ht => ?_, fun cooperative t ht => ?_⟩
  · have left := tidy.serial.left_of_idle idle ht
    exact ⟨left, Driver.exists_result left (present xs t ht)⟩
  · have closed : s.Closed := closed_of_cooperative (tidy_begin tool dir) present nofun delivers
      cooperative ended
    obtain ⟨r, hd⟩ := closed t ht
    exact ⟨r, by rw [Task.result?, hd]⟩

/-- Tests are typed while a build is running, which has to make way; then the input ends. -/
def preempting : List Step :=
  let go (k : Nat) : Step := .act (.proceed k {})
  let offer (line : Nat) (o : Offer) : Step := .act (.drive line o (.ofMicros 0))
  let ends (line : Nat) : List Step := [offer line {}, offer line { exit := .exited none },
    offer line { arrival := .ended }, offer line {}, offer line {}, offer line {}]
  [.notice (.line "build"), go 0, go 0, go 0, .goOn "", .notice (.line "!test"), go 1, go 1] ++
    ends 0 ++ [go 1, go 1, go 1, go 1, go 1, .goOn "", .notice .ended, go 2, go 2] ++ ends 1 ++
    [go 2, go 2, .goOn ""]

theorem session_leaves_nothing_running_preempting :
    let s := play .never (begin cargo "/w" .interactive) preempting
    s.stage = .finished 0 ∧ s.coordinator.tasks.length = 2 ∧ s.coordinator.state = .idle ∧
      ∀ t ∈ s.coordinator.tasks, ∃ r, t.result? = some r := by
  intro s
  have ended : s.stage = .finished 0 := by decide +kernel
  obtain ⟨-, isOver⟩ := session_leaves_nothing_running cargo "/w" preempting (by decide)
  obtain ⟨-, idle, -, closed⟩ := isOver 0 ended
  exact ⟨ended, by decide +kernel, idle, closed (by decide +kernel)⟩

end Sitting
end BuildRunner
