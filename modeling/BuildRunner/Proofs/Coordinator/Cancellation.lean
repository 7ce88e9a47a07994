import BuildRunner.Proofs.Coordinator.Actor
import BuildRunner.Proofs.Process.Turn
import BuildRunner.Proofs.Coordinator.SingleFlight

set_option autoImplicit false

/-! # Killed means cancelled

Whether a task is cancelled is read once, when its run ends, and what has been decided is carried
out in the same go. So a caller that finds the task in the state and kills it in one go comes
early enough, whatever the process has done by then: the task ends as cancelled. A task that nobody
kills does not.

A *cooperative* run is one in which nobody is interrupted in the middle of a go. Without it a
caller could kill a task between the end of its run and the moment at which it leaves the state.
-/

namespace BuildRunner

open Coordinator (Move Stride Breaks)

/-! ## What a driver can still say -/

/-- A driver that follows a process follows a run that **has not ended**. -/
def Driver.IsOpen : Driver → Prop
  | .following run | .publishing run _ => run.result? = none
  | _ => True

/-- A driver **does not say that its process has exited**: it writes no closing lines, and if it
reports, then a cancelled task. -/
def Driver.DeniesExit : Driver → Prop
  | .closing _ _ => False
  | d => ∀ r, d.result? = some (.report r) → r.isCancelled = true

/-- A driver **does not say that its task was cancelled**, and does not abandon its process. -/
def Driver.DeniesKill : Driver → Prop
  | .abandoning => False
  | .closing _ outcome => outcome ≠ .cancelled
  | d => ∀ r, d.result? = some (.report r) → r.isCancelled = false

theorem Driver.DeniesExit.report {d : Driver} {r : TaskReport} (h : d.DeniesExit)
    (hr : d.result? = some (.report r)) : r.isCancelled = true := by
  cases d with
  | closing _ _ => exact h.elim
  | _ => exact h r hr

theorem Driver.DeniesKill.report {d : Driver} {r : TaskReport} (h : d.DeniesKill)
    (hr : d.result? = some (.report r)) : r.isCancelled = false := by
  cases d with
  | abandoning => exact h.elim
  | closing _ _ => cases hr
  | _ => exact h r hr

namespace Task

variable {b : Breakdown} {calls : List SinkCall} {i : Nat} {t t' : Task} {o : Option Occurrence}
  {call : Option SinkCall}

theorem Work.isOpen (work : t.Work b calls i o t' call) (h : t.driver.IsOpen) :
    t'.driver.IsOpen := by
  cases work with
  | turn _ _ open' => exact open'
  | @ended _ _ _ r elapsed _ _ _ =>
      show (Coordinator.afterRun t elapsed r).IsOpen
      unfold Coordinator.afterRun
      split <;> trivial
  | text _ turned _ _ | found _ turned _ | malformed _ turned _ =>
      obtain ⟨rfl, hr⟩ := Run.turn_delivered turned
      exact hr
  | published publishing | publish publishing _ =>
      rw [publishing] at h
      exact h
  | _ => trivial

/-- The stage of a driver whose run has ended follows from whether its task was killed. -/
theorem afterRun_denies {run run' : Run} {x : Offer} {r : RunResult} (elapsed : Elapsed)
    (hr : run.result? = none) (turned : run.turn { x with killed := t.line.killed } = (run', none))
    (result : run'.result? = some r) :
    (t.line.killed = true → (Coordinator.afterRun t elapsed r).DeniesExit) ∧
      (t.line.killed = false → (Coordinator.afterRun t elapsed r).DeniesKill) := by
  have hres := Run.result_turn (o := { x with killed := t.line.killed }) hr (by rw [turned]; exact result)
  rcases hres with rfl | ⟨code, rfl⟩
  · simp [Coordinator.afterRun, Driver.DeniesExit, Driver.DeniesKill, Driver.result?]
  · constructor <;> intro hk <;>
      simp [Run.resultOf, hk, Coordinator.afterRun, Driver.DeniesExit, Driver.DeniesKill,
        Driver.result?, report, TaskReport.isCancelled]

/-- A driver of a killed task keeps on denying that the process has exited. -/
theorem Work.deniesExit (work : t.Work b calls i o t' call) (ho : t.driver.IsOpen)
    (hk : t.line.killed = true) (h : t.driver.DeniesExit) : t'.driver.DeniesExit := by
  cases work with
  | ended elapsed following turned result =>
      rw [following] at ho
      exact (afterRun_denies elapsed ho turned result).1 hk
  | closed closing | close closing _ | brokenClose closing _ =>
      rw [closing] at h
      exact h.elim
  | _ => intro r hr; simp [Driver.result?] at hr

/-- A driver of a task that is not killed keeps on denying that it was, as long as no sink breaks
down. -/
theorem Work.deniesKill (work : t.Work b calls i o t' call) (ho : t.driver.IsOpen)
    (hk : t.line.killed = false) (fine : ∀ s, call = some s → b calls s = false)
    (h : t.driver.DeniesKill) :
    t'.driver.DeniesKill ∧ t'.line = t.line ∧ t'.signals = t.signals := by
  cases work with
  | ended elapsed following turned result =>
      rw [following] at ho
      exact ⟨(afterRun_denies elapsed ho turned result).2 hk, rfl, rfl⟩
  | @closed outcome closing =>
      rw [closing] at h
      refine ⟨fun r hr => ?_, rfl, rfl⟩
      obtain rfl : t.report outcome = r := by simpa [Driver.result?] using hr
      cases outcome with
      | exited code elapsed => rfl
      | cancelled => exact absurd rfl h
  | close closing _ =>
      rw [closing] at h
      exact ⟨h, rfl, rfl⟩
  | brokenText _ _ _ broken | brokenPublish _ broken | brokenClose _ broken =>
      rw [fine _ rfl] at broken
      cases broken
  | abandon abandoning =>
      rw [abandoning] at h
      exact h.elim
  | _ => exact ⟨fun r hr => by simp [Driver.result?] at hr, rfl, rfl⟩

/-! ## Every task -/

/-- **What holds of every task**: its driver follows an open run, and its process was asked to end
once if the task was killed, and never otherwise. -/
structure Sound (t : Task) : Prop where
  isOpen : t.driver.IsOpen
  signals : t.signals = if t.line.killed then 1 else 0

theorem sound_kill (h : t.Sound) : t.kill.Sound where
  isOpen := by simpa using h.isOpen
  signals := by
    rw [kill_killed, if_pos rfl]
    have signals := h.signals
    unfold kill
    split <;> simp_all

theorem Work.signals (work : t.Work b calls i o t' call) (h : t.Sound) :
    t'.signals = if t'.line.killed then 1 else 0 := by
  cases work with
  | abandon _ => exact (sound_kill h).signals
  | _ => exact h.signals

theorem Change.sound (change : t.Change b t') (h : t.Sound) : t'.Sound := by
  cases change with
  | kill => exact sound_kill h
  | work work => exact ⟨work.isOpen h.isOpen, work.signals h⟩
  | leave _ | release _ => exact ⟨trivial, h.signals⟩
  | signal _ =>
      refine ⟨trivial, ?_⟩
      show t.signals = if (t.line.send true).killed then 1 else 0
      rw [killed_send]
      exact h.signals

/-- **A task that will be cancelled**: it was killed, and its driver denies that it has exited. -/
structure Doomed (t : Task) : Prop where
  sound : t.Sound
  killed : t.line.killed = true
  denies : t.driver.DeniesExit

theorem Change.doomed (change : t.Change b t') (h : t.Doomed) : t'.Doomed := by
  refine ⟨change.sound h.sound, change.killed h.killed, ?_⟩
  have denies := h.denies
  cases change with
  | kill => simpa using denies
  | work work => exact work.deniesExit h.sound.isOpen h.killed denies
  | leave leaving | signal leaving | release leaving =>
      rw [leaving] at denies
      exact denies

structure Spared (t : Task) : Prop where
  sound : t.Sound
  alive : t.line.killed = false
  denies : t.driver.DeniesKill

end Task

/-! ## Cooperative runs -/

/-- Whether a caller in a stage is **in the middle of a go**. It may be interrupted only where it
waits or has not begun. -/
def Stage.isMidway : Stage → Bool
  | .starting _ _ | .killing _ _ | .clearing _ _ => true
  | _ => false

namespace Coordinator

variable {b : Breakdown} {c c' : Coordinator} {a : Action} {o : Option Occurrence} {i k : Nat}
  {t t' : Task}

def midway (c : Coordinator) : List Actor :=
  ((List.range c.callers.length).filter fun k => (c.stage? k).any Stage.isMidway).map .caller ++
    ((List.range c.tasks.length).filter fun i => !c.driverRests i).map .driver

/-- **A cooperative run**: while somebody is in the middle of a go, nobody else moves. -/
def Cooperative (b : Breakdown) (c : Coordinator) : List Action → Prop
  | [] => True
  | a :: as => (∀ x ∈ c.midway, a.actor? = some x) ∧ Cooperative b (step b c a) as

instance decidableCooperative (b : Breakdown) (c : Coordinator) :
    (as : List Action) → Decidable (Cooperative b c as)
  | [] => .isTrue trivial
  | a :: as =>
    have := decidableCooperative b (step b c a) as
    inferInstanceAs (Decidable (_ ∧ _))

theorem cooperative_append {as as' : List Action} :
    Cooperative b c (as ++ as') ↔ Cooperative b c as ∧ Cooperative b (run b c as) as' := by
  induction as generalizing c with
  | nil => simp [Cooperative, run]
  | cons a as ih => simp [Cooperative, ih, run, and_assoc]

theorem caller_mem_midway {s : Stage} (hk : c.stage? k = some s) (hs : s.isMidway = true) :
    .caller k ∈ c.midway := by
  obtain ⟨killed, hkilled⟩ := stage?_eq_some.mp hk
  have hlt := (List.getElem?_eq_some_iff.mp hkilled).1
  simp [midway, hlt, hk, hs]

theorem driver_mem_midway (ht : c.tasks[i]? = some t) (hr : t.driver.rests = false) :
    .driver i ∈ c.midway := by
  have hlt := (List.getElem?_eq_some_iff.mp ht).1
  have rests : c.driverRests i = false := by simp [driverRests, ht, hr]
  simp [midway, hlt, rests]

/-- **Whoever is about to kill a task** has just found it in the state, to stop it or for a request
that is forced; and the driver of the task waits for its process. -/
def Poised (c : Coordinator) : Prop :=
  ∀ (k : Nat) (p : Purpose) (h : TaskHandle), c.stage? k = some (.killing p h) →
    c.state = .running h ∧ (∀ r, p = .invoke r → r.force = true) ∧
      ∃ t run, c.tasks[h.line]? = some t ∧ t.handle = h ∧ t.driver = .following run

/-- A driver at work that is not in the middle of a go follows its process. -/
theorem following_of_rests {d : Driver} (hw : d.isAtWork = true) (hr : d.rests = true) :
    ∃ run, d = .following run := by
  cases d with
  | following run => exact ⟨run, rfl⟩
  | _ => simp_all [Driver.isAtWork, Driver.rests]

theorem Poised.step (hc : c.Orderly) (alone : ∀ x ∈ c.midway, a.actor? = some x) :
    (step b c a).Poised := by
  intro k p h hk
  rcases (step_move b c a).aims hk with hk' | ⟨deciding, running, forced, hstep⟩
  · -- A caller that was about to kill moves next, and does so.
    obtain ⟨x, rfl⟩ := Action.eq_proceed (alone _ (caller_mem_midway hk' rfl))
    obtain ⟨killed, hkilled⟩ := stage?_eq_some.mp hk'
    rw [Coordinator.step, proceed_of_killing hkilled, stage?_eq_some] at hk
    obtain ⟨killed', hset⟩ := hk
    rw [List.getElem?_set_self (List.getElem?_eq_some_iff.mp hkilled).1] at hset
    have hs := congrArg Caller.stage (Option.some.inj hset)
    dsimp only [afterKill] at hs
    repeat' split at hs
    all_goals cases hs
  · -- A caller has looked at the state, so no driver was in the middle of a go.
    obtain ⟨t, ht, hh, hw⟩ := hc.running h running
    cases rests : t.driver.rests with
    | true =>
        obtain ⟨run, hrun⟩ := following_of_rests hw rests
        rw [hstep]
        exact ⟨running, forced, t, run, ht, hh, hrun⟩
    | false =>
        obtain ⟨x, elapsed, rfl⟩ := Action.eq_drive (alone _ (driver_mem_midway ht rests))
        rw [stage?, Coordinator.step, drive_callers, ← stage?, deciding] at hk
        cases hk

theorem poised_of_cooperative {as : List Action} (hc : c.Orderly) (hp : c.Poised)
    (h : Cooperative b c as) : (run b c as).Poised := by
  induction as generalizing c with
  | nil => exact hp
  | cons a as ih => exact ih (hc.move (step_move b c a)) (Poised.step hc h.1) h.2

/-! ## Every run -/

theorem run_sound (tool : Tool) (b : Breakdown) (as : List Action) :
    ∀ t ∈ (run b (new tool) as).tasks, t.Sound :=
  run_induction (P := fun c => ∀ t ∈ c.tasks, t.Sound)
    (fun c o c' hm hs t' ht' => by
      obtain ⟨i, hi⟩ := List.mem_iff_getElem?.mp ht'
      rcases hm.task hi with ⟨t, ht, rfl | change⟩ | ⟨-, k, r, -, rfl, -⟩
      · exact hs t' (List.mem_of_getElem? ht)
      · exact change.sound (hs t (List.mem_of_getElem? ht))
      · exact ⟨rfl, rfl⟩)
    (by simp [new]) as

/-- A task that will be cancelled stays so. -/
theorem doomed_move (hm : Move b c o c') (ht : c.tasks[i]? = some t) (h : t.Doomed) :
    ∃ t', c'.tasks[i]? = some t' ∧ t'.handle = t.handle ∧ t'.Doomed := by
  obtain ⟨t', ht', hf⟩ := hm.grows i t ht
  refine ⟨t', ht', hf.handle, ?_⟩
  rcases hm.task ht' with ⟨x, hx, rest⟩ | ⟨hi, -⟩
  · obtain rfl := Option.some.inj (ht.symm.trans hx)
    rcases rest with rfl | change
    · exact h
    · exact change.doomed h
  · have hlt := (List.getElem?_eq_some_iff.mp ht).1
    omega

theorem doomed_run (ht : c.tasks[i]? = some t) (h : t.Doomed) (as : List Action) :
    ∃ t', (run b c as).tasks[i]? = some t' ∧ t'.handle = t.handle ∧ t'.Doomed :=
  run_induction (P := fun c => ∃ t', c.tasks[i]? = some t' ∧ t'.handle = t.handle ∧ t'.Doomed)
    (fun c o c' hm ⟨x, hx, hh, hd⟩ => by
      obtain ⟨t', ht', hh', hd'⟩ := doomed_move hm hx hd
      exact ⟨t', ht', hh'.trans hh, hd'⟩)
    ⟨t, ht, rfl, h⟩ as

/-- The driver of a task **adds a line of its own**: it writes to the text sink what its process has
not written. -/
def AddsText (b : Breakdown) (i : Nat) (c : Coordinator) (a : Action) : Prop :=
  a.actor? = some (.driver i) ∧ c.occurrence? a = none ∧ ∃ s, c.call? b a = some (.text s)

/-- The lines that a driver adds are closing lines. -/
theorem Stride.closing {s : String} (h : Stride b c i t none c') (hs : c'.calls = .text s :: c.calls) :
    ∃ ss outcome, t.driver = .closing (s :: ss) outcome := by
  have silent : c.calls ≠ .text s :: c.calls := fun he => by
    have hlen := congrArg List.length he
    simp at hlen
  cases h with
  | work work =>
      cases work with
      | close closing _ | brokenClose closing _ =>
          obtain rfl : s = _ := by simpa [put, eq_comm] using hs
          exact ⟨_, _, closing⟩
      | _ => exact absurd hs silent
  | _ => exact absurd hs silent

/-- A task that nobody kills stays spared by the steps of its own driver. -/
theorem Stride.spared (hs : Stride b c i t o c') (ht : c.tasks[i]? = some t) (h : t.Spared)
    (fine : ∀ s, c'.calls = s :: c.calls → b c.calls s = false) (ht' : c'.tasks[i]? = some t') :
    t'.Spared := by
  have there : ∀ {x : Task}, (c.tasks.set i x)[i]? = some t' → x = t' :=
    fun hx => Option.some.inj ((set_task ht).symm.trans hx)
  have denies := h.denies
  cases hs with
  | rest =>
      obtain rfl := Option.some.inj (ht.symm.trans ht')
      exact h
  | @work _ _ call work =>
      obtain rfl := there ht'
      have quiet : ∀ s, call = some s → b c.calls s = false := fun s hcall => fine s (hcall ▸ rfl)
      obtain ⟨hd, hl, -⟩ := work.deniesKill h.sound.isOpen h.alive quiet denies
      exact ⟨⟨work.isOpen h.sound.isOpen, work.signals h.sound⟩, by rw [hl, h.alive], hd⟩
  | finish leaving _ | release leaving =>
      obtain rfl := there ht'
      rw [leaving] at denies
      exact ⟨⟨trivial, h.sound.signals⟩, h.alive, denies⟩
  | signal leaving =>
      obtain rfl := there ht'
      rw [leaving] at denies
      have sent := Task.killed_send t.line true
      exact ⟨⟨trivial, by rw [sent]; exact h.sound.signals⟩, sent.trans h.alive, denies⟩

theorem spared_step (h : ∀ t, c.tasks[i]? = some t → t.Spared) (hk : ¬ Kills i c a)
    (hb : ¬ BreaksFor b i c a) : ∀ t', (step b c a).tasks[i]? = some t' → t'.Spared := by
  intro t' ht'
  cases ht : c.tasks[i]? with
  | none =>
      -- The task has just been launched.
      rcases (step_move b c a).task ht' with ⟨x, hx, -⟩ | ⟨-, k, r, -, rfl, -⟩
      · rw [ht] at hx
        cases hx
      · exact ⟨⟨rfl, rfl⟩, rfl, fun r hr => by cases hr⟩
  | some t =>
      rcases step_task (b := b) ht a with ⟨x, elapsed, rfl⟩ | ⟨-, same | ⟨-, killed⟩⟩
      · refine (drive_stride ht x elapsed).spared ht (h t ht) (fun s hcalls => ?_) ht'
        cases hbs : b c.calls s with
        | false => rfl
        | true =>
            have hcall : c.call? b (.drive i x elapsed) = some s := call?_eq hcalls
            exact absurd ⟨rfl, by simp [Breaks, hcall, hbs]⟩ hb
      · obtain rfl := Option.some.inj (same.symm.trans ht')
        exact h t ht
      · exact absurd killed hk

theorem spared_run {as : List Action} (h : ∀ t, c.tasks[i]? = some t → t.Spared)
    (hk : ¬ Happens b (Kills i) c as) (hb : ¬ Happens b (BreaksFor b i) c as) :
    ∀ t, (run b c as).tasks[i]? = some t → t.Spared := by
  induction as generalizing c with
  | nil => exact h
  | cons a as ih =>
      simp only [Happens, not_or] at hk hb
      exact ih (spared_step h hk.1 hb.1) hk.2 hb.2

theorem doomed_adds_nothing {as : List Action} (ht : c.tasks[i]? = some t) (h : t.Doomed) :
    ¬ Happens b (AddsText b i) c as := by
  induction as generalizing c t with
  | nil => exact id
  | cons a as ih =>
      rintro (⟨own, hnone, s, hcall⟩ | later)
      · obtain ⟨x, elapsed, rfl⟩ := Action.eq_drive own
        have hs := drive_stride (b := b) ht x elapsed
        have hcalls := step_calls b c (.drive i x elapsed)
        rw [hcall] at hcalls
        rw [show t.occurrence? i x = none by simpa [occurrence?, ht] using hnone] at hs
        obtain ⟨ss, outcome, closing⟩ := hs.closing hcalls
        have denies := h.denies
        rw [closing] at denies
        exact denies
      · obtain ⟨t', ht', -, hd⟩ := doomed_move (step_move b c a) ht h
        exact ih ht' hd later

/-- **Killed means cancelled, and only killed means cancelled.**

In a cooperative run, let a caller that stops the task in the state, or wants it to make way for a
forced request, kill it, whatever its process has done by then. However the run `as'` goes on, the
driver of the task adds no closing lines to the text, its ticket never comes to a report of a task
that has exited, and its process group has been asked to end exactly once, however many others kill
the task as well.

A task that no caller ever kills, and for which no sink breaks down, is never asked to end and never
reported as cancelled. This holds of every run. -/
theorem killed_iff_cancelled (tool : Tool) (b : Breakdown) :
    (∀ (as as' : List Action) (k : Nat) (x : Obstacles) (p : Purpose) (h : TaskHandle),
      (run b (new tool) as).stage? k = some (.killing p h) →
      Cooperative b (new tool) (as ++ .proceed k x :: as') →
      let c := run b (new tool) as
      let c' := step b c (.proceed k x)
      c.state = .running h ∧ (∀ r, p = .invoke r → r.force = true) ∧
      ¬ Happens b (AddsText b h.line) c' as' ∧
      ∃ t, (run b c' as').tasks[h.line]? = some t ∧ t.handle = h ∧
        (∀ r, t.driver.result? = some (.report r) → r.isCancelled = true) ∧ t.signals = 1) ∧
    (∀ (as : List Action) (i : Nat) (t : Task), (run b (new tool) as).tasks[i]? = some t →
      ¬ Happens b (Kills i) (new tool) as → ¬ Happens b (BreaksFor b i) (new tool) as →
      t.signals = 0 ∧ ∀ r, t.driver.result? = some (.report r) → r.isCancelled = false) := by
  constructor
  · intro as as' k x p h hk hcoop c c'
    have poised : c.Poised := poised_of_cooperative (orderly_new tool)
      (fun k p h hk => by simp [new, stage?] at hk) (cooperative_append.mp hcoop).1
    obtain ⟨running, forced, t, rn, ht, hh, following⟩ := poised k p h hk
    -- The driver waits for its process, so nothing is decided yet.
    have doomed : t.kill.Doomed := by
      refine ⟨Task.sound_kill (run_sound tool b as t (List.mem_of_getElem? ht)),
        Task.kill_killed t, ?_⟩
      rw [Task.kill_driver, following]
      intro r hr
      cases hr
    have ht' : c'.tasks[h.line]? = some t.kill := by
      obtain ⟨killed, hkilled⟩ := stage?_eq_some.mp hk
      show (c.proceed b k x).tasks[h.line]? = _
      rw [proceed_of_killing hkilled, List.getElem?_modify, ht]
      simp
    refine ⟨running, forced, doomed_adds_nothing ht' doomed, ?_⟩
    obtain ⟨t', ht'', hh', hd⟩ := doomed_run (b := b) ht' doomed as'
    refine ⟨t', ht'', ?_, fun r hr => hd.denies.report hr, ?_⟩
    · rw [hh', Task.kill_handle, hh]
    · rw [hd.sound.signals, hd.killed, if_pos rfl]
  · intro as i t ht hk hb
    have spared := spared_run (by simp [new]) hk hb t ht
    exact ⟨by simp [spared.sound.signals, spared.alive], fun r hr => spared.denies.report hr⟩

/-- A process has exited, and what it has left behind is being read. -/
def exiting : List Action :=
  let offer (o : Offer) : Action := .drive 0 o (.ofMicros 0)
  [.call (.invoke { command := "build", workingDirectory := "/w" }), .proceed 0 {}, .proceed 0 {},
    .proceed 0 {}, offer { exit := .exited (some 0) }, offer { arrival := .line (.output "done") }]

/-- Its streams end, and its driver leaves. -/
def windingUp : List Action :=
  let offer (o : Offer) : Action := .drive 0 o (.ofMicros 0)
  [offer { arrival := .line (.error "bye") }, offer { arrival := .ended }, offer {}, offer {},
    offer {}, offer {}, offer {}, offer {}]

/-- Somebody stops a task whose process has exited, and a forced request kills it once more; left
alone, it comes to a report of its exit. -/
theorem killed_iff_cancelled_exiting :
    (let stopping := exiting ++ [.call .stop, .proceed 1 {}]
    let late := run .never (new cargo) (stopping ++ [.proceed 1 {}])
    let rest := [.call (.invoke { command := "test", workingDirectory := "/w", force := true }),
      .proceed 2 {}, .proceed 2 {}] ++ windingUp
    ¬ Happens .never (AddsText .never 0) late rest ∧
      ∃ t, (run .never late rest).tasks[0]? = some t ∧ t.signals = 1) ∧
    ∃ t, (run .never (new cargo) (exiting ++ windingUp)).tasks[0]? = some t ∧ t.signals = 0 := by
  constructor
  · intro stopping late rest
    have h := (killed_iff_cancelled cargo .never).1 stopping rest 1 {} .stop
      ⟨1, (cargo.launchFor { command := "build", workingDirectory := "/w" }).commandLine, 0⟩
      rfl (by decide)
    obtain ⟨-, -, quiet, t, ht, -, -, signals⟩ := h
    exact ⟨quiet, t, ht, signals⟩
  · have h := (killed_iff_cancelled cargo .never).2 (exiting ++ windingUp) 0
    exact ⟨_, rfl, (h _ rfl (by decide) (by decide)).1⟩

end Coordinator
end BuildRunner
