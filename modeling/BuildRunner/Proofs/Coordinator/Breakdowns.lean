import BuildRunner.Proofs.Coordinator.Actor
import BuildRunner.Proofs.Coordinator.Waiting

set_option autoImplicit false

/-! # Sinks that break down

A sink may break down at any call. In a start the lock is given back, and nothing has been launched.
In a driver the task is killed before it leaves the state, and then leaves as every other task does:
`Unwinds` counts the steps that this takes. In both cases the coordinator is as good as before.
-/

namespace BuildRunner.Coordinator

variable {b : Breakdown} {c c' : Coordinator} {a : Action} {o : Option Occurrence} {i k n : Nat}
  {t t' : Task} {h : TaskHandle} {s : Stage} {r : TaskRequest}

/-- Some call was added to those of a coordinator, and **it broke down**. -/
def Broken (b : Breakdown) (c c' : Coordinator) : Prop :=
  ∃ call, c'.calls = call :: c.calls ∧ b c.calls call = true

theorem broken_of_breaks (hb : Breaks b c a) : Broken b c (step b c a) := by
  obtain ⟨call, hcall, broken⟩ := (Option.any_eq_true _ _).mp hb
  refine ⟨call, ?_, broken⟩
  rw [step_calls, hcall]
  rfl

/-- Nothing breaks down in a step without a call, -/
theorem not_broken_of_silent (h : c'.calls = c.calls) : ¬ Broken b c c' := by
  rintro ⟨call, hcalls, -⟩
  rw [h] at hcalls
  have hlen := congrArg List.length hcalls
  simp at hlen

/-- nor in one whose call is fine. -/
theorem not_broken_of_fine {call : SinkCall} (h : c'.calls = call :: c.calls)
    (fine : b c.calls call = false) : ¬ Broken b c c' := by
  rintro ⟨call', hcalls, broken⟩
  rw [h] at hcalls
  rw [← (List.cons.inj hcalls).1, fine] at broken
  cases broken

/-! ## In a start -/

/-- A start **breaks off** when a sink breaks down: its caller gives back the lock and is told so. -/
def BreaksOff (k : Nat) (c c' : Coordinator) : Prop :=
  ∃ call, c' = ({ c with calls := call :: c.calls } : Coordinator).unlock k .broken

/-- **A start is undone**: no number is used up, no process is launched, and the lock is free. -/
structure Undone (k : Nat) (c c' : Coordinator) : Prop where
  wasIdle : c.state = .idle
  idle : c'.state = .idle
  free : c'.lock = none
  nextId : c'.nextId = c.nextId
  tasks : c'.tasks = c.tasks
  told : c'.stage? k = some (.answered .broken)

theorem BreaksOff.undone (hk : c.stage? k = some s) (idle : c.state = .idle)
    (hb : BreaksOff k c c') : Undone k c c' := by
  obtain ⟨call, rfl⟩ := hb
  refine ⟨idle, idle, rfl, rfl, rfl, ?_⟩
  rw [unlock, stage?_setStage, if_pos rfl]
  show (c.stage? k).map _ = _
  rw [hk]
  rfl

theorem engage_breaks (hb : Broken b c (c.engage b k r)) : BreaksOff k c (c.engage b k r) := by
  cases hx : b c.calls .clear with
  | true => exact ⟨.clear, by simp [engage, emit, hx]⟩
  | false =>
      refine absurd hb (not_broken_of_fine ?_ hx)
      simp [engage, emit, hx, setStage]

theorem start_breaks {failure : Option LaunchError} {next : Starting}
    (hb : Broken b c (c.start b k r failure next)) :
    BreaksOff k c (c.start b k r failure next) := by
  cases next with
  | announcing =>
      cases hx : b c.calls (.text (c.tool.announcement r)) with
      | true => exact ⟨.text (c.tool.announcement r), by simp only [start, emit, hx]⟩
      | false =>
          refine absurd hb (not_broken_of_fine ?_ hx)
          simp [start, emit, hx, setStage]
  | launching => cases failure <;> exact absurd hb (not_broken_of_silent rfl)
  | notifying e =>
      cases hx : b c.calls (.notify (.toolNotAvailable c.tool.program)) with
      | true => exact ⟨.notify (.toolNotAvailable c.tool.program), by simp only [start, emit, hx]⟩
      | false =>
          refine absurd hb (not_broken_of_fine ?_ hx)
          simp [start, emit, hx, unlock, setStage]

/-- A caller that looks at the state makes a call only if it starts a request on an idle state. -/
theorem decide_breaks {p : Purpose} (hb : Broken b c (c.decide b k p)) :
    c.state = .idle ∧ BreaksOff k c (c.decide b k p) := by
  cases p with
  | stop =>
      refine absurd hb (not_broken_of_silent ?_)
      simp only [decide]
      split <;> rfl
  | invoke r =>
      cases hs : c.state with
      | idle =>
          refine ⟨rfl, ?_⟩
          simp only [decide, hs, TaskState.decide] at hb ⊢
          exact engage_breaks hb
      | running h =>
          refine absurd hb (not_broken_of_silent ?_)
          simp only [decide, hs, TaskState.decide]
          cases r.force <;> rfl

theorem ask_calls (dir : String) (next : AfterProbe) (failure : Option LaunchError) :
    (c.ask k dir next failure).calls = c.calls := by
  unfold ask
  cases c.probe with
  | unasked => cases failure <;> rfl
  | running run => rfl
  | settled s => cases next <;> rfl

/-- **A caller for which a sink breaks down** was starting a request on an idle state, which is
undone. -/
theorem proceed_breaks {x : Obstacles} (hc : c.Orderly) (hb : Breaks b c (.proceed k x)) :
    Undone k c (step b c (.proceed k x)) := by
  have broken : Broken b c (c.proceed b k x) := broken_of_breaks hb
  show Undone k c (c.proceed b k x)
  unfold proceed at broken ⊢
  cases hk : c.callers[k]? with
  | none =>
      rw [hk] at broken
      exact absurd broken (not_broken_of_silent rfl)
  | some y =>
      obtain ⟨stage, killed⟩ := y
      have hs : c.stage? k = some stage := stage?_eq_some.mpr ⟨killed, hk⟩
      simp only [hk] at broken ⊢
      cases stage with
      | deciding p =>
          dsimp only at broken ⊢
          split at broken
          · exact absurd broken (not_broken_of_silent rfl)
          · rename_i free
            rw [if_neg free]
            obtain ⟨idle, off⟩ := decide_breaks broken
            exact off.undone hs idle
      | starting r next => exact (start_breaks broken).undone hs (hc.idle_of_starting hs).2
      | probing dir next => exact absurd broken (not_broken_of_silent (ask_calls dir next _))
      | awaiting p h | clearing p h =>
          refine absurd broken (not_broken_of_silent ?_)
          dsimp only
          split <;> rfl
      | killing p h | answered a | unsignalled reason =>
          exact absurd broken (not_broken_of_silent rfl)

def Launches (k : Nat) (c : Coordinator) (a : Action) : Prop :=
  ∃ line, c.occurrence? a = some (.launched k line)

/-- A caller that has been answered stays so. -/
theorem Move.answered {x : Answer} (hm : Move b c o c') (hk : c.stage? k = some (.answered x)) :
    c'.stage? k = some (.answered x) := by
  have other : ∀ {j : Nat} {s s' : Stage} {y : Coordinator}, c.stage? j = some s →
      s ≠ .answered x → y.callers = c.callers → (y.setStage j s').stage? k = some (.answered x) := by
    intro j s s' y hj hs hy
    have hne : j ≠ k := by
      rintro rfl
      rw [hk] at hj
      exact hs (Option.some.inj hj).symm
    rw [stage?_setStage, if_neg hne, stage?, hy]
    exact hk
  cases hm with
  | rest | probe _ _ | work _ _ | finish _ _ _ | signal _ _ | release _ _ => exact hk
  | arrive d =>
      obtain ⟨killed, hkilled⟩ := stage?_eq_some.mp hk
      have hlt := (List.getElem?_eq_some_iff.mp hkilled).1
      rw [stage?, call, List.getElem?_append_left hlt]
      exact hk
  | learn hj _ | drop hj _ _ _ | pass hj _ _ | aim hj _ _ _ | fail _ hj | wake hj _ =>
      exact other hj (by simp) rfl
  | engage hj _ _ _ | brokenEngage hj _ _ _ | announce hj _ | brokenAnnounce hj _ | notify hj =>
      exact other (y := { c with calls := _, lock := _ }) hj (by simp) rfl
  | launch hj => exact other (y := { c.register _ with lock := none }) hj (by simp) rfl
  | clear hj _ => exact other (y := { c with state := _ }) hj (by simp) rfl
  | @kill j p h killed signal hj =>
      have hne : j ≠ k := by
        rintro rfl
        rw [stage?_eq_some.mpr ⟨killed, hj⟩] at hk
        cases hk
      simpa [stage?, List.getElem?_set_ne hne] using hk

theorem started_of_launches (h : Launches k c a) :
    ∃ id line, (step b c a).stage? k = some (.answered (.started id line)) := by
  obtain ⟨line, occurs⟩ := h
  have hm := step_move b c a
  rw [occurs] at hm
  generalize step b c a = c' at hm
  cases hm with
  | launch hk =>
      refine ⟨c.nextId, c.tasks.length, ?_⟩
      rw [unlock, stage?_setStage, if_pos rfl]
      show Option.map _ (c.stage? k) = _
      rw [hk]
      rfl
  | work _ work => cases work

theorem answered_run {x : Answer} (hk : c.stage? k = some (.answered x)) (as : List Action) :
    (run b c as).stage? k = some (.answered x) :=
  run_induction (P := fun c => c.stage? k = some (.answered x)) (fun _ _ _ hm h => hm.answered h)
    hk as

/-- **Whoever launches a process is told so**, and is told nothing else. -/
theorem started_of_happens {as : List Action} (h : Happens b (Launches k) c as) :
    ∃ id line, (run b c as).stage? k = some (.answered (.started id line)) := by
  induction as generalizing c with
  | nil => exact h.elim
  | cons a as ih =>
      rcases h with now | later
      · obtain ⟨id, line, hk⟩ := started_of_launches (b := b) now
        exact ⟨id, line, answered_run hk as⟩
      · exact ih later

/-! ## In a driver -/

/-- **A driver for which a sink breaks down** abandons its process. -/
theorem drive_breaks {x : Offer} {elapsed : Elapsed} (hb : Breaks b c (.drive i x elapsed)) :
    ∃ t t', c.tasks[i]? = some t ∧ (step b c (.drive i x elapsed)).tasks[i]? = some t' ∧
      t'.handle = t.handle ∧ t'.driver = .abandoning := by
  have broken : Broken b c (c.drive b i x elapsed) := broken_of_breaks hb
  show ∃ t t', c.tasks[i]? = some t ∧ (c.drive b i x elapsed).tasks[i]? = some t' ∧ _
  cases ht : c.tasks[i]? with
  | none =>
      rw [drive_of_none ht] at broken
      exact absurd broken (not_broken_of_silent rfl)
  | some t =>
      have hs := drive_stride (b := b) ht x elapsed
      generalize c.drive b i x elapsed = c', t.occurrence? i x = o at broken hs
      cases hs with
      | work work =>
          cases work with
          | brokenText _ _ _ _ | brokenPublish _ _ | brokenClose _ _ =>
              exact ⟨t, _, rfl, set_task ht, rfl, rfl⟩
          | text _ _ _ fine | publish _ fine | close _ fine =>
              exact absurd broken (not_broken_of_fine rfl fine)
          | _ => exact absurd broken (not_broken_of_silent rfl)
      | _ => exact absurd broken (not_broken_of_silent rfl)

/-- The driver of a task that has been abandoned, so many steps before it is gone. -/
def unwinding : Nat → Driver
  | 0 => .done (.failed .join)
  | 1 => .releasing (.failed .join)
  | 2 => .signalling (.failed .join)
  | 3 => .finishing (.failed .join)
  | _ => .abandoning

/-- **A task that has been abandoned** is killed in the first step of its driver, and known to be
over after the third one. -/
structure Unwinds (h : TaskHandle) (n : Nat) (t : Task) : Prop where
  handle : t.handle = h
  driver : t.driver = unwinding n
  killed : n ≤ 3 → t.line.killed = true
  isOver : n ≤ 1 → t.line.isOver = true

theorem Unwinds.kill (hu : Unwinds h n t) : Unwinds h n t.kill where
  handle := by rw [Task.kill_handle, hu.handle]
  driver := by rw [Task.kill_driver, hu.driver]
  killed _ := Task.kill_killed t
  isOver hn := by rw [Task.kill_isOver, hu.isOver hn]

/-- **Each step of the driver** takes it one step further. -/
theorem Unwinds.drive {x : Offer} {elapsed : Elapsed} (hu : Unwinds h n t)
    (ht : c.tasks[i]? = some t) (hn : n ≤ 4) (free : n = 3 → c.lock = none) :
    ∃ t', (c.drive b i x elapsed).tasks[i]? = some t' ∧ Unwinds h (n - 1) t' := by
  have hd := hu.driver
  match n, hn with
  | 0, _ => exact ⟨t, by simp [Coordinator.drive, ht, hd, unwinding], hu⟩
  | 1, _ =>
      refine ⟨{ t with line := t.line.release, driver := unwinding 0 }, ?_, hu.handle, rfl,
        fun _ => hu.killed (by omega), fun _ => ?_⟩
      · simp [Coordinator.drive, ht, hd, unwinding, onTask]
      · exact Task.isOver_release _
  | 2, _ =>
      refine ⟨{ t with line := t.line.send true, driver := unwinding 1 }, ?_, hu.handle, rfl,
        fun _ => (Task.killed_send _ _).trans (hu.killed (by omega)), fun _ => ?_⟩
      · simp [Coordinator.drive, ht, hd, unwinding, onTask]
      · -- Whether or not the end of the line is still held, the end is known.
        simp only [TaskLine.send, TaskLine.isOver]
        split <;> simp_all
  | 3, _ =>
      refine ⟨{ t with driver := unwinding 2 }, ?_, hu.handle, rfl, fun _ => hu.killed (by omega),
        fun hn => by omega⟩
      simp [Coordinator.drive, ht, hd, unwinding, isLocked, free rfl, setDriver, onTask]
  | 4, _ =>
      refine ⟨{ t.kill with driver := unwinding 3 }, ?_, hu.kill.handle, rfl,
        fun _ => Task.kill_killed t, fun hn => by omega⟩
      simp [Coordinator.drive, ht, hd, unwinding, setDriver, onTask]

/-- **Only its own steps count**: others leave it as it is, or kill its task once more. -/
theorem Unwinds.step (hu : Unwinds h n t) (ht : c.tasks[i]? = some t) (hn : n ≤ 4) (hc : c.Orderly)
    (hs : c.Single) (a : Action) :
    ∃ t', (Coordinator.step b c a).tasks[i]? = some t' ∧
      Unwinds h (if a.actor? = some (.driver i) then n - 1 else n) t' := by
  rcases step_task (b := b) ht a with ⟨x, elapsed, rfl⟩ | ⟨other, same | ⟨killed, -⟩⟩
  · rw [Action.actor?, if_pos rfl]
    refine hu.drive ht hn fun hn => ?_
    -- The state names the task of a driver that is about to leave it, so nobody starts another.
    have running := hs i t ht (by rw [hu.driver, hn]; rfl)
    exact Classical.byContradiction fun locked => by simp [hc.locked locked] at running
  · rw [if_neg other]
    exact ⟨t, same, hu⟩
  · rw [if_neg other]
    exact ⟨t.kill, killed, hu.kill⟩

/-- A task that has left the state was killed before. -/
theorem Unwinds.killed_of_left (hu : Unwinds h n t) (ht : c.tasks[i]? = some t) (hn : n ≤ 4)
    (hs : c.Single) (left : c.state ≠ .running h) : t.line.killed = true := by
  refine Classical.byContradiction fun alive => left ?_
  have four : n = 4 := by
    have := mt hu.killed alive
    omega
  rw [← hu.handle]
  exact hs i t ht (by rw [hu.driver, four]; rfl)

/-- How many steps the driver of a task takes. -/
def strides (i : Nat) (as : List Action) : Nat := as.countP (·.actor? = some (.driver i))

/-- **However a run goes on**, the steps of its driver alone count. -/
theorem Unwinds.run (hu : Unwinds h n t) (ht : c.tasks[i]? = some t) (hn : n ≤ 4) (hc : c.Orderly)
    (hs : c.Single) (as : List Action)
    (hlen : (Coordinator.run b c as).tasks.length < UInt64.size) :
    ∃ t', (Coordinator.run b c as).tasks[i]? = some t' ∧ Unwinds h (n - strides i as) t' := by
  induction as generalizing c n t with
  | nil => exact ⟨t, ht, hu⟩
  | cons a as ih =>
      have hm := step_move b c a
      have hlen' : c.tasks.length < UInt64.size :=
        Nat.lt_of_le_of_lt (run_grows b c (a :: as)).length_le hlen
      obtain ⟨t', ht', hu'⟩ := hu.step (b := b) ht hn hc hs a
      obtain ⟨t'', ht'', hu''⟩ := ih hu' ht' (by split <;> omega) (hc.move hm)
        (hs.move hc hlen' hm) hlen
      refine ⟨t'', ht'', ?_⟩
      have count : (if a.actor? = some (.driver i) then n - 1 else n) - strides i as =
          n - strides i (a :: as) := by
        simp only [strides, List.countP_cons, decide_eq_true_eq]
        split <;> omega
      exact count ▸ hu''

/-! ## As good as before -/

/-- The state comes to name a task in a run only if a task enters it. -/
theorem running_run (b : Breakdown) (c : Coordinator) (as : List Action) :
    ∀ h, (run b c as).state = .running h →
      c.state = .running h ∨ c.tasks.length < (run b c as).tasks.length := by
  refine (run_induction (b := b) (P := fun x => c.Grows x ∧
    ∀ h, x.state = .running h → c.state = .running h ∨ c.tasks.length < x.tasks.length)
    (fun x o x' hm hx => ⟨hx.1.trans hm.grows, fun h hs => ?_⟩)
    ⟨.refl c, fun _ hs => .inl hs⟩ as).2
  have hle := hx.1.length_le
  have hle' := hm.length_le
  rcases hm.begin_of_running hs with before | began
  · exact (hx.2 h before).imp_right fun began => by omega
  · exact .inr (by omega)

/-- **A coordinator is ready**: nothing is running, and whoever asks for a task to be invoked, forced
or not, begins to start it as soon as the lock is free. -/
structure Ready (b : Breakdown) (c : Coordinator) : Prop where
  idle : c.state = .idle
  rests : c.tasks.length < UInt64.size → ∀ t ∈ c.tasks, t.driver.isAtWork = false
  starts : ∀ (k : Nat) (r : TaskRequest) (x : Obstacles),
    c.stage? k = some (.deciding (.invoke r)) → c.lock = none →
    step b c (.proceed k x) = c.engage b k r

theorem ready_of_idle (hs : c.tasks.length < UInt64.size → c.Single) (idle : c.state = .idle) :
    c.Ready b where
  idle := idle
  rests hlen t ht := by
    obtain ⟨i, hi⟩ := List.mem_iff_getElem?.mp ht
    refine (Bool.not_eq_true _).mp fun working => ?_
    have running := hs hlen i t hi working
    rw [idle] at running
    cases running
  starts k r x hk free := by
    obtain ⟨killed, hkilled⟩ := stage?_eq_some.mp hk
    simp [step, proceed, hkilled, isLocked, free, Coordinator.decide, idle, TaskState.decide]

/-- As long as no task is added, a coordinator is ready once the task of its state has left. -/
theorem ready_run {as : List Action}
    (hs : (run b c as).tasks.length < UInt64.size → (run b c as).Single)
    (left : ∀ h, c.state = .running h → (run b c as).state ≠ .running h)
    (same : (run b c as).tasks.length = c.tasks.length) : (run b c as).Ready b := by
  refine ready_of_idle hs ?_
  cases hr : (run b c as).state with
  | idle => rfl
  | running h =>
      rcases running_run b c as h hr with before | began
      · exact absurd hr (left h before)
      · omega

/-- Nobody who is told that a sink has broken down has launched a process. -/
theorem not_launches_of_broken {as : List Action}
    (hk : (run b c as).stage? k = some (.answered .broken)) : ¬ Happens b (Launches k) c as := by
  intro launched
  obtain ⟨id, line, started⟩ := started_of_happens launched
  rw [hk] at started
  cases started

/-- **A task is given up**: it has left the state, whoever waits for its end goes on, and its ticket
has come to a result that tells of the breakdown. -/
structure GivenUp (b : Breakdown) (h : TaskHandle) (c : Coordinator) : Prop where
  left : c.HasLeft h
  ended : c.isOver h.line = true
  released : ∀ (k : Nat) (p : Purpose) (x : Obstacles), c.stage? k = some (.awaiting p h) →
    (step b c (.proceed k x)).stage? k = some (.clearing p h)
  failed : ∃ t, c.tasks[h.line]? = some t ∧ t.result? = some (.failed .join)

theorem Unwinds.givenUp (hu : Unwinds h 0 t) (ht : c.tasks[h.line]? = some t) (hc : c.Orderly) :
    c.GivenUp b h := by
  have ended : c.isOver h.line = true := by
    simp [Coordinator.isOver, ht, hu.isOver]
  refine ⟨hu.handle ▸ hc.hasLeft ht (by rw [hu.driver]; rfl), ended, fun k p x hk => ?_,
    t, ht, by rw [Task.result?, hu.driver]; rfl⟩
  obtain ⟨killed, hkilled⟩ := stage?_eq_some.mp hk
  show (c.proceed b k x).stage? k = _
  unfold proceed
  rw [hkilled]
  dsimp only
  rw [if_pos ended, stage?_setStage, if_pos rfl, hk]
  rfl

/-- **The run after a breakdown in a driver**: its task leaves the state only when it has been killed,
and four steps of the driver are enough to give it up. -/
theorem Unwinds.recovers (hu : Unwinds h 4 t) (ht : c.tasks[h.line]? = some t) (hc : c.Orderly)
    (hs : c.Single) (as : List Action)
    (hlen : (Coordinator.run b c as).tasks.length < UInt64.size) :
    c.state = .running h ∧
    (4 ≤ strides h.line as → (Coordinator.run b c as).GivenUp b h) ∧
    ((Coordinator.run b c as).state ≠ .running h →
      (Coordinator.run b c as).wasKilled h.line = true ∧
      ((Coordinator.run b c as).tasks.length = c.tasks.length →
        (Coordinator.run b c as).Ready b)) := by
  have running : c.state = .running h := hu.handle ▸ hs _ t ht (by rw [hu.driver]; rfl)
  have hs' : (Coordinator.run b c as).Single := hs.run hc as hlen
  obtain ⟨t', ht', hu'⟩ := hu.run ht (Nat.le_refl 4) hc hs as hlen
  refine ⟨running, fun four => ?_, fun left => ⟨?_, ready_run (fun _ => hs') fun h' named => ?_⟩⟩
  · rw [show 4 - strides h.line as = 0 by omega] at hu'
    exact hu'.givenUp ht' (hc.run as)
  · have killed := hu'.killed_of_left ht' (by omega) hs' left
    simp [wasKilled, ht', killed]
  · rw [running] at named
    exact TaskState.running.inj named ▸ left

/-- **A sink that breaks down never leaves a coordinator stuck**, whenever it does so and in
whichever call.

In a start, the state was idle and still is; no number is used up, the caller is told, and it has
not launched and will not launch a process. In the driver of a task, as long as numbers tell tasks
apart, the task is still in the state; whenever the state does not name it any more, the task has
been killed; and after four steps of its driver it has left the state, all who wait for it go on,
and its ticket has come to the failure of a driver that broke down. In both cases the coordinator is
ready from then on for as long as no task is added. -/
theorem never_stuck (tool : Tool) (b : Breakdown) (as : List Action) (a : Action)
    (hb : Breaks b (run b (new tool) as) a) :
    let c := run b (new tool) as
    let c' := step b c a
    (∃ k x, a = .proceed k x ∧ Undone k c c' ∧
      ∀ as', ¬ Happens b (Launches k) (new tool) (as ++ a :: as') ∧
        ((run b c' as').tasks.length = c'.tasks.length → (run b c' as').Ready b)) ∨
    (∃ i x elapsed t, a = .drive i x elapsed ∧ c.tasks[i]? = some t ∧
      ∀ as', let c'' := run b c' as'
        c''.tasks.length < UInt64.size →
        c'.state = .running t.handle ∧
        (4 ≤ strides i as' → c''.GivenUp b t.handle) ∧
        (c''.state ≠ .running t.handle → c''.wasKilled i = true ∧
          (c''.tasks.length = c'.tasks.length → c''.Ready b))) := by
  intro c c'
  have hc : c.Orderly := run_orderly tool b as
  have hc' : c'.Orderly := hc.move (step_move b c a)
  have single : ∀ as', (run b c' as').tasks.length < UInt64.size → (run b c' as').Single := by
    intro as'
    have h := run_single tool b (as ++ a :: as')
    rwa [run_append] at h
  -- Only two kinds of steps call a sink: those of a caller that starts a task, and those of a driver.
  cases a with
  | call d => exact absurd (broken_of_breaks hb) (not_broken_of_silent rfl)
  | follow x => exact absurd (broken_of_breaks hb) (not_broken_of_silent ((congrArg calls (follow_eq c x)).trans rfl))
  | proceed k x =>
      have undone : Undone k c c' := proceed_breaks hc hb
      refine .inl ⟨k, x, rfl, undone, fun as' => ⟨?_, ready_run (single as') ?_⟩⟩
      · have told := answered_run (b := b) undone.told as'
        refine not_launches_of_broken (k := k) ?_
        rw [run_append]
        exact told
      · intro h named
        rw [undone.idle] at named
        cases named
  | drive i x elapsed =>
      obtain ⟨t, t', ht, ht', hh, abandoning⟩ := drive_breaks hb
      obtain rfl : t.handle.line = i := (hc.numbered i t ht).1
      -- Four steps of the driver are to come: the kill, and three by which it leaves.
      have hu : Unwinds t.handle 4 t' := ⟨hh, abandoning, nofun, nofun⟩
      refine .inr ⟨_, x, elapsed, t, rfl, ht, fun as' hlen => ?_⟩
      have hs' : c'.Single := single [] (Nat.lt_of_le_of_lt (run_grows b c' as').length_le hlen)
      exact hu.recovers ht' hc' hs' as' hlen

/-- A sink breaks down once, after `n` calls. -/
def breakingAfter (n : Nat) : Breakdown := fun calls _ => calls.length = n

def starting : List Action :=
  [.call (.invoke { command := "build", workingDirectory := "/w" }), .proceed 0 {}, .proceed 0 {},
    .proceed 0 {}]

/-- The first line of its process. -/
def firstLine : Action := .drive 0 { arrival := .line (.output "boom") } (.ofMicros 0)

/-- Somebody stops it, and its driver leaves. -/
def stopping : List Action :=
  let leave : Action := .drive 0 {} (.ofMicros 0)
  [.call .stop, .proceed 1 {}, .proceed 1 {}, leave, leave, leave, leave]

/-- The announcement of a task breaks down; in another run, its first line. -/
theorem never_stuck_firstLine :
    (let b := breakingAfter 1
    let deciding := run b (new cargo) (starting.take 2)
    ∃ k, Undone k deciding (step b deciding (.proceed 0 {}))) ∧
    (let b := breakingAfter 2
    let broken := step b (run b (new cargo) starting) firstLine
    ∃ h, broken.state = .running h ∧ (run b broken stopping).GivenUp b h ∧
      (run b broken stopping).Ready b) := by
  constructor
  · have h := never_stuck cargo (breakingAfter 1) (starting.take 2) (.proceed 0 {}) (by decide)
    rcases h with ⟨k, x, -, undone, -⟩ | ⟨i, x, elapsed, t, other, -⟩
    · exact ⟨k, undone⟩
    · cases other
  · intro b broken
    have h := never_stuck cargo b starting firstLine (by decide)
    rcases h with ⟨k, x, other, -⟩ | ⟨i, x, elapsed, t, drives, -, rest⟩
    · cases other
    · cases drives
      have one : (run b broken stopping).tasks.length = 1 := by decide +kernel
      obtain ⟨running, givenUp, ready⟩ :=
        rest stopping (Nat.lt_of_le_of_lt (Nat.le_of_eq one) (by decide))
      have gone := givenUp (by decide)
      exact ⟨t.handle, running, gone, (ready gone.left.1).2 (one.trans (by decide +kernel))⟩

end BuildRunner.Coordinator
