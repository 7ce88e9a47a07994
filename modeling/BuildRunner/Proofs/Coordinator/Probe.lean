import BuildRunner.Proofs.Coordinator.Launches
import BuildRunner.Proofs.Process.Turn

set_option autoImplicit false

/-! # The probe

Whether the tool has a `check` is found out by one process, the probe, and is not asked again.
`Inquiry` lists what a step can do that has to do with the probe, be it a step of a caller that wants
to know or of the probe itself; nothing of the rest of the coordinator changes in it
(`Inquiry.apart`). All other steps leave the probe alone (`step_probe`). So what the probe has said
once holds for every caller that asks, early or late, and `probe_decides` says so of every run.
-/

namespace BuildRunner

/-- Whether a launch is that of a **probe**: it asks the tool for the help of its `check`. -/
def Tool.isProbe (t : Tool) (l : Launch) : Bool :=
  l.program = t.program ∧ l.arguments = ["check", "--help"]

/-- The stage of a caller **behind the probe**: it is told what the probe has said, or goes on with the
request for its check like any caller with a request. -/
def Tool.afterProbe (t : Tool) (s : CheckSupport) (dir : String) : AfterProbe → Stage
  | .tell => .answered (.support s)
  | .check target force => (Demand.invoke (t.checkRequest s dir target force)).stage

namespace Coordinator

/-! ## Inquiries -/

/-- A step has to do **with the probe**: it is one of the probe, or of a caller that wants to know
whether there is a `check`. -/
def Inquires (c : Coordinator) : Action → Prop
  | .follow _ => True
  | .proceed k _ => ∃ dir next, c.stage? k = some (.probing dir next)
  | _ => False

/-- **What can happen to the probe**, and to the callers that wait for it. -/
inductive Inquiry (c : Coordinator) : Action → Coordinator → Prop
  /-- The first caller launches the probe. -/
  | launch {k : Nat} {o : Obstacles} {dir : String} {next : AfterProbe}
      (asking : c.stage? k = some (.probing dir next)) (unasked : c.probe = .unasked)
      (free : o.launch = none) :
      Inquiry c (.proceed k o) { c with probe := .running .start, probes := c.probes + 1 }
  /-- The first caller cannot launch it. -/
  | fail {k : Nat} {o : Obstacles} {dir : String} {next : AfterProbe} {e : LaunchError}
      (asking : c.stage? k = some (.probing dir next)) (unasked : c.probe = .unasked)
      (failed : o.launch = some e) : Inquiry c (.proceed k o) { c with probe := .settled .supported }
  /-- A caller waits for the probe. -/
  | await {k : Nat} {o : Obstacles} {dir : String} {next : AfterProbe} {run : Run}
      (asking : c.stage? k = some (.probing dir next)) (running : c.probe = .running run) :
      Inquiry c (.proceed k o) c
  /-- A caller learns what the probe has said, and goes on. -/
  | learn {k : Nat} {o : Obstacles} {dir : String} {next : AfterProbe} {s : CheckSupport}
      (asking : c.stage? k = some (.probing dir next)) (settled : c.probe = .settled s) :
      Inquiry c (.proceed k o) (c.setStage k (c.tool.afterProbe s dir next))
  | turn {o : Offer} {run : Run} (running : c.probe = .running run)
      (open' : (run.turn { o with killed := false }).1.result? = none) :
      Inquiry c (.follow o) { c with probe := .running (run.turn { o with killed := false }).1 }
  /-- The probe ends. -/
  | ending {o : Offer} {run : Run} {r : RunResult} (running : c.probe = .running run)
      (ended : (run.turn { o with killed := false }).1.result? = some r) :
      Inquiry c (.follow o) { c with probe := .settled (supportOf r) }
  | idle {o : Offer} (still : ∀ run, c.probe ≠ .running run) : Inquiry c (.follow o) c

variable {b : Breakdown} {c c' : Coordinator} {a : Action} {k : Nat} {s : CheckSupport}
  {p : Purpose} {r : RunResult} {dir : String} {next : AfterProbe} {target : Option CheckTarget}
  {force : Bool}

theorem ask_inquiry (asking : c.stage? k = some (.probing dir next)) (o : Obstacles) :
    Inquiry c (.proceed k o) (c.ask k dir next o.launch) := by
  unfold ask
  cases hp : c.probe with
  | unasked =>
      cases ho : o.launch with
      | none => exact .launch asking hp ho
      | some e => exact .fail asking hp ho
  | running run => exact .await asking hp
  | settled s =>
      cases next <;> exact .learn asking hp

theorem follow_inquiry (o : Offer) : Inquiry c (.follow o) (c.follow o) := by
  unfold follow
  cases hp : c.probe with
  | running run =>
      dsimp only
      cases hr : (run.turn { o with killed := false }).1.result? with
      | none => exact .turn hp hr
      | some r => exact .ending hp hr
  | unasked => exact .idle (by simp [hp])
  | settled s => exact .idle (by simp [hp])

/-- **Nothing else happens** to the probe in a step that has to do with it. -/
theorem step_inquiry (b : Breakdown) (h : c.Inquires a) : Inquiry c a (step b c a) := by
  cases a with
  | follow o => exact follow_inquiry o
  | proceed k o =>
      obtain ⟨dir, next, asking⟩ := h
      obtain ⟨killed, there⟩ := stage?_eq_some.mp asking
      have asks : step b c (.proceed k o) = c.ask k dir next o.launch := by
        simp [step, proceed, there]
      rw [asks]
      exact ask_inquiry asking o
  | call d => exact h.elim
  | drive line o elapsed => exact h.elim

/-- An inquiry **keeps apart from tasks**: it takes no number, changes neither the state nor any task,
and calls no sink. -/
theorem Inquiry.apart (h : Inquiry c a c') : c'.state = c.state ∧ c'.lock = c.lock ∧
    c'.nextId = c.nextId ∧ c'.tasks = c.tasks ∧ c'.calls = c.calls := by
  cases h <;> exact ⟨rfl, rfl, rfl, rfl, rfl⟩

/-! ## All other steps -/

/-- What a driver does leaves the probe alone. -/
theorem Stride.probe {line : Nat} {t : Task} {o : Option Occurrence} (h : Stride b c line t o c') :
    c'.probe = c.probe ∧ c'.probes = c.probes := by
  cases h <;> exact ⟨rfl, rfl⟩

theorem decide_probe : (c.decide b k p).probe = c.probe ∧ (c.decide b k p).probes = c.probes := by
  unfold decide
  cases p with
  | stop => dsimp only; split <;> exact ⟨rfl, rfl⟩
  | invoke r =>
      dsimp only
      cases c.state.decide r.force with
      | drop | preempt h => exact ⟨rfl, rfl⟩
      | start => cases hb : b c.calls .clear <;> simp [engage, emit, hb, setStage, unlock]

theorem start_probe (r : TaskRequest) (failure : Option LaunchError) (n : Starting) :
    (c.start b k r failure n).probe = c.probe ∧ (c.start b k r failure n).probes = c.probes := by
  cases n with
  | announcing =>
      cases hb : b c.calls (.text (c.tool.announcement r)) <;>
        simp [start, emit, hb, setStage, unlock]
  | launching => cases failure <;> exact ⟨rfl, rfl⟩
  | notifying e => rw [start_notifying]; exact ⟨rfl, rfl⟩

/-- **A step that has nothing to do with the probe** leaves it alone. -/
theorem step_probe (h : ¬ c.Inquires a) :
    (step b c a).probe = c.probe ∧ (step b c a).probes = c.probes := by
  cases a with
  | call d => exact ⟨rfl, rfl⟩
  | follow o => exact absurd trivial h
  | drive line o elapsed =>
      cases ht : c.tasks[line]? with
      | none => rw [step, drive_of_none ht]; exact ⟨rfl, rfl⟩
      | some t => exact (drive_stride ht o elapsed).probe
  | proceed k o =>
      rw [step]
      unfold proceed
      cases hk : c.callers[k]? with
      | none => exact ⟨rfl, rfl⟩
      | some x =>
          obtain ⟨stage, killed⟩ := x
          cases stage with
          | probing dir next => exact absurd ⟨dir, next, stage?_eq_some.mpr ⟨killed, hk⟩⟩ h
          | deciding p =>
              dsimp only
              split
              · exact ⟨rfl, rfl⟩
              · exact decide_probe
          | starting r n => exact start_probe r o.launch n
          | awaiting p h | clearing p h => dsimp only; split <;> exact ⟨rfl, rfl⟩
          | killing p h | answered a | unsignalled reason => exact ⟨rfl, rfl⟩

/-! ## How many probes are launched -/

/-- The process of a task is no probe: a `check` that is requested has the flags for messages in front
of its own arguments. -/
theorem isProbe_launchFor (t : Tool) (r : TaskRequest) : t.isProbe (t.launchFor r) = false := by
  have other : r.command = "check" → augment r.command r.args ≠ ["--help"] := by
    intro check
    simp [check, augment, reportsJson, reportingCommands, messageFormatFlags]
  simpa [Tool.isProbe, Tool.launchFor, Launch.arguments] using other

theorem isProbe_probeIn (t : Tool) (dir : String) : t.isProbe (t.probeIn dir) = true := by
  simp [Tool.isProbe, Tool.probeIn, Launch.arguments]

/-- Every launch of a probe is counted. -/
theorem step_probes (b : Breakdown) (c : Coordinator) (a : Action) :
    (step b c a).probes = c.probes + (c.launched? a).toList.countP c.tool.isProbe := by
  -- What is launched is a probe if nobody has asked yet, and else the process of a task.
  have none_of : (∀ dir, c.launched? a ≠ some (c.tool.probeIn dir)) →
      (c.launched? a).toList.countP c.tool.isProbe = 0 := by
    intro other
    cases hl : c.launched? a with
    | none => rfl
    | some l =>
        obtain ⟨k, o, -, -, ⟨r, -, rfl⟩ | ⟨dir, -, -, -, rfl⟩⟩ := launched?_cases hl
        · simp [isProbe_launchFor]
        · exact absurd hl (other dir)
  by_cases h : c.Inquires a
  · have hi := step_inquiry b h
    generalize step b c a = c' at hi
    cases hi with
    | launch asking unasked free => simp [launched?, asking, unasked, free, isProbe_probeIn]
    | fail asking unasked failed => simp [launched?, failed]
    | await asking settled | learn asking settled =>
        refine (congrArg (c.probes + ·) (none_of fun dir hl => ?_)).symm
        obtain ⟨k, o, ha, -, ⟨r, hk, -⟩ | ⟨dir, next, -, unasked, -⟩⟩ := launched?_cases hl
        · cases ha
          rw [asking] at hk
          cases hk
        · rw [settled] at unasked
          cases unasked
    | turn _ _ | ending _ _ | idle _ => rfl
  · rw [(step_probe h).2, none_of]
    · rfl
    · intro dir hl
      obtain ⟨k, o, rfl, -, ⟨r, hk, same⟩ | ⟨dir, next, hk, -⟩⟩ := launched?_cases hl
      · have probes := isProbe_launchFor c.tool r
        rw [← same, isProbe_probeIn] at probes
        cases probes
      · exact h ⟨dir, next, hk⟩

theorem run_probes (b : Breakdown) (c : Coordinator) (as : List Action) :
    (run b c as).probes = c.probes + (launches b c as).countP c.tool.isProbe := by
  induction as generalizing c with
  | nil => rfl
  | cons a as ih =>
      have tool : (step b c a).tool = c.tool := (step_move b c a).tool
      have rest := ih (step b c a)
      rw [step_probes, tool] at rest
      rw [launches, List.countP_append, ← Nat.add_assoc]
      exact rest

/-- **How far the probe is**, and how many were launched by then. -/
structure Probed (c : Coordinator) : Prop where
  unasked : c.probe = .unasked → c.probes = 0
  running : ∀ run, c.probe = .running run → c.probes = 1 ∧ run.result? = none
  once : c.probes ≤ 1
  unsupported : c.probe = .settled .unsupported → c.probes = 1

theorem Probed.step (h : c.Probed) (b : Breakdown) (a : Action) : (step b c a).Probed := by
  by_cases hi : c.Inquires a
  · have hi := step_inquiry b hi
    generalize Coordinator.step b c a = c' at hi
    cases hi with
    | launch asking unasked free =>
        refine ⟨nofun, fun run hr => ⟨?_, ?_⟩, ?_, nofun⟩
        · simp [h.unasked unasked]
        · obtain rfl := Probe.running.inj hr
          rfl
        · simp [h.unasked unasked]
    | fail asking unasked failed => exact ⟨nofun, nofun, h.once, nofun⟩
    | await asking running => exact h
    | learn asking settled => exact ⟨h.unasked, h.running, h.once, h.unsupported⟩
    | turn running open' =>
        refine ⟨nofun, fun run hr => ⟨(h.running _ running).1, ?_⟩, h.once, nofun⟩
        obtain rfl := Probe.running.inj hr
        exact open'
    | ending running ended => exact ⟨nofun, nofun, h.once, fun _ => (h.running _ running).1⟩
    | idle still => exact h
  · obtain ⟨probe, probes⟩ := step_probe (b := b) hi
    refine ⟨?_, ?_, ?_, ?_⟩ <;> rw [probes]
    · exact probe ▸ h.unasked
    · exact probe ▸ h.running
    · exact h.once
    · exact probe ▸ h.unsupported

theorem Probed.run (h : c.Probed) (b : Breakdown) (as : List Action) :
    (Coordinator.run b c as).Probed := by
  induction as generalizing c with
  | nil => exact h
  | cons a as ih => exact ih (h.step b a)

theorem probed_new (tool : Tool) : (new tool).Probed := by
  constructor <;> simp [new]

/-! ## What the probe has said -/

/-- **What the probe has said stays.** -/
theorem settled_step (h : c.probe = .settled s) (b : Breakdown) (a : Action) :
    (step b c a).probe = .settled s := by
  by_cases hi : c.Inquires a
  · have hi := step_inquiry b hi
    generalize step b c a = c' at hi
    cases hi with
    | launch _ other _ | fail _ other _ | turn other _ | ending other _ =>
        rw [h] at other
        cases other
    | await _ _ | learn _ _ | idle _ => exact h
  · exact (step_probe hi).1.trans h

theorem settled_run (h : c.probe = .settled s) (b : Breakdown) (as : List Action) :
    (run b c as).probe = .settled s := by
  induction as generalizing c with
  | nil => exact h
  | cons a as ih => exact ih (settled_step h b a)

/-- **The probe finds no `check`**: its end is collected, and it has not exited with 0. -/
def FindsNone (c : Coordinator) : Action → Prop
  | .follow o => ∃ run code, c.probe = .running run ∧
      (run.turn { o with killed := false }).1.result? = some (.outcome (.exited code)) ∧ code ≠ some 0
  | _ => False

/-- A probe that has ended does not end once more. -/
theorem not_findsNone_of_settled (h : c.probe = .settled s) (b : Breakdown) (as : List Action) :
    ¬ Happens b FindsNone c as := by
  induction as generalizing c with
  | nil => exact id
  | cons a as ih =>
      rintro (now | later)
      · cases a with
        | follow o =>
            obtain ⟨run, code, running, -⟩ := now
            rw [h] at running
            cases running
        | _ => exact now
      · exact ih (settled_step h b a) later

/-- Only an exit with another code than 0 speaks against the tool. Nobody kills the probe, so it is not
cancelled. -/
theorem supportOf_eq_unsupported {run : Run} {o : Offer} (open' : run.result? = none)
    (ended : (run.turn { o with killed := false }).1.result? = some r) :
    supportOf r = .unsupported ↔ ∃ code, r = .outcome (.exited code) ∧ code ≠ some 0 := by
  rcases Run.result_turn open' ended with rfl | ⟨code, rfl⟩
  · simp [supportOf]
  · simp only [Run.resultOf, Bool.false_eq_true, if_false]
    cases code with
    | none => simp [supportOf]
    | some n =>
        by_cases hn : n = 0
        · simp [supportOf, hn]
        · simp [supportOf, hn]

/-- **The tool counts as one without `check`** exactly if the probe has found none. -/
theorem unsupported_iff (hc : c.Probed) (unsettled : ∀ s, c.probe ≠ .settled s) (b : Breakdown)
    (as : List Action) :
    (run b c as).probe = .settled .unsupported ↔ Happens b FindsNone c as := by
  -- By induction on the actions: as long as nothing is settled a step says nothing, and the step that
  -- settles the probe says all, since it stays settled.
  induction as generalizing c with
  | nil => simp [run, Happens, unsettled]
  | cons a as ih =>
      have goes_on : ¬ c.FindsNone a → (∀ s, (step b c a).probe ≠ .settled s) →
          ((run b c (a :: as)).probe = .settled .unsupported ↔ Happens b FindsNone c (a :: as)) :=
        fun silent open' => (ih (hc.step b a) open').trans (or_iff_right silent).symm
      have ends : ∀ s, (step b c a).probe = .settled s →
          ((run b c (a :: as)).probe = .settled .unsupported ↔ s = .unsupported) := by
        intro s settled
        rw [show run b c (a :: as) = run b (step b c a) as from rfl, settled_run settled]
        exact Probe.settled.injEq s .unsupported ▸ Iff.rfl
      by_cases hi : c.Inquires a
      · have inquiry := step_inquiry b hi
        generalize hstep : step b c a = c' at inquiry goes_on ends
        cases inquiry with
        | launch _ _ _ => exact goes_on id (by simp)
        | fail _ _ _ =>
            refine (ends .supported rfl).trans (iff_of_false (by simp) ?_)
            rintro (now | later)
            · exact now
            · exact not_findsNone_of_settled (s := .supported) (by rw [hstep]) b as later
        | await _ _ => exact goes_on id unsettled
        | learn _ settled => exact absurd settled (unsettled _)
        | turn running open' =>
            refine goes_on ?_ (by simp)
            rintro ⟨run, code, running', ended, -⟩
            obtain rfl := Probe.running.inj (running.symm.trans running')
            rw [open'] at ended
            cases ended
        | @ending o run r running ended =>
            refine (ends (supportOf r) rfl).trans ?_
            rw [supportOf_eq_unsupported (hc.running run running).2 ended]
            constructor
            · rintro ⟨code, rfl, other⟩
              exact .inl ⟨run, code, running, ended, other⟩
            · rintro (⟨run', code, running', ended', other⟩ | later)
              · obtain rfl := Probe.running.inj (running.symm.trans running')
                exact ⟨code, Option.some.inj (ended.symm.trans ended'), other⟩
              · exact absurd later
                  (not_findsNone_of_settled (s := supportOf r) (by rw [hstep]) b as)
        | idle _ =>
            refine goes_on ?_ unsettled
            rintro ⟨_, _, running, _⟩
            simp_all
      · refine goes_on (fun now => hi ?_) fun s => (step_probe hi).1 ▸ unsettled s
        cases a <;> trivial

/-! ## Those who ask -/

/-- Whoever waits for the probe goes on waiting, or learns what it has said. -/
theorem step_probing (asking : c.stage? k = some (.probing dir next)) (b : Breakdown) (a : Action) :
    (step b c a).stage? k = some (.probing dir next) ∨
      ∃ s, c.probe = .settled s ∧ (step b c a).stage? k = some (c.tool.afterProbe s dir next) := by
  obtain ⟨killed, there⟩ := stage?_eq_some.mp asking
  by_cases own : a.actor? = some (.caller k)
  · obtain ⟨o, rfl⟩ := Action.eq_proceed own
    have inquiry := step_inquiry b (a := .proceed k o) ⟨dir, next, asking⟩
    generalize step b c (.proceed k o) = c' at inquiry
    cases inquiry with
    | launch _ _ _ | fail _ _ _ | await _ _ => exact .inl asking
    | @learn k o dir' next' s asking' settled =>
        rw [asking] at asking'
        cases asking'
        exact .inr ⟨s, settled, stage?_eq_some.mpr ⟨killed, callers_setStage there _⟩⟩
  · exact .inl (stage?_eq_some.mpr ⟨killed, step_caller_of_ne there own⟩)

/-- When the probe has said something, whoever waits for it goes on with that. -/
theorem proceed_of_settled (asking : c.stage? k = some (.probing dir next))
    (settled : c.probe = .settled s) (b : Breakdown) (o : Obstacles) :
    (step b c (.proceed k o)).stage? k = some (c.tool.afterProbe s dir next) := by
  have inquiry := step_inquiry b (a := .proceed k o) ⟨dir, next, asking⟩
  obtain ⟨killed, there⟩ := stage?_eq_some.mp asking
  generalize step b c (.proceed k o) = c' at inquiry
  cases inquiry with
  | launch _ other _ | fail _ other _ | await _ other =>
      rw [settled] at other
      cases other
  | learn asking' settled' =>
      rw [asking] at asking'
      cases asking'
      obtain rfl := Probe.settled.inj (settled.symm.trans settled')
      exact stage?_eq_some.mpr ⟨killed, callers_setStage there _⟩

/-- **Whoever only wants to know** waits for the probe, or is told what it has said. -/
theorem run_telling (asking : c.stage? k = some (.probing dir .tell)) (b : Breakdown)
    (as : List Action) :
    (run b c as).stage? k = some (.probing dir .tell) ∨
      ∃ s, (run b c as).probe = .settled s ∧
        (run b c as).stage? k = some (.answered (.support s)) := by
  induction as generalizing c with
  | nil => exact .inl asking
  | cons a as ih =>
      rcases step_probing asking b a with waits | ⟨s, settled, told⟩
      · exact ih waits
      · obtain ⟨killed, there⟩ := stage?_eq_some.mp told
        exact .inr ⟨s, settled_run (settled_step settled b a) b as,
          stage?_eq_some.mpr ⟨killed, run_ended there rfl as⟩⟩

/-- A caller that has waited for the probe **goes on with a request**. -/
def Requests (b : Breakdown) (k : Nat) (r : TaskRequest) (c : Coordinator) (a : Action) : Prop :=
  (∃ dir next, c.stage? k = some (.probing dir next)) ∧
    (step b c a).stage? k = some (Demand.invoke r).stage

/-- A caller with a purpose does not come back to the probe. -/
theorem not_requests_of_keeps (h : c.Keeps k p) (r : TaskRequest) (as : List Action) :
    ¬ Happens b (Requests b k r) c as := by
  induction as generalizing c with
  | nil => exact id
  | cons a as ih =>
      rintro (⟨⟨dir, next, asking⟩, -⟩ | later)
      · obtain ⟨s, hk, kept⟩ := h
        obtain rfl := Option.some.inj (asking.symm.trans hk)
        rcases kept with kept | kept <;> cases kept
      · exact ih (step_purpose h a) later

/-- **Whoever wants to check** waits for the probe, or has gone on with one request, which is made for
what the probe has said. -/
theorem run_checking (asking : c.stage? k = some (.probing dir (.check target force)))
    (b : Breakdown) (as : List Action) :
    ((run b c as).stage? k = some (.probing dir (.check target force)) ∧
      ∀ r, ¬ Happens b (Requests b k r) c as) ∨
    ∃ s, (run b c as).probe = .settled s ∧
      ∀ r, Happens b (Requests b k r) c as ↔ r = c.tool.checkRequest s dir target force := by
  induction as generalizing c with
  | nil => exact .inl ⟨asking, fun _ => id⟩
  | cons a as ih =>
      rcases step_probing asking b a with waits | ⟨s, settled, goes_on⟩
      · have silent : ∀ r, ¬ c.Requests b k r a := fun r now => by
          rw [Requests, waits] at now
          cases now.2
        rcases ih waits with ⟨still, never⟩ | ⟨s, settled, requests⟩
        · exact .inl ⟨still, fun r => not_or.mpr ⟨silent r, never r⟩⟩
        · refine .inr ⟨s, settled, fun r => (or_iff_right (silent r)).trans ?_⟩
          rw [requests r, (step_move b c a).tool]
      · refine .inr ⟨s, settled_run (settled_step settled b a) b as, fun r => ?_⟩
        have keeps : (step b c a).Keeps k (.invoke (c.tool.checkRequest s dir target force)) :=
          ⟨_, goes_on, .inl rfl⟩
        refine (or_iff_left (not_requests_of_keeps keeps r as)).trans ?_
        rw [Requests, goes_on]
        constructor
        · rintro ⟨-, same⟩
          cases same
          rfl
        · rintro rfl
          exact ⟨⟨_, _, asking⟩, rfl⟩

/-- **What is started for a check** is the request that what the probe has said stands for. -/
theorem isRun_of_checking {id : TaskId} {line : Nat} {as : List Action}
    (asking : c.stage? k = some (.probing dir (.check target force)))
    (told : (run b c as).stage? k = some (.answered (.started id line))) :
    ∃ s, (run b c as).probe = .settled s ∧
      IsRun b k line (c.tool.launchFor (c.tool.checkRequest s dir target force)) c as := by
  induction as generalizing c with
  | nil =>
      rw [show run b c [] = c from rfl, asking] at told
      cases told
  | cons a as ih =>
      have same : (step b c a).tool = c.tool := (step_move b c a).tool
      rcases step_probing asking b a with waits | ⟨s, settled, goes_on⟩
      · obtain ⟨s, settled, runs⟩ := ih waits told
        exact ⟨s, settled, (same ▸ runs).cons⟩
      · have keeps : (step b c a).Keeps k (.invoke (c.tool.checkRequest s dir target force)) :=
          ⟨_, goes_on, .inl rfl⟩
        have open' : (step b c a).stage? k ≠ some (.answered (.started id line)) := by
          rw [goes_on]
          nofun
        have runs := isRun_of_started keeps open' told
        exact ⟨s, settled_run (settled_step settled b a) b as, (same ▸ runs).cons⟩

/-! ## Every run -/

/-- **One value holds for a whole run**. While the probe has said nothing, nobody has got further, and
either value will do. -/
theorem exists_value (hc : c.Probed) (unsettled : ∀ s, c.probe ≠ .settled s) (b : Breakdown)
    (as : List Action) : ∃ s : CheckSupport, (s = .unsupported ↔ Happens b FindsNone c as) ∧
      ∀ x, (run b c as).probe = .settled x → x = s := by
  have found := unsupported_iff hc unsettled b as
  by_cases h : Happens b FindsNone c as
  · refine ⟨.unsupported, iff_of_true rfl h, fun x hx => ?_⟩
    exact Probe.settled.inj (hx.symm.trans (found.mpr h))
  · refine ⟨.supported, iff_of_false nofun h, fun x hx => ?_⟩
    cases x with
    | supported => rfl
    | unsupported => exact absurd (found.mp hx) h

/-- **The probe decides once and for all**, over every run: calls of any kind may overlap, what can be
launched may change from step to step, and sinks may break down.

At most one probe is launched. One value holds for the whole run: the tool counts as one without
`check` exactly if a probe was launched, its end was collected, and it did not exit with 0. What the
probe has said stays, whatever happens later. Whoever wants to know waits for the probe or is told
this value; whoever wants to check waits for it or goes on with one request, namely the command and
the arguments that this value stands for and the target of the call, or that of the settings if it
has none; and who waits goes on in its first step after the probe has said it. No step that has to do
with the probe takes a number, changes the state or a task, or calls a sink. -/
theorem probe_decides (tool : Tool) (b : Breakdown) (as : List Action) :
    let c := run b (new tool) as
    let probes := (launches b (new tool) as).countP tool.isProbe
    probes ≤ 1 ∧
    (∃ s : CheckSupport,
      (s = .unsupported ↔ probes = 1 ∧ Happens b FindsNone (new tool) as) ∧
      (∀ x, c.probe = .settled x → x = s ∧ ∀ as', (run b c as').probe = .settled s) ∧
      ∀ as₁ d as₂, as = as₁ ++ .call d :: as₂ →
        let k := (run b (new tool) as₁).callers.length
        let c₁ := (run b (new tool) as₁).call d
        (∀ dir, d = .support dir →
          c.stage? k = some (.probing dir .tell) ∨ c.stage? k = some (.answered (.support s))) ∧
        ∀ dir target force, d = .check dir target force →
          let check := s.commandFor (target.getD tool.checkTarget)
          let request : TaskRequest := {
            command := check.1, args := check.2, workingDirectory := dir, force := force }
          (∀ r, Happens b (Requests b k r) c₁ as₂ → r = request) ∧
          (c.stage? k = some (.probing dir (.check target force)) ∨
            Happens b (Requests b k request) c₁ as₂)) ∧
    (∀ k dir next x o, c.stage? k = some (.probing dir next) → c.probe = .settled x →
      (step b c (.proceed k o)).stage? k = some (tool.afterProbe x dir next)) ∧
    (∀ a, c.Inquires a → (step b c a).state = c.state ∧ (step b c a).lock = c.lock ∧
      (step b c a).nextId = c.nextId ∧ (step b c a).tasks = c.tasks ∧
      (step b c a).calls = c.calls) := by
  intro c probes
  have probed : c.Probed := (probed_new tool).run b as
  have named : c.tool = tool := run_tool b (new tool) as
  have counted : c.probes = probes := by
    have h := run_probes b (new tool) as
    rwa [show (new tool).probes = 0 from rfl, Nat.zero_add] at h
  have unsettled : ∀ s, (new tool).probe ≠ .settled s := by simp [new]
  -- The value is fixed before anything is said about calls, so it is the same for all of them.
  obtain ⟨s, unsupported, settled⟩ : ∃ s : CheckSupport,
      (s = .unsupported ↔ Happens b FindsNone (new tool) as) ∧ ∀ x, c.probe = .settled x → x = s :=
    exists_value (probed_new tool) unsettled b as
  refine ⟨counted ▸ probed.once, ⟨s, ?_, fun x hx => ?_, ?_⟩,
    fun k dir next x o asking said => named ▸ proceed_of_settled asking said b o,
    fun a h => (step_inquiry b h).apart⟩
  · rw [unsupported, iff_and_self, ← counted]
    exact fun h => probed.unsupported ((unsupported_iff (probed_new tool) unsettled b as).mpr h)
  · obtain rfl := settled x hx
    exact ⟨rfl, settled_run hx b⟩
  · intro as₁ d as₂ split k c₁
    -- What is known of the whole run is used for the part of it behind the call.
    have later : c = run b c₁ as₂ := by
      simp only [c, split, run_append]
      rfl
    have comes : c₁.stage? k = some d.stage := by
      simp [c₁, k, stage?, call]
    have same : c₁.tool = tool := run_tool b (new tool) as₁
    refine ⟨?_, ?_⟩
    · rintro dir rfl
      rw [later] at settled ⊢
      rcases run_telling comes b as₂ with waits | ⟨x, said, told⟩
      · exact .inl waits
      · exact .inr (settled x said ▸ told)
    · rintro dir target force rfl
      rw [later] at settled ⊢
      rcases run_checking comes b as₂ with ⟨waits, never⟩ | ⟨x, said, requests⟩
      · exact ⟨fun r h => absurd h (never r), .inl waits⟩
      · obtain rfl := settled x said
        rw [same] at requests
        exact ⟨fun r h => (requests r).mp h, .inr ((requests _).mpr rfl)⟩

end Coordinator
end BuildRunner
