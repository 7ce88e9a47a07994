import BuildRunner.Proofs.Coordinator.Probe
import BuildRunner.Proofs.Coordinator.Serial

set_option autoImplicit false

/-! # One errand

A coordinator with a single caller that wants no stop runs at most one task, and nobody kills it. What
is told of the task then depends on the fate of its process alone: `drive_meets` says so of every step of
its driver, and `Errand.step` of every step of the coordinator.

Such a coordinator never gets stuck. As long as the call has not ended, some step brings it nearer to its
end (`Serial.getsOn`), and when the fate of the process is known, so does a step of the driver
(`drive_rank`).
-/

namespace BuildRunner

/-! ## What a process comes to -/

/-- A run whose process has come to a fate, **as far as the run knows**. -/
def Run.Meets (fate : ExitNews) : Run → Prop
  | .reading _ | .waiting => True
  | .draining code => fate = .exited code
  | .ended _ => False

/-- **The result of a run** for the fate of its process, unless it is killed. -/
def RunResult.Meets (fate : ExitNews) : RunResult → Prop
  | .waitFailed => fate = .lost
  | .outcome o => ∃ code, o = .exited code ∧ fate = .exited code

def TicketResult.Meets (fate : ExitNews) : TicketResult → Prop
  | .failed _ => fate = .lost
  | .report x => ∃ code elapsed, x.outcome = .exited code elapsed ∧ fate = .exited code

/-- A driver **says nothing else** than what its process comes to. -/
def Driver.Meets (fate : ExitNews) : Driver → Prop
  | .following run | .publishing run _ => run.Meets fate
  | .closing _ outcome => ∃ code elapsed, outcome = .exited code elapsed ∧ fate = .exited code
  | .finishing r | .signalling r | .releasing r | .done r => r.Meets fate
  | .abandoning | .vanished => False

/-- A task that **nobody has killed**, and whose process comes to a fate. -/
structure Task.Meets (fate : ExitNews) (t : Task) : Prop where
  alive : t.line.killed = false
  driver : t.driver.Meets fate

/-- An offer **tells of a fate** if it tells of any. -/
def Offer.tells (fate : ExitNews) (o : Offer) : Bool := o.exit = .running ∨ o.exit = fate

namespace Run

variable {fate : ExitNews} {run : Run} {o : Offer}

def Comes (fate : ExitNews) (run : Run) : Prop :=
  match run.result? with
  | none => run.Meets fate
  | some r => r.Meets fate

theorem awaitExit_comes (tells : o.tells fate = true) : (awaitExit false o.exit).Comes fate := by
  have tells : o.exit = .running ∨ o.exit = fate := of_decide_eq_true tells
  cases news : o.exit with
  | running => exact trivial
  | exited code =>
      rw [news] at tells
      exact ⟨code, rfl, (tells.resolve_left nofun).symm⟩
  | lost =>
      rw [news] at tells
      exact (tells.resolve_left nofun).symm

/-- **A turn of a run that is not killed** keeps to the fate of the process. -/
theorem Meets.turn (h : run.Meets fate) (alive : o.killed = false) (tells : o.tells fate = true) :
    (run.turn o).1.Comes fate := by
  have turned := turn_turned run o
  have news : o.exit = .running ∨ o.exit = fate := of_decide_eq_true tells
  generalize (run.turn o).1 = run', (run.turn o).2 = l at turned
  cases turned with
  | notice killed =>
      rw [alive] at killed
      cases killed
  | read _ _ | idle _ _ _ => exact trivial
  | close _ _ => exact alive ▸ awaitExit_comes tells
  | wait => exact alive ▸ awaitExit_comes tells
  | exit _ _ exit =>
      rw [exit] at news
      exact (news.resolve_left nofun).symm
  | lose _ _ lost =>
      rw [lost] at news
      exact (news.resolve_left nofun).symm
  | drain _ | linger _ _ => exact h
  | @drained code _ | @late code _ _ =>
      rw [alive]
      exact ⟨code, rfl, h⟩
  | rest => exact h.elim

/-- The last offer for a fate: the output has ended as well. -/
def lastOffer (fate : ExitNews) : Offer := { arrival := .ended, exit := fate }

/-- **A run ends** when its process has come to a fate and its output has ended. -/
theorem result_lastOffer (run : Run) (known : fate ≠ .running) :
    ∃ r, ((run.turn (lastOffer fate)).1.result? = some r) ∧ (run.turn (lastOffer fate)).2 = none := by
  cases run with
  | reading noticed => cases fate <;> simp_all [turn, lastOffer, awaitExit, result?]
  | waiting => cases fate <;> simp_all [turn, lastOffer, awaitExit, result?]
  | draining code => simp [turn, lastOffer, result?]
  | ended r => exact ⟨r, rfl, rfl⟩

end Run

/-- Work in which a line is delivered, or which is no turn of a run, **keeps to the fate** of the
process. -/
theorem Task.Work.meets {fate : ExitNews} {t t' : Task} {line : Nat} {calls : List SinkCall}
    {x : Option Occurrence} {call : Option SinkCall} (work : t.Work .never calls line x t' call) (h : t.Meets fate)
    (other : x.isSome = true ∨ ∀ run, t.driver ≠ .following run) : t'.Meets fate := by
  have driver := h.driver
  cases work with
  | turn following _ _ | ended _ following _ _ =>
      rcases other with occurs | other
      · cases occurs
      · exact absurd following (other _)
  | text following turned _ _ | malformed following turned _ | found following turned _ =>
      rw [following] at driver
      obtain ⟨rfl, -⟩ := Run.turn_delivered turned
      exact ⟨h.alive, driver⟩
  | published publishing | publish publishing _ =>
      rw [publishing] at driver
      exact ⟨h.alive, driver⟩
  | closed closing | close closing _ =>
      rw [closing] at driver
      exact ⟨h.alive, driver⟩
  | brokenText _ _ _ broken | brokenPublish _ broken | brokenClose _ broken => cases broken
  | abandon abandoning =>
      rw [abandoning] at driver
      exact driver.elim

/-! ## Who is still to go -/

/-- A bound on the steps of a driver that are **still to come** when its process has come to its fate. -/
def Driver.rank : Driver → Nat
  | .publishing _ ds => ds.length + 9
  | .following _ => 8
  | .closing ss _ => ss.length + 4
  | .finishing _ | .abandoning => 3
  | .signalling _ => 2
  | .releasing _ => 1
  | .done _ | .vanished => 0

/-- A bound on the steps of a caller that are **still to come** while nothing runs. -/
def Stage.rank (p : Probe) : Stage → Nat
  | .probing _ _ =>
    match p with
    | .unasked => 8
    | .running _ => 7
    | .settled _ => 6
  | .deciding _ => 5
  | .starting _ .announcing => 4
  | .starting _ .launching => 3
  | .starting _ (.notifying _) => 2
  | .killing _ _ | .awaiting _ _ | .clearing _ _ => 1
  | .answered _ | .unsignalled _ => 0

namespace Coordinator

variable {b : Breakdown} {c c' : Coordinator} {a : Action} {fate : ExitNews} {line : Nat} {t t' : Task}
  {o : Offer} {current : Option Nat} {s : Stage}

theorem afterRun_meets {r : RunResult} (h : r.Meets fate) (t : Task) (elapsed : Elapsed) :
    (afterRun t elapsed r).Meets fate := by
  cases r with
  | waitFailed => exact h
  | outcome x =>
      obtain ⟨code, rfl, told⟩ := h
      exact ⟨code, elapsed, rfl, told⟩

theorem rank_afterRun (t : Task) (elapsed : Elapsed) (r : RunResult) :
    (afterRun t elapsed r).rank ≤ 6 := by
  unfold afterRun
  split <;> simp [Driver.rank, TaskReport.closingLines]

/-- The driver of a task that follows its process, after a turn in which no line is delivered. -/
theorem drive_following {run : Run} (ht : c.tasks[line]? = some t) (hd : t.driver = .following run)
    (silent : (run.turn { o with killed := t.line.killed }).2 = none) (elapsed : Elapsed) :
    (c.drive b line o elapsed).tasks = c.tasks.set line { t with driver :=
      match (run.turn { o with killed := t.line.killed }).1.result? with
      | none => .following (run.turn { o with killed := t.line.killed }).1
      | some r => afterRun t elapsed r } := by
  rcases turned : run.turn { o with killed := t.line.killed } with ⟨run', l⟩
  rw [turned] at silent
  obtain rfl : l = none := silent
  cases hr : run'.result? <;>
    simp [drive, ht, hd, turned, hr, setDriver, onTask, modify_eq_set ht]

/-- **A driver keeps to the fate** of its process. -/
theorem drive_meets (ht : c.tasks[line]? = some t) (h : t.Meets fate) (tells : o.tells fate = true)
    (elapsed : Elapsed) :
    ∃ t', (c.drive .never line o elapsed).tasks[line]? = some t' ∧ t'.Meets fate := by
  have stride := drive_stride (b := .never) ht o elapsed
  have driver := h.driver
  -- A turn of the run that delivers nothing is the only step that learns something of the fate.
  by_cases follows : ∃ run, t.driver = .following run ∧
      (run.turn { o with killed := t.line.killed }).2 = none
  · obtain ⟨run, hd, silent⟩ := follows
    rw [drive_following ht hd silent, set_task ht]
    refine ⟨_, rfl, h.alive, ?_⟩
    rw [hd] at driver
    have comes := driver.turn (o := { o with killed := t.line.killed }) h.alive tells
    unfold Run.Comes at comes
    dsimp only
    split at comes
    · exact comes
    · exact afterRun_meets comes t elapsed
  · have other : (t.occurrence? line o).isSome = true ∨ ∀ run, t.driver ≠ .following run := by
      by_cases following : ∃ run, t.driver = .following run
      · obtain ⟨run, hd⟩ := following
        have delivered : (run.turn { o with killed := t.line.killed }).2 ≠ none :=
          fun silent => follows ⟨run, hd, silent⟩
        left
        simpa [Task.occurrence?, hd, Option.isSome_iff_ne_none] using delivered
      · exact .inr (not_exists.mp following)
    generalize c.drive .never line o elapsed = c', t.occurrence? line o = x at stride other
    cases stride with
    | rest => exact ⟨t, ht, h⟩
    | work work => exact ⟨_, set_task ht, work.meets h other⟩
    | finish leaving _ | release leaving =>
        rw [leaving] at driver
        exact ⟨_, set_task ht, h.alive, driver⟩
    | signal leaving =>
        rw [leaving] at driver
        exact ⟨_, set_task ht, (Task.killed_send t.line true).trans h.alive, driver⟩

/-- When its process has come to its fate and its output has ended, **a driver gets on** with every step,
up to its result. -/
theorem drive_rank (ht : c.tasks[line]? = some t) (h : t.Meets fate) (known : fate ≠ .running)
    (free : c.lock = none) (open' : t.result? = none) (elapsed : Elapsed) :
    ∃ t', (c.drive .never line (Run.lastOffer fate) elapsed).tasks = c.tasks.set line t' ∧
      t'.driver.rank < t.driver.rank := by
  have driver := h.driver
  have alive := h.alive
  -- The stages of a driver in their order; each is left for the next one, or has one item less.
  cases hd : t.driver with
  | following run =>
      obtain ⟨r, result, silent⟩ := Run.result_lastOffer run known
      have same : { Run.lastOffer fate with killed := t.line.killed } = Run.lastOffer fate := by
        rw [alive]
        rfl
      refine ⟨_, drive_following ht hd (by rw [same]; exact silent) elapsed, ?_⟩
      rw [same, result]
      exact Nat.lt_of_le_of_lt (rank_afterRun t elapsed r) (show 6 < 8 by omega)
  | publishing run ds =>
      cases ds with
      | nil =>
          refine ⟨{ t with driver := .following run }, ?_, by simp [Driver.rank]⟩
          simp [drive, ht, hd, setDriver, onTask, modify_eq_set ht]
      | cons d ds =>
          refine ⟨{ t with driver := .publishing run ds }, ?_, by simp [Driver.rank]⟩
          simp [drive, ht, hd, emitFrom_eq_put ht, put, Breakdown.never]
  | closing ss outcome =>
      cases ss with
      | nil =>
          refine ⟨{ t with driver := .finishing (.report (t.report outcome)) }, ?_, by simp [Driver.rank]⟩
          simp [drive, ht, hd, setDriver, onTask, modify_eq_set ht]
      | cons s ss =>
          refine ⟨{ t with driver := .closing ss outcome }, ?_, by simp [Driver.rank]⟩
          simp [drive, ht, hd, emitFrom_eq_put ht, put, Breakdown.never]
  | finishing r =>
      refine ⟨{ t with driver := .signalling r }, ?_, by simp [Driver.rank]⟩
      simp [drive, ht, hd, isLocked, free, setDriver, onTask, modify_eq_set ht]
  | signalling r =>
      refine ⟨{ t with line := t.line.send true, driver := .releasing r }, ?_, by simp [Driver.rank]⟩
      simp [drive, ht, hd, onTask, modify_eq_set ht]
  | releasing r =>
      refine ⟨{ t with line := t.line.release, driver := .done r }, ?_, by simp [Driver.rank]⟩
      simp [drive, ht, hd, onTask, modify_eq_set ht]
  | done r => simp [Task.result?, hd] at open'
  | abandoning | vanished =>
      rw [hd] at driver
      exact driver.elim

/-! ## The errand -/

/-- **One errand**: there is one caller, and the task that was started for it, if any. -/
inductive Errand (fate : ExitNews) (c : Coordinator) : Prop
  /-- Nothing has been launched. -/
  | before (only : ∀ k, k ≠ 0 → c.stage? k = none) (tasks : c.tasks = [])
      (untold : ∀ id line, c.stage? 0 ≠ some (.answered (.started id line)))
  | started (id : TaskId) (t : Task) (only : ∀ k, k ≠ 0 → c.stage? k = none) (tasks : c.tasks = [t])
      (told : c.stage? 0 = some (.answered (.started id 0))) (meets : t.Meets fate)

theorem errand_call (tool : Tool) (d : Demand) (fate : ExitNews) : Errand fate ((new tool).call d) := by
  refine .before (fun k hk => ?_) rfl fun id line => ?_
  · simp [stage?, call, new, hk]
  · cases d <;> simp [stage?, call, new, Demand.stage]

/-- A task that nobody kills in a step **keeps to the fate** of its process. -/
theorem step_meets (ht : c.tasks[line]? = some t) (h : t.Meets fate) (spared : ¬ Kills line c a)
    (tells : ∀ o elapsed, a = .drive line o elapsed → o.tells fate = true) :
    ∃ t', (Coordinator.step .never c a).tasks[line]? = some t' ∧ t'.Meets fate := by
  rcases step_task (b := .never) ht a with ⟨o, elapsed, rfl⟩ | ⟨-, same | ⟨-, kills⟩⟩
  · exact drive_meets ht h (tells o elapsed rfl) elapsed
  · exact ⟨t, same, h⟩
  · exact absurd kills spared

/-- An only caller that has been answered does nothing any more. -/
theorem stage?_of_only {x : Answer} {k : Nat} (only : ∀ k, k ≠ 0 → c.stage? k = none)
    (told : c.stage? 0 = some (.answered x)) (hk : c.stage? k = some s) : s = .answered x := by
  by_cases first : k = 0
  · rw [first, told] at hk
    exact (Option.some.inj hk).symm
  · rw [only k first] at hk
    cases hk

theorem not_kills_of_only {x : Answer} (only : ∀ k, k ≠ 0 → c.stage? k = none)
    (told : c.stage? 0 = some (.answered x)) : ¬ Kills line c a := by
  intro kills
  cases a with
  | proceed k o =>
      obtain ⟨s, hk, aims⟩ := Option.bind_eq_some_iff.mp kills
      rw [stage?_of_only only told hk] at aims
      cases aims
  | call d | drive i o elapsed | follow o => exact kills

/-- **The launch of an errand**: the only caller is told of the only task. -/
theorem errand_of_added (only : ∀ k, k ≠ 0 → c.stage? k = none) (none' : c.tasks = [])
    (added : c.tasks.length < (Coordinator.step .never c a).tasks.length)
    (only' : ∀ k, k ≠ 0 → (Coordinator.step .never c a).stage? k = none) :
    Errand fate (Coordinator.step .never c a) := by
  rcases (step_move .never c a).task (List.getElem?_eq_getElem added) with
    ⟨t, old, -⟩ | ⟨-, k, r, starting, -, launched⟩
  · rw [none'] at old
    cases old
  · obtain rfl : k = 0 := Classical.byContradiction fun hk => by
      rw [only k hk] at starting
      cases starting
    refine .started c.nextId (c.newTask r) only' ?_ ?_ ⟨rfl, trivial⟩
    · rw [launched]
      simp [unlock, setStage, register, none']
    · obtain ⟨killed, record⟩ := stage?_eq_some.mp starting
      rw [launched, none']
      exact stage?_eq_some.mpr
        ⟨killed, callers_setStage (c := { c.register r with lock := none }) record _⟩

/-- **Every step of a coordinator with one errand** keeps to it, and to the fate of its process. -/
theorem Errand.step (h : Errand fate c) (hc : c.Serial current) (nobody : ∀ d, a ≠ .call d)
    (tells : ∀ i o elapsed, a = .drive i o elapsed → o.tells fate = true) :
    Errand fate (Coordinator.step .never c a) := by
  have hm := step_move .never c a
  cases h with
  | before only none' untold =>
      have only' k (hk : k ≠ 0) := step_stage?_none (b := .never) (only k hk) nobody
      by_cases added : c.tasks.length < (Coordinator.step .never c a).tasks.length
      · exact errand_of_added only none' added only'
      · refine .before only' ?_ fun id line told => ?_
        · rw [none'] at added
          exact List.length_eq_zero_iff.mp (by simpa using added)
        · rcases hm.started told with before | ⟨r, -, -, -, tasks⟩
          · exact untold id line before
          · rw [tasks] at added
            simp at added
  | started id t only one told meets =>
      have only' k (hk : k ≠ 0) := step_stage?_none (b := .never) (only k hk) nobody
      -- The only caller has been answered, so it starts no other task and kills none.
      have alone : ¬ c.tasks.length < (Coordinator.step .never c a).tasks.length := fun added => by
        obtain ⟨k, r, -, starting⟩ := hc.starting_of_added hm added
        cases stage?_of_only only told starting
      have length : (Coordinator.step .never c a).tasks.length = 1 := by
        have grows := hm.length_le
        simp only [one, List.length_singleton] at grows alone
        omega
      have still : (Coordinator.step .never c a).stage? 0 = some (.answered (.started id 0)) := by
        obtain ⟨killed, record⟩ := stage?_eq_some.mp told
        exact stage?_eq_some.mpr ⟨killed, step_ended record rfl a⟩
      have ht : c.tasks[0]? = some t := by rw [one]; rfl
      obtain ⟨t', ht', meets'⟩ := step_meets ht meets (not_kills_of_only only told) (tells 0)
      obtain ⟨x, hx⟩ := List.length_eq_one_iff.mp length
      rw [hx] at ht'
      obtain rfl : x = t' := Option.some.inj ht'
      exact .started id x only' hx still meets'

/-! ## Getting on -/

/-- Who can bring a call to its end: its caller, or the probe. -/
def Action.serves : Action → Bool
  | .proceed _ _ | .follow _ => true
  | .call _ | .drive _ _ _ => false

/-- A caller in a stage **gets on**: some step brings its call nearer to its end. -/
def GetsOn (c : Coordinator) (k : Nat) (s : Stage) : Prop :=
  ∃ a : Action, a.serves = true ∧ ∃ s', (Coordinator.step .never c a).stage? k = some s' ∧
    s'.rank (Coordinator.step .never c a).probe < s.rank c.probe

variable {k : Nat} {killed : List TaskId}

/-- A caller gets on by a step of its own to a stage with fewer steps before it. -/
theorem getsOn_of_proceed {x : Coordinator} {s' : Stage} (hk : c.callers[k]? = some ⟨s, killed⟩)
    (step_eq : Coordinator.step .never c (.proceed k {}) = x.setStage k s')
    (same : x.callers = c.callers) (less : s'.rank x.probe < s.rank c.probe) : c.GetsOn k s := by
  refine ⟨.proceed k {}, rfl, s', ?_, ?_⟩ <;> rw [step_eq]
  · exact stage?_eq_some.mpr ⟨killed, callers_setStage (same ▸ hk) s'⟩
  · exact less

/-- Who waits for the probe gets on: the probe is asked, or ends, or has said what it has found. -/
theorem getsOn_of_probing {dir : String} {next : AfterProbe}
    (hk : c.callers[k]? = some ⟨.probing dir next, killed⟩) : c.GetsOn k (.probing dir next) := by
  have asks : Coordinator.step .never c (.proceed k {}) = c.ask k dir next none := by
    simp [Coordinator.step, proceed, hk]
  have waits : c.stage? k = some (.probing dir next) := stage?_eq_some.mpr ⟨killed, hk⟩
  cases probe : c.probe with
  | unasked =>
      refine ⟨.proceed k {}, rfl, .probing dir next, ?_, ?_⟩ <;> rw [asks, ask, probe]
      · exact waits
      · show 7 < 8
        omega
  | running run =>
      -- Any end of the probe will do.
      have known : ExitNews.exited (some 0) ≠ .running := by simp
      obtain ⟨r, result, -⟩ := Run.result_lastOffer run known
      have ends : (run.turn { Run.lastOffer (.exited (some 0)) with killed := false }).1.result? =
          some r := result
      refine ⟨.follow (Run.lastOffer (.exited (some 0))), rfl, .probing dir next, ?_, ?_⟩ <;>
        simp only [Coordinator.step, follow, probe, ends]
      · exact waits
      · show 6 < 7
        omega
  | settled x =>
      cases next with
      | tell =>
          have told : c.ask k dir .tell none = c.setStage k (.answered (.support x)) := by
            rw [ask, probe]
          exact getsOn_of_proceed hk (asks.trans told) rfl (by simp [Stage.rank, probe])
      | check target force =>
          have goes_on : c.ask k dir (.check target force) none = c.setStage k
              (.deciding (.invoke (c.tool.checkRequest x dir target force))) := by
            rw [ask, probe]
          exact getsOn_of_proceed hk (asks.trans goes_on) rfl (by simp [Stage.rank, probe])

/-- Who looks at an idle state gets on. -/
theorem getsOn_of_deciding {p : Purpose} (hk : c.callers[k]? = some ⟨.deciding p, killed⟩)
    (free : c.lock = none) (idle : c.state = .idle) : c.GetsOn k (.deciding p) := by
  have looks : Coordinator.step .never c (.proceed k {}) = c.decide .never k p :=
    proceed_of_deciding hk free {}
  cases p with
  | stop =>
      have told : c.decide .never k .stop = c.setStage k (.answered (.stopped false)) := by
        simp [Coordinator.decide, idle, TaskState.current?]
      exact getsOn_of_proceed hk (looks.trans told) rfl (by simp [Stage.rank])
  | invoke r =>
      have engages : c.decide .never k (.invoke r) =
          ({ c with calls := .clear :: c.calls, lock := some k } : Coordinator).setStage k
            (.starting r .announcing) := decide_of_idle idle
      exact getsOn_of_proceed hk (looks.trans engages) rfl (by simp [Stage.rank])

/-- Who starts a task gets on. -/
theorem getsOn_of_starting {r : TaskRequest} {n : Starting}
    (hk : c.callers[k]? = some ⟨.starting r n, killed⟩) : c.GetsOn k (.starting r n) := by
  have starts : Coordinator.step .never c (.proceed k {}) = c.start .never k r none n :=
    proceed_of_starting hk {}
  cases n with
  | announcing =>
      have announces : c.start .never k r none .announcing =
          ({ c with calls := .text (c.tool.announcement r) :: c.calls } : Coordinator).setStage k
            (.starting r .launching) := rfl
      exact getsOn_of_proceed hk (starts.trans announces) rfl (by simp [Stage.rank])
  | launching =>
      have launches : c.start .never k r none .launching =
          ({ c.register r with lock := none } : Coordinator).setStage k
            (.answered (.started c.nextId c.tasks.length)) := rfl
      exact getsOn_of_proceed hk (starts.trans launches) rfl (by simp [Stage.rank])
  | notifying e =>
      have notifies : c.start .never k r none (.notifying e) =
          ({ c with
            calls := .notify (.toolNotAvailable c.tool.program) :: c.calls
            lock := none } : Coordinator).setStage k (.answered (.failed e)) := rfl
      exact getsOn_of_proceed hk (starts.trans notifies) rfl (by simp [Stage.rank])

/-- **A call gets on** while there is no task, up to its end. -/
theorem Serial.getsOn (hc : c.Serial (some k)) (none' : c.tasks = []) (hk : c.stage? k = some s)
    (open' : s.isEnded = false) : c.GetsOn k s := by
  obtain ⟨killed, record⟩ := stage?_eq_some.mp hk
  have idle : c.state = .idle := by
    cases named : c.state with
    | idle => rfl
    | running h =>
        obtain ⟨t, ht, -⟩ := hc.orderly.running h named
        rw [none'] at ht
        cases ht
  have fits : (⟨s, killed⟩ : Caller).Fits c := hc.orderly.callers k _ record
  cases s with
  | probing dir next => exact getsOn_of_probing record
  | deciding p => exact getsOn_of_deciding record (hc.free_of_stage hk rfl) idle
  | starting r n => exact getsOn_of_starting record
  | killing p h | awaiting p h | clearing p h =>
      -- There is no task at which the caller could have aimed.
      obtain ⟨⟨t, ht, -⟩, -⟩ := fits
      rw [none'] at ht
      cases ht
  | answered x | unsignalled reason => cases open'

end Coordinator
end BuildRunner
