import BuildRunner.Proofs.Coordinator.Actor
import BuildRunner.Proofs.Coordinator.TextBlocks
import BuildRunner.Proofs.Process.Turn

set_option autoImplicit false

/-! # What a driver makes of the lines of its process

The `Ledger` of a driver holds the lines that its run has delivered and the calls of sinks that it
has made, in order. `Task.Accounts` says what the calls are: what was found in the standard output
is published, what does not look like an event is written, and the closing lines come last. Nothing
depends on how the two streams were interleaved but the place of a line in the text.
-/

namespace BuildRunner

open Coordinator (Action)

/-! ## Ledgers -/

def Occurrence.line? : Occurrence → Option OutputLine
  | .delivered _ l => some l
  | _ => none

structure Ledger where
  /-- The lines that its run has delivered. -/
  delivered : List OutputLine := []
  /-- The calls of sinks that it has made. -/
  calls : List SinkCall := []

namespace Ledger

def outputs (g : Ledger) : List String := g.delivered.filterMap (·.on? .output)

def errors (g : Ledger) : List String := g.delivered.filterMap (·.on? .errors)

def published (g : Ledger) : List Collected.Entry := g.calls.flatMap SinkCall.published

def texts (g : Ledger) : List String := g.calls.flatMap SinkCall.written

def note (g : Ledger) (o : Option Occurrence) (call : Option SinkCall) : Ledger where
  delivered := g.delivered ++ (o.bind Occurrence.line?).toList
  calls := g.calls ++ call.toList

/-- **What the sinks were told**: all that was found but what is `pending`, and all that is plain
with some closing lines behind it. -/
structure Tells (g : Ledger) (directory : String) (pending : List Diagnostic)
    (closing : List String) : Prop where
  published : g.published ++ pending.map (directory, ·) =
    (Routing.found g.outputs).map (directory, ·)
  texts : g.texts = g.delivered.filterMap OutputLine.plain? ++ closing

end Ledger

namespace Coordinator

/-- **The ledger of a driver** after a run, if it was `g` before. -/
def ledger (b : Breakdown) (i : Nat) (g : Ledger) (c : Coordinator) : List Action → Ledger
  | [] => g
  | a :: as =>
    ledger b i (if a.actor? = some (.driver i) then g.note (c.occurrence? a) (c.call? b a) else g)
      (step b c a) as

end Coordinator

/-! ## Tasks -/

/-- What a driver has told, at each stage. A driver that has failed may have left something out. -/
def Driver.Tells (g : Ledger) (t : Task) : Driver → Prop
  | .following _ => g.Tells t.directory [] []
  | .publishing _ left => g.Tells t.directory left []
  | .closing left outcome => ∃ code elapsed written, outcome = .exited code elapsed ∧
    TaskReport.closingLines code elapsed = written ++ left ∧ g.Tells t.directory [] written
  | d => ∀ r, d.result? = some r → r ≠ .failed .join → g.Tells t.directory [] r.closing ∧
    ∀ x, r = .report x →
      x.diagnostics = t.routing.diagnostics ∧ x.malformedLines = t.routing.malformedLines

structure Task.Accounts (g : Ledger) (t : Task) : Prop where
  counts : t.routing.Counts g.outputs
  tells : t.driver.Tells g t

variable {b : Breakdown} {calls : List SinkCall} {i : Nat} {t t' : Task} {o : Option Occurrence}
  {call : Option SinkCall} {g : Ledger}

namespace Ledger

variable {dir : String} {pending : List Diagnostic} {closing : List String} {l : OutputLine}
  {r r' : Routing} {x : Routed}

@[simp] theorem note_none (g : Ledger) : g.note none none = g := by simp [note]

/-- The calls that a step adds. -/
theorem calls_note : (g.note o call).published = g.published ++ call.elim [] SinkCall.published ∧
    (g.note o call).texts = g.texts ++ call.elim [] SinkCall.written := by
  cases call <;> simp [note, published, texts]

/-- Only a delivery adds a line. -/
theorem delivered_note (h : o.bind Occurrence.line? = none) :
    (g.note o call).delivered = g.delivered := by
  simp [note, h]

theorem outputs_note (h : o.bind Occurrence.line? = none) : (g.note o call).outputs = g.outputs := by
  rw [outputs, delivered_note h, outputs]

/-- **A line is delivered** and routed: what it holds is found, and what it leaves is written. -/
theorem deliver (call : Option SinkCall) (routed : r.route l = (x, r')) (counts : r.Counts g.outputs)
    (tells : g.Tells dir [] []) (hp : call.elim [] SinkCall.published = [])
    (ht : call.elim [] SinkCall.written = x.plain?.toList) :
    r'.Counts (g.note (some (.delivered i l)) call).outputs ∧
      (g.note (some (.delivered i l)) call).Tells dir x.found [] := by
  obtain ⟨counts', found'⟩ := counts.route routed
  obtain ⟨published, texts⟩ :
      (g.note (some (.delivered i l)) call).published = _ ∧
        (g.note (some (.delivered i l)) call).texts = _ := calls_note
  refine ⟨counts', ?_, ?_⟩
  · show _ = (Routing.found ((g.delivered ++ [l]).filterMap (·.on? .output))).map (dir, ·)
    rw [published, hp, List.append_nil, found', List.map_append]
    have before := tells.published
    rw [List.map_nil, List.append_nil] at before
    rw [before]
    rfl
  · show _ = (g.delivered ++ [l]).filterMap OutputLine.plain? ++ []
    have before := tells.texts
    rw [List.append_nil] at before
    rw [texts, ht, before, List.append_nil, List.filterMap_append, Routing.route_plain routed]
    cases hl : l.plain? <;> simp [hl]

/-- A diagnostic that was pending is published. -/
theorem Tells.publish {d : Diagnostic} (tells : g.Tells dir (d :: pending) closing) :
    (g.note (some (.published i dir d)) (some (.publish dir d))).Tells dir pending closing where
  published := by
    rw [calls_note.1, outputs_note rfl, ← tells.published]
    simp [SinkCall.published]
  texts := by
    rw [calls_note.2, delivered_note rfl, tells.texts]
    exact List.append_nil _

/-- A closing line is written. -/
theorem Tells.close {s : String} (tells : g.Tells dir pending closing) :
    (g.note none (some (.text s))).Tells dir pending (closing ++ [s]) where
  published := by
    rw [calls_note.1, outputs_note rfl, ← tells.published]
    simp [SinkCall.published]
  texts := by
    rw [calls_note.2, delivered_note rfl, tells.texts]
    simp [SinkCall.written]

end Ledger

theorem Task.Work.accounts (work : t.Work b calls i o t' call) (h : t.Accounts g) :
    t'.Accounts (g.note o call) := by
  have counts := h.counts
  have tells := h.tells
  -- A case for each thing that a driver does: the counts change where a line is routed, and what was
  -- told changes where a sink is called.
  cases work with
  | turn following _ _ =>
      rw [following] at tells
      rw [Ledger.note_none]
      exact ⟨counts, tells⟩
  | @ended _ _ _ r elapsed following _ _ =>
      rw [following] at tells
      refine ⟨by simpa using counts, ?_⟩
      rw [Ledger.note_none]
      cases r with
      | waitFailed =>
          intro r hr _
          obtain rfl := Option.some.inj hr
          exact ⟨tells, nofun⟩
      | outcome x =>
          cases x with
          | cancelled =>
              intro r hr _
              obtain rfl := Option.some.inj hr
              exact ⟨tells, fun x hx => TicketResult.report.inj hx ▸ ⟨rfl, rfl⟩⟩
          | exited code => exact ⟨code, elapsed, [], rfl, rfl, tells⟩
  | @text _ _ _ _ s _ following _ routed _ =>
      rw [following] at tells
      obtain ⟨counts', tells'⟩ :=
        Ledger.deliver (i := i) (some (.text s)) routed counts tells rfl rfl
      exact ⟨counts', tells'⟩
  -- A sink that breaks down fails the driver, of which nothing has to be told any longer.
  | @brokenText _ _ _ _ s _ following _ routed _ =>
      rw [following] at tells
      obtain ⟨counts', -⟩ :=
        Ledger.deliver (i := i) (some (.text s)) routed counts tells rfl rfl
      exact ⟨counts', fun r hr => by cases hr⟩
  | found following _ routed | malformed following _ routed =>
      rw [following] at tells
      obtain ⟨counts', tells'⟩ := Ledger.deliver (i := i) none routed counts tells rfl rfl
      exact ⟨counts', tells'⟩
  | published publishing =>
      rw [publishing] at tells
      rw [Ledger.note_none]
      exact ⟨counts, tells⟩
  | publish publishing _ =>
      rw [publishing] at tells
      exact ⟨by rw [Ledger.outputs_note rfl]; exact counts, tells.publish⟩
  | closed closing =>
      rw [closing] at tells
      obtain ⟨code, elapsed, written, rfl, hlines, tells⟩ := tells
      rw [Ledger.note_none]
      refine ⟨counts, fun r hr _ => ?_⟩
      obtain rfl := Option.some.inj hr
      -- All closing lines are written by now, and the report names them.
      have same : TicketResult.closing (.report (t.report (.exited code elapsed))) = written := by
        rw [← List.append_nil written, ← hlines]
        rfl
      exact ⟨by rwa [same], fun x hx => TicketResult.report.inj hx ▸ ⟨rfl, rfl⟩⟩
  | close closing _ =>
      rw [closing] at tells
      obtain ⟨code, elapsed, written, rfl, hlines, tells⟩ := tells
      exact ⟨by rw [Ledger.outputs_note rfl]; exact counts,
        code, elapsed, written ++ [_], rfl, by simpa using hlines, tells.close⟩
  | brokenPublish _ _ | brokenClose _ _ =>
      exact ⟨by rw [Ledger.outputs_note rfl]; exact counts, fun r hr => by cases hr⟩
  | abandon _ =>
      refine ⟨?_, fun r hr hj => absurd (Option.some.inj hr).symm hj⟩
      rw [Ledger.note_none]
      show t.kill.routing.Counts g.outputs
      rwa [Task.kill_routing]

/-- What was told is about the directory and the counts of a task, and about nothing else. -/
theorem Driver.Tells.congr {d : Driver} (h : d.Tells g t) (hdir : t'.directory = t.directory)
    (hr : t'.routing = t.routing) : d.Tells g t' := by
  cases d <;> simp only [Driver.Tells, hdir, hr] <;> exact h

/-- A result stays what it is while its driver leaves. -/
theorem Driver.Tells.keep {d d' : Driver} {r : TicketResult} (h : d.Tells g t)
    (hd : d.result? = some r) (hd' : d'.result? = some r) : d'.Tells g t := by
  cases d <;> cases hd <;> cases d' <;> cases hd' <;> exact h

/-- A driver that has come to a result without a breakdown has told all. -/
theorem Driver.Tells.of_result {d : Driver} {r : TicketResult} (h : d.Tells g t)
    (hd : d.result? = some r) (hj : r ≠ .failed .join) : g.Tells t.directory [] r.closing ∧
      ∀ x, r = .report x →
        x.diagnostics = t.routing.diagnostics ∧ x.malformedLines = t.routing.malformedLines := by
  cases d <;> cases hd <;> exact h r rfl hj

theorem Task.Accounts.kill (h : t.Accounts g) : t.kill.Accounts g := by
  refine ⟨kill_routing t ▸ h.counts, ?_⟩
  rw [kill_driver]
  exact h.tells.congr (kill_directory t) (kill_routing t)

/-- A driver that leaves takes its result with it. -/
theorem Task.Accounts.leave {d : Driver} {line : TaskLine} {r : TicketResult} (h : t.Accounts g)
    (hd : t.driver.result? = some r) (hd' : d.result? = some r) :
    { t with line := line, driver := d }.Accounts g :=
  ⟨h.counts, (h.tells.keep hd hd').congr rfl rfl⟩

namespace Coordinator

variable {c c' : Coordinator}

/-! ## Every run -/

/-- The ledger of a driver **is in order**: its task accounts for it, or is yet to come. -/
def Accounts (i : Nat) (g : Ledger) (c : Coordinator) : Prop :=
  match c.tasks[i]? with
  | none => g = {}
  | some t => t.Accounts g

theorem accounts_of_task (ht : c.tasks[i]? = some t) (h : t.Accounts g) : Accounts i g c := by
  unfold Accounts
  rwa [ht]

/-- What a driver does is in its ledger afterwards. -/
theorem Stride.accounts (hs : Stride b c i t o c') (ht : c.tasks[i]? = some t) (h : t.Accounts g) :
    ∃ call : Option SinkCall, c'.calls = call.toList ++ c.calls ∧ Accounts i (g.note o call) c' := by
  cases hs with
  | rest => exact ⟨none, rfl, accounts_of_task ht (by simpa using h)⟩
  | work work => exact ⟨_, rfl, accounts_of_task (set_task ht) (work.accounts h)⟩
  | finish leaving _ | signal leaving | release leaving =>
      refine ⟨none, rfl, accounts_of_task (set_task ht) ?_⟩
      rw [Ledger.note_none]
      exact h.leave (by rw [leaving]; rfl) rfl

/-- **One step** keeps the ledger of a driver in order. -/
theorem accounts_step (h : Accounts i g c) (a : Action) :
    Accounts i (if a.actor? = some (.driver i) then g.note (c.occurrence? a) (c.call? b a) else g)
      (step b c a) := by
  cases ht : c.tasks[i]? with
  | none =>
      obtain rfl : g = {} := by simpa [Accounts, ht] using h
      have empty : (if a.actor? = some (.driver i) then
          ({} : Ledger).note (c.occurrence? a) (c.call? b a) else {}) = {} := by
        split
        · rename_i own
          obtain ⟨x, elapsed, rfl⟩ := Action.eq_drive own
          have silent : c.call? b (.drive i x elapsed) = none :=
            call?_eq (by rw [step, drive_of_none ht]; rfl)
          rw [silent, show c.occurrence? (.drive i x elapsed) = none by simp [occurrence?, ht]]
          rfl
        · rfl
      rw [empty]
      -- The task is still to come, or has just been launched.
      unfold Accounts
      cases ht' : (step b c a).tasks[i]? with
      | none => rfl
      | some t' =>
          rcases (step_move b c a).task ht' with ⟨t, hi, -⟩ | ⟨-, k, r, -, rfl, -⟩
          · rw [ht] at hi
            cases hi
          · exact ⟨⟨rfl, rfl, rfl⟩, ⟨rfl, rfl⟩⟩
  | some t =>
      have h : t.Accounts g := by simpa [Accounts, ht] using h
      rcases step_task (b := b) ht a with ⟨x, elapsed, rfl⟩ | ⟨other, same | ⟨killed, -⟩⟩
      · obtain ⟨call, hcalls, accounts⟩ := (drive_stride (b := b) ht x elapsed).accounts ht h
        have hcall : c.call? b (.drive i x elapsed) = call := call?_eq hcalls
        have occurs : c.occurrence? (.drive i x elapsed) = t.occurrence? i x := by
          simp [occurrence?, ht]
        rw [Action.actor?, if_pos rfl, hcall, occurs]
        exact accounts
      · rw [if_neg other]
        exact accounts_of_task same h
      · rw [if_neg other]
        exact accounts_of_task killed h.kill

theorem accounts_run (h : Accounts i g c) (as : List Action) :
    Accounts i (ledger b i g c as) (run b c as) := by
  induction as generalizing g c with
  | nil => exact h
  | cons a as ih => exact ih (accounts_step h a)

/-! ## Every interleaving -/

/-- Without breakdowns **some run leads** from one coordinator to another, in which the driver of a
task is given lines. -/
def Leads (i : Nat) (c : Coordinator) (ls : List OutputLine) (c' : Coordinator) : Prop :=
  ∃ as, run .never c as = c' ∧ ∀ g, (ledger .never i g c as).delivered = g.delivered ++ ls

/-- The driver of a task that is not killed is at some stage. -/
def IsAt (i : Nat) (d : Driver) (c : Coordinator) : Prop :=
  ∃ t, c.tasks[i]? = some t ∧ t.line.killed = false ∧ t.driver = d

variable {ls ls' : List OutputLine} {c'' : Coordinator}

theorem ledger_append (b : Breakdown) (i : Nat) (g : Ledger) (c : Coordinator)
    (as as' : List Action) :
    ledger b i g c (as ++ as') = ledger b i (ledger b i g c as) (run b c as) as' := by
  induction as generalizing g c with
  | nil => rfl
  | cons a as ih => exact ih _ _

theorem Leads.trans (h : Leads i c ls c') (h' : Leads i c' ls' c'') : Leads i c (ls ++ ls') c'' := by
  obtain ⟨as, rfl, hls⟩ := h
  obtain ⟨as', rfl, hls'⟩ := h'
  refine ⟨as ++ as', run_append _ _ _ _, fun g => ?_⟩
  rw [ledger_append, hls', hls, List.append_assoc]

/-- A step of the driver, in which its run delivers a line or none. -/
theorem leads_drive {x : Offer}
    (h : ((c.occurrence? (.drive i x (.ofMicros 0))).bind Occurrence.line?).toList = ls) :
    Leads i c ls (c.drive .never i x (.ofMicros 0)) :=
  ⟨[.drive i x (.ofMicros 0)], rfl, fun g => by simp [ledger, Action.actor?, Ledger.note, h]⟩

theorem isAt_set {d : Driver} (ht : c.tasks[i]? = some t) (h : c'.tasks = c.tasks.set i t')
    (alive : t'.line.killed = false) (hd : t'.driver = d) : IsAt i d c' :=
  ⟨t', by rw [h, set_task ht], alive, hd⟩

/-- A driver publishes what is left, and follows its process again. -/
theorem leads_publish {rn : Run} (ds : List Diagnostic) (h : IsAt i (.publishing rn ds) c) :
    ∃ c', Leads i c [] c' ∧ IsAt i (.following rn) c' := by
  induction ds generalizing c with
  | nil =>
      obtain ⟨t, ht, alive, hd⟩ := h
      have leads : Leads i c [] (c.drive .never i {} (.ofMicros 0)) :=
        leads_drive (by simp [occurrence?, ht, Task.occurrence?, hd])
      have tasks : (c.drive .never i {} (.ofMicros 0)).tasks =
          c.tasks.set i { t with driver := .following rn } := by
        simp [drive, ht, hd, setDriver, onTask, modify_eq_set ht]
      exact ⟨_, leads, isAt_set ht tasks alive rfl⟩
  | cons d ds ih =>
      obtain ⟨t, ht, alive, hd⟩ := h
      have leads : Leads i c [] (c.drive .never i {} (.ofMicros 0)) :=
        leads_drive (by simp [occurrence?, ht, Task.occurrence?, hd, Occurrence.line?])
      have tasks : (c.drive .never i {} (.ofMicros 0)).tasks =
          c.tasks.set i { t with driver := .publishing rn ds } := by
        simp [drive, ht, hd, emitFrom_eq_put ht, put, Breakdown.never]
      obtain ⟨c', leads', follows⟩ := ih (isAt_set ht tasks alive rfl)
      exact ⟨c', leads.trans leads', follows⟩

/-- A driver can be given any line. -/
theorem leads_deliver (l : OutputLine) (h : IsAt i (.following .start) c) :
    ∃ c', Leads i c [l] c' ∧ IsAt i (.following .start) c' := by
  obtain ⟨t, ht, alive, hd⟩ := h
  have delivered : t.occurrence? i { arrival := .line l } = some (.delivered i l) := by
    simp [Task.occurrence?, hd, alive, Run.turn, Run.start]
  have leads : Leads i c [l] (c.drive .never i { arrival := .line l } (.ofMicros 0)) :=
    leads_drive (by simp [occurrence?, ht, delivered, Occurrence.line?])
  have hs := drive_stride (b := .never) ht { arrival := .line l } (.ofMicros 0)
  rw [delivered] at hs
  generalize c.drive .never i { arrival := .line l } (.ofMicros 0) = c' at leads hs
  have same : ∀ {rn rn' : Run} {x : Offer}, t.driver = .following rn →
      rn.turn { x with killed := t.line.killed } = (rn', some l) → rn' = .start := by
    intro rn rn' x following turned
    rw [hd] at following
    exact (Run.turn_delivered turned).1.trans (Driver.following.inj following).symm
  cases hs with
  | work work =>
      cases work with
      | text following turned _ _ | malformed following turned _ =>
          obtain rfl := same following turned
          exact ⟨_, leads, isAt_set ht rfl alive rfl⟩
      | @found _ rn _ _ ds g following turned _ =>
          obtain rfl := same following turned
          have publishing : IsAt i (.publishing .start ds)
              (c.put i { t with routing := g, driver := .publishing .start ds } none) :=
            isAt_set ht rfl alive rfl
          obtain ⟨c', leads', follows⟩ := leads_publish ds publishing
          exact ⟨c', leads.trans leads', follows⟩
      | brokenText _ _ _ broken => cases broken

theorem leads_all (ls : List OutputLine) (h : IsAt i (.following .start) c) :
    ∃ c', Leads i c ls c' ∧ IsAt i (.following .start) c' := by
  induction ls generalizing c with
  | nil => exact ⟨c, ⟨[], rfl, fun g => (List.append_nil _).symm⟩, h⟩
  | cons l ls ih =>
      obtain ⟨c', leads, follows⟩ := leads_deliver l h
      obtain ⟨c'', leads', follows'⟩ := ih follows
      exact ⟨c'', leads.trans leads', follows'⟩

/-- A driver writes the closing lines that are left, and reports. -/
theorem leads_close {outcome : TaskOutcome} (ss : List String) (h : IsAt i (.closing ss outcome) c) :
    ∃ c' x, Leads i c [] c' ∧ IsAt i (.finishing (.report x)) c' := by
  induction ss generalizing c with
  | nil =>
      obtain ⟨t, ht, alive, hd⟩ := h
      have leads : Leads i c [] (c.drive .never i {} (.ofMicros 0)) :=
        leads_drive (by simp [occurrence?, ht, Task.occurrence?, hd])
      have tasks : (c.drive .never i {} (.ofMicros 0)).tasks =
          c.tasks.set i { t with driver := .finishing (.report (t.report outcome)) } := by
        simp [drive, ht, hd, setDriver, onTask, modify_eq_set ht]
      exact ⟨_, t.report outcome, leads, isAt_set ht tasks alive rfl⟩
  | cons s ss ih =>
      obtain ⟨t, ht, alive, hd⟩ := h
      have leads : Leads i c [] (c.drive .never i {} (.ofMicros 0)) :=
        leads_drive (by simp [occurrence?, ht, Task.occurrence?, hd])
      have tasks : (c.drive .never i {} (.ofMicros 0)).tasks =
          c.tasks.set i { t with driver := .closing ss outcome } := by
        simp [drive, ht, hd, emitFrom_eq_put ht, put, Breakdown.never]
      obtain ⟨c', x, leads', reports⟩ := ih (isAt_set ht tasks alive rfl)
      exact ⟨c', x, leads.trans leads', reports⟩

/-- A driver reports when both streams have ended and the process has exited. -/
theorem leads_report (h : IsAt i (.following .start) c) :
    ∃ c' x, Leads i c [] c' ∧ IsAt i (.finishing (.report x)) c' := by
  obtain ⟨t, ht, alive, hd⟩ := h
  let last : Offer := { arrival := .ended, exit := .exited none }
  have leads : Leads i c [] (c.drive .never i last (.ofMicros 0)) :=
    leads_drive (by simp [occurrence?, ht, Task.occurrence?, hd, alive, Run.turn, Run.start, last])
  have tasks : (c.drive .never i last (.ofMicros 0)).tasks =
      c.tasks.set i { t with driver := afterRun t (.ofMicros 0) (.outcome (.exited none)) } := by
    simp [drive, ht, hd, alive, Run.turn, Run.start, Run.awaitExit, Run.result?, Run.resultOf, last,
      setDriver, onTask, modify_eq_set ht]
  obtain ⟨c', x, leads', reports⟩ := leads_close _ (isAt_set ht tasks alive rfl)
  exact ⟨c', x, leads.trans leads', reports⟩

/-- **Every interleaving** of two streams can be delivered to a driver that comes to a report. -/
theorem exists_run_of_lines (tool : Tool) (ls : List OutputLine) : ∃ as t x,
    (run .never (new tool) as).tasks[0]? = some t ∧ t.driver.result? = some (.report x) ∧
      (ledger .never 0 {} (new tool) as).delivered = ls := by
  let launch : List Action := [.call (.invoke { command := "build", workingDirectory := "/w" }),
    .proceed 0 {}, .proceed 0 {}, .proceed 0 {}]
  have launched : IsAt 0 (.following .start) (run .never (new tool) launch) :=
    ⟨_, rfl, rfl, rfl⟩
  obtain ⟨c, leads, follows⟩ := leads_all ls launched
  obtain ⟨c', x, leads', t, ht, -, hd⟩ := leads_report follows
  obtain ⟨as, rfl, delivered⟩ := leads.trans leads'
  refine ⟨launch ++ as, t, x, by rw [run_append]; exact ht, by rw [hd]; rfl, ?_⟩
  rw [ledger_append, delivered, List.append_nil]
  rfl

/-- **What a driver has made of its lines** when it has come to a result: all that was found in
the standard output is published in its order and counted in the report, and what is written
interleaves the standard error with the plain lines of the standard output, with the closing lines
behind them. -/
structure Told (g : Ledger) (directory : String) (r : TicketResult) : Prop where
  published : g.published = (Routing.found g.outputs).map (directory, ·)
  report : ∀ x, r = .report x → x.diagnostics = (Routing.found g.outputs).length ∧
    x.malformedLines = Routing.malformed g.outputs
  written : ∃ written, g.texts = written ++ r.closing ∧
    Interleaves g.errors (Routing.plain g.outputs) written

theorem told_of_result {tool : Tool} {as : List Action} {r : TicketResult}
    (ht : (run b (new tool) as).tasks[i]? = some t) (hr : t.driver.result? = some r)
    (hj : r ≠ .failed .join) : Told (ledger b i {} (new tool) as) t.directory r := by
  have accounts : Accounts i (ledger b i {} (new tool) as) (run b (new tool) as) :=
    accounts_run (by simp [Accounts, new]) as
  have h : t.Accounts (ledger b i {} (new tool) as) := by simpa [Accounts, ht] using accounts
  obtain ⟨tells, reports⟩ := h.tells.of_result hr hj
  refine ⟨?_, fun x hx => ?_, _, tells.texts, interleaves_plain _⟩
  · have published := tells.published
    rwa [List.map_nil, List.append_nil] at published
  · rw [(reports x hx).1, (reports x hx).2]
    exact ⟨h.counts.diagnostics, h.counts.malformedLines⟩

/-- **Results depend on the standard output alone, and every line is accounted for**, over every
run.

Let the driver of a task come to a result without a breakdown of a sink. What it has published, the
number of diagnostics and the number of malformed lines in its report are functions of the lines of
the standard output. What it has written before the closing lines is an interleaving of the standard
error and of the lines of the standard output that do not look like events. These lines, the events
and the malformed lines make up the standard output, and none of the first is the text of an object.

So two drivers that were given the same standard output, in whichever order with the lines of the
standard error, publish the same diagnostics and report the same numbers. Any order of the lines of
both streams can come. -/
theorem results_of_output (tool : Tool) (b : Breakdown) :
    (∀ (as : List Action) (i : Nat) (t : Task) (r : TicketResult),
      (run b (new tool) as).tasks[i]? = some t → t.driver.result? = some r → r ≠ .failed .join →
      let g := ledger b i {} (new tool) as
      let S := g.outputs
      g.published = (Routing.found S).map (t.directory, ·) ∧
      (∀ x, r = .report x →
        x.diagnostics = (Routing.found S).length ∧ x.malformedLines = Routing.malformed S) ∧
      (∃ written, g.texts = written ++ r.closing ∧
        Interleaves g.errors (S.filter (!looksLikeEvent ·)) written) ∧
      S.length = (S.filter (!looksLikeEvent ·)).length + Routing.accepted S + Routing.malformed S ∧
      (∀ s ∈ S, ∀ v, Json.readText s = .ok v → v.isObject = true →
        s ∉ S.filter (!looksLikeEvent ·))) ∧
    (∀ (tool' : Tool) (b' : Breakdown) (as as' : List Action) (i i' : Nat) (t t' : Task)
      (x x' : TaskReport),
      (run b (new tool) as).tasks[i]? = some t → t.driver.result? = some (.report x) →
      (run b' (new tool') as').tasks[i']? = some t' → t'.driver.result? = some (.report x') →
      let g := ledger b i {} (new tool) as
      let g' := ledger b' i' {} (new tool') as'
      g.outputs = g'.outputs →
      g.published.map (·.2) = g'.published.map (·.2) ∧ x.diagnostics = x'.diagnostics ∧
        x.malformedLines = x'.malformedLines) ∧
    (∀ ls : List OutputLine, ∃ as t x, (run .never (new tool) as).tasks[0]? = some t ∧
      t.driver.result? = some (.report x) ∧ (ledger .never 0 {} (new tool) as).delivered = ls) := by
  -- Both parts are read off what a driver has told when it has come to its result.
  refine ⟨fun as i t r ht hr hj => ?_,
    fun tool' b' as as' i i' t t' x x' ht hr ht' hr' same => ?_, exists_run_of_lines tool⟩
  · have told := told_of_result ht hr hj
    refine ⟨told.published, told.report, told.written, Routing.length_eq _, ?_⟩
    intro s _ v read object plain
    have event := Routing.looksLikeEvent_of_object read object
    simp [event] at plain
  · have told := told_of_result ht hr nofun
    have told' := told_of_result ht' hr' nofun
    have counts := told.report x rfl
    have counts' := told'.report x' rfl
    rw [told.published, told'.published, counts.1, counts.2, counts'.1, counts'.2, same]
    simp

/-! ## A shuffle of lines -/

/-- A process writes lines, each with one diagnostic at most, and exits. -/
def writing (ls : List OutputLine) : List Action :=
  let offer (o : Offer) : Action := .drive 0 o (.ofMicros 0)
  [.call (.invoke { command := "build", workingDirectory := "/w" }), .proceed 0 {}, .proceed 0 {},
    .proceed 0 {}] ++
  ls.flatMap (fun l => [offer { arrival := .line l }, offer {}, offer {}]) ++
  [offer { arrival := .ended, exit := .exited (some 0) }, offer {}, offer {}, offer {}]

/-- A warning, a plain line and a malformed one, with an error before or behind them. -/
theorem results_of_output_shuffled :
    let ended ls := run .never (new cargo) (writing ls)
    let written ls := ledger .never 0 {} (new cargo) (writing ls)
    let ls := [warningAbout "a.rs", .output "hello", .output "\x7b\"reason\":7\x7d"]
    let g := written (.error "oops" :: ls)
    let g' := written (ls ++ [.error "oops"])
    g.texts ≠ g'.texts ∧ g.published.map (·.path) = ["/w/a.rs"] ∧
      g.outputs.length = (g.outputs.filter (!looksLikeEvent ·)).length +
        Routing.accepted g.outputs + Routing.malformed g.outputs ∧
      ∃ t x t' x', (ended (.error "oops" :: ls)).Exited 0 t x ∧
        (ended (ls ++ [.error "oops"])).Exited 0 t' x' ∧
        x.diagnostics = 1 ∧ x.malformedLines = 1 ∧
        g.published.map (·.2) = g'.published.map (·.2) ∧
        x.diagnostics = x'.diagnostics ∧ x.malformedLines = x'.malformedLines := by
  intro ended written ls g g'
  have computed : (g.texts ≠ g'.texts ∧ g.published.map (·.path) = ["/w/a.rs"]) ∧
      (ended (.error "oops" :: ls)).hasExited 0 "/w" = true ∧
      (ended (ls ++ [.error "oops"])).hasExited 0 "/w" = true ∧
      (Routing.found g.outputs).length = 1 ∧ Routing.malformed g.outputs = 1 ∧
      g.outputs = g'.outputs := by
    decide +kernel
  obtain ⟨⟨texts, paths⟩, first, second, found, malformed, outputs⟩ := computed
  obtain ⟨t, x, h, -⟩ := exists_exited first
  obtain ⟨t', x', h', -⟩ := exists_exited second
  have results := results_of_output cargo .never
  obtain ⟨-, report, -, every, -⟩ := results.1 _ 0 t _ h.task h.report nofun
  obtain ⟨diagnostics, malformedLines⟩ := report x rfl
  have same := results.2.1 cargo .never _ _ 0 0 t t' x x' h.task h.report h'.task h'.report outputs
  exact ⟨texts, paths, every, t, x, t', x', h, h', diagnostics.trans found,
    malformedLines.trans malformed, same⟩

end Coordinator
end BuildRunner
