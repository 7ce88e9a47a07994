import BuildRunner.Proofs.Coordinator.Flights
import BuildRunner.Proofs.Task.Routing

set_option autoImplicit false

/-! # Blocks of text

The text sink is a sequence of blocks, one for every flight: the announcement, the lines of the
process that are no events, and the closing lines if it has ended by itself. No step writes into
the block of an earlier flight, so only the last block can still grow.

Here no sink breaks down: a sink that breaks down may end a block early. And tasks are told apart by
their numbers, as for single flight.
-/

namespace BuildRunner

open Coordinator (Move Action)

/-! ## Closing lines -/

/-- The closing lines of a result: those of a report, if the process has ended by itself. -/
def TicketResult.closing : TicketResult → List String
  | .report { outcome := .exited code elapsed, .. } => TaskReport.closingLines code elapsed
  | _ => []

/-- The closing lines that a driver has written: all that are not left while it writes them, and
those of the result that it has come to. -/
def Driver.closed : Driver → List String
  | .closing left (.exited code elapsed) =>
    (TaskReport.closingLines code elapsed).take (2 - left.length)
  | d => d.result?.elim [] TicketResult.closing

/-- A driver that writes closing lines has some of them left. -/
def Driver.Closes (d : Driver) : Prop :=
  match d with
  | .closing left outcome => ∃ code elapsed written,
    outcome = .exited code elapsed ∧ TaskReport.closingLines code elapsed = written ++ left
  | _ => True

theorem Driver.closed_closing {code : ExitCode} {elapsed : Elapsed} {written left : List String}
    (h : TaskReport.closingLines code elapsed = written ++ left) :
    (Driver.closing left (.exited code elapsed)).closed = written := by
  have hn : (TaskReport.closingLines code elapsed).length = 2 := rfl
  rw [closed, h, List.take_append_of_le_length]
  · rw [h, List.length_append] at hn
    rw [show 2 - left.length = written.length by omega, List.take_length]
  · rw [h, List.length_append] at hn
    omega

theorem Driver.closed_of_result {d : Driver} {r : TicketResult} (h : d.result? = some r) :
    d.closed = r.closing := by
  cases d <;> simp [result?] at h <;> simp [closed, result?, h]

/-- Closing lines without a result are those of a driver that is writing them. -/
theorem Driver.closing_of_closed {d : Driver} (hd : d.Closes) (hr : d.result? = none)
    (hne : d.closed ≠ []) : ∃ left code elapsed, d = .closing left (.exited code elapsed) ∧
      TaskReport.closingLines code elapsed = d.closed ++ left := by
  cases d with
  | closing left outcome =>
      obtain ⟨code, elapsed, written, rfl, hlines⟩ := hd
      exact ⟨left, code, elapsed, rfl, by rw [closed_closing hlines, hlines]⟩
  | _ => simp_all [closed, result?]

def SinkCall.written : SinkCall → List String
  | .text s => [s]
  | _ => []

namespace Task

variable {b : Breakdown} {calls : List SinkCall} {i : Nat} {t t' : Task} {o : Option Occurrence}
  {call : Option SinkCall} {f : Flight}

theorem Work.closes (work : t.Work b calls i o t' call) (h : t.driver.Closes) :
    t'.driver.Closes := by
  cases work with
  | @ended _ _ _ r elapsed _ _ _ =>
      cases r with
      | waitFailed => trivial
      | outcome x =>
          cases x with
          | cancelled => trivial
          | exited code => exact ⟨code, elapsed, [], rfl, rfl⟩
  | @close s ss outcome closing _ =>
      rw [closing] at h
      obtain ⟨code, elapsed, written, rfl, hlines⟩ := h
      exact ⟨code, elapsed, written ++ [s], rfl, by simpa using hlines⟩
  | _ => trivial

theorem Change.closes (change : t.Change b t') (h : t.driver.Closes) : t'.driver.Closes := by
  cases change with
  | kill => simpa using h
  | work work => exact work.closes h
  | _ => trivial

/-- **What a driver writes** is the text of a line that it was given, or a closing line. -/
theorem Work.written (work : t.Work .never calls i o t' call) (hl : f.line = some i)
    (h : t.driver.Closes) :
    (o.elim f f.note).delivered.filterMap OutputLine.plain? ++ t'.driver.closed =
      f.delivered.filterMap OutputLine.plain? ++ t.driver.closed ++
        call.elim [] SinkCall.written := by
  cases work with
  | turn following _ _ => simp [following, Driver.closed, Driver.result?]
  | @ended _ _ _ r elapsed following _ _ =>
      have closed : (Coordinator.afterRun t elapsed r).closed = [] := by
        cases r with
        | waitFailed => rfl
        | outcome x => cases x <;> rfl
      rw [closed, following]
      simp [Driver.closed, Driver.result?]
  | text following _ routed _ | found following _ routed | malformed following _ routed =>
      -- The line is delivered and written in the same step, or it is no text.
      have plain := Routing.route_plain routed
      simp [following, Driver.closed, Driver.result?, Flight.note, hl, ← plain, Routed.plain?,
        SinkCall.written]
  | published publishing | publish publishing _ =>
      simp [publishing, Driver.closed, Driver.result?, Flight.note, hl, SinkCall.written]
  | closed closing =>
      rw [closing] at h ⊢
      obtain ⟨code, elapsed, written, rfl, hlines⟩ := h
      rw [Driver.closed_closing hlines]
      simpa [Driver.closed, Driver.result?, TicketResult.closing, Task.report] using hlines
  | @close s ss outcome closing _ =>
      rw [closing] at h ⊢
      obtain ⟨code, elapsed, written, rfl, hlines⟩ := h
      -- The line that was first of those left is now the last of those written.
      have hlines' : TaskReport.closingLines code elapsed = (written ++ [s]) ++ ss := by
        simpa using hlines
      rw [Driver.closed_closing hlines, Driver.closed_closing hlines']
      simp [SinkCall.written]
  | brokenText _ _ _ broken | brokenPublish _ broken | brokenClose _ broken => cases broken
  | abandon abandoning => simp [abandoning, Driver.closed, Driver.result?, TicketResult.closing]

end Task

/-! ## Sequences of blocks -/

/-- **Only the last block can still grow**, and new ones come after it. -/
def OnlyLastGrows (bs bs' : List (List String)) : Prop :=
  bs = [] ∨ ∃ init last more rest, bs = init ++ [last] ∧ bs' = init ++ (last ++ more) :: rest

/-- What writing `ws` in one step does to the blocks. -/
inductive Writes (bs : List (List String)) : List String → List (List String) → Prop
  | nothing : Writes bs [] bs
  | opens : Writes bs [] (bs ++ [[]])
  | grows {init : List (List String)} {last ws : List String} (h : bs = init ++ [last]) :
      Writes bs ws (init ++ [last ++ ws])

theorem OnlyLastGrows.refl (bs : List (List String)) : OnlyLastGrows bs bs := by
  rcases List.eq_nil_or_concat bs with h | ⟨init, last, h⟩
  · exact .inl h
  · exact .inr ⟨init, last, [], [], by simpa using h, by simpa using h⟩

theorem OnlyLastGrows.trans {bs bs' bs'' : List (List String)} (h : OnlyLastGrows bs bs')
    (h' : OnlyLastGrows bs' bs'') : OnlyLastGrows bs bs'' := by
  rcases h with h | ⟨init, last, more, rest, hbs, hbs'⟩
  · exact .inl h
  rcases h' with h' | ⟨init', last', more', rest', hlast, hbs''⟩
  · simp [hbs'] at h'
  refine .inr ⟨init, last, ?_⟩
  rcases List.eq_nil_or_concat rest with rfl | ⟨rest, x, rfl⟩
  · -- The same block has grown once more.
    obtain ⟨rfl, rfl⟩ := List.append_singleton_inj.mp (hbs'.symm.trans hlast)
    exact ⟨more ++ more', rest', hbs, by simpa using hbs''⟩
  · have hlast : (init ++ (last ++ more) :: rest) ++ [x] = init' ++ [last'] := by
      simpa [hbs'] using hlast
    obtain ⟨rfl, rfl⟩ := List.append_singleton_inj.mp hlast
    exact ⟨more, rest ++ (x ++ more') :: rest', hbs, by simpa using hbs''⟩

variable {bs bs' : List (List String)} {ws : List String}

theorem Writes.flatten (h : Writes bs ws bs') : bs'.flatten = bs.flatten ++ ws := by
  cases h with
  | nothing => simp
  | opens => simp
  | grows h => simp [h]

theorem Writes.onlyLastGrows (h : Writes bs ws bs') : OnlyLastGrows bs bs' := by
  cases h with
  | nothing => exact .refl bs
  | opens =>
      rcases List.eq_nil_or_concat bs with h | ⟨init, last, h⟩
      · exact .inl h
      · exact .inr ⟨init, last, [], [[]], by simpa using h, by simp [h]⟩
  | @grows init last ws h => exact .inr ⟨init, last, ws, [], h, rfl⟩

/-! ## The block of a flight -/

/-- Whether a caller in a stage has still to say what it starts. -/
def Stage.isAnnouncing : Stage → Bool
  | .starting _ .announcing => true
  | _ => false

namespace Coordinator

/-- The announcement of a flight, once it is written. -/
def opening (c : Coordinator) (f : Flight) : List String :=
  if (c.stage? f.caller).any Stage.isAnnouncing then [] else [c.tool.announcement f.request]

def closing (c : Coordinator) (f : Flight) : List String :=
  (f.line.bind fun i => c.tasks[i]?).elim [] (·.driver.closed)

/-- **The block of a flight**: its announcement, the text of its process, its closing lines. -/
def block (c : Coordinator) (f : Flight) : List String :=
  c.opening f ++ (f.delivered.filterMap OutputLine.plain? ++ c.closing f)

variable {b : Breakdown} {c c' x : Coordinator} {fs init : List Flight} {f : Flight} {i k : Nat}
  {o : Option Occurrence} {t t' : Task} {s s' : Stage}

theorem opening_congr {f' : Flight} (htool : c'.tool = c.tool)
    (hs : c'.stage? f'.caller = c.stage? f.caller) (hr : f'.request = f.request) :
    c'.opening f' = c.opening f := by
  rw [opening, opening, htool, hs, hr]

/-- A caller goes to another stage; only its own announcement can matter. -/
theorem opening_setStage (hk : c.stage? k = some s) (hx : x.callers = c.callers)
    (htool : x.tool = c.tool) (hf : f.caller = k → s'.isAnnouncing = s.isAnnouncing) :
    (x.setStage k s').opening f = c.opening f := by
  have hxs : x.stage? f.caller = c.stage? f.caller := by simp [stage?, hx]
  have htool' : (x.setStage k s').tool = c.tool := htool
  rw [opening, opening, htool', stage?_setStage, hxs]
  by_cases hkf : k = f.caller
  · subst hkf
    simp [hk, hf rfl]
  · simp [hkf]

theorem closing_of_none (hl : f.line = none) : c.closing f = [] := by
  simp [closing, hl]

theorem closing_of_line (hl : f.line = some i) :
    c.closing f = c.tasks[i]?.elim [] (·.driver.closed) := by
  simp [closing, hl]

theorem closing_set (ht : c.tasks[i]? = some t) (hn : x.tasks = c.tasks.set i t')
    (hd : t'.driver.closed = t.driver.closed) : x.closing f = c.closing f := by
  cases hl : f.line with
  | none => rw [closing_of_none hl, closing_of_none hl]
  | some j =>
      rw [closing_of_line hl, closing_of_line hl, hn, getElem?_set_tasks ht]
      by_cases hj : j = i
      · simp [hj, ht, hd]
      · simp [hj]

theorem closing_set_of_ne (ht : c.tasks[i]? = some t) (hn : x.tasks = c.tasks.set i t')
    (hl : f.line ≠ some i) : x.closing f = c.closing f := by
  cases hj : f.line with
  | none => rw [closing_of_none hj, closing_of_none hj]
  | some j =>
      have hji : j ≠ i := fun h => hl (h ▸ hj)
      rw [closing_of_line hj, closing_of_line hj, hn, getElem?_set_tasks ht, if_neg hji]

/-- The blocks stay if each of them stays. -/
theorem writes_nothing (h : ∀ f ∈ fs, c'.block f = c.block f) :
    Writes (fs.map c.block) [] (fs.map c'.block) := by
  rw [List.map_congr_left h]
  exact .nothing

/-- Only the block of the last flight grows. -/
theorem writes_last {f' : Flight} {ws : List String} (h : ∀ g ∈ init, c'.block g = c.block g)
    (hf : c'.block f' = c.block f ++ ws) :
    Writes ((init ++ [f]).map c.block) ws ((init ++ [f']).map c'.block) := by
  rw [List.map_append, List.map_append, List.map_congr_left h, List.map_singleton,
    List.map_singleton, hf]
  exact .grows rfl

/-! ## One move -/

theorem lines_apply (m : MemorySinks) (call : SinkCall) :
    (m.apply call).lines = m.lines ++ call.written := by
  cases call <;> simp [MemorySinks.apply, SinkCall.written]

theorem block_setStage (hk : c.stage? k = some s) (hx : x.callers = c.callers)
    (htool : x.tool = c.tool) (htasks : x.tasks = c.tasks)
    (hf : f.caller = k → s'.isAnnouncing = s.isAnnouncing) :
    (x.setStage k s').block f = c.block f := by
  have hclosing : (x.setStage k s').closing f = c.closing f := by
    have htasks' : (x.setStage k s').tasks = c.tasks := htasks
    rw [closing, closing, htasks']
  rw [block, block, opening_setStage hk hx htool hf, hclosing]

theorem writes_decide (h : Tracks fs c) {r : TaskRequest}
    (hk : c.stage? k = some (.deciding (.invoke r))) (hx : x.callers = c.callers)
    (htool : x.tool = c.tool) (htasks : x.tasks = c.tasks) :
    Writes (fs.map c.block) []
      ((fs ++ [({ caller := k, request := r } : Flight)]).map
        (x.setStage k (.starting r .announcing)).block) := by
  have old : ∀ f ∈ fs, (x.setStage k (.starting r .announcing)).block f = c.block f := by
    intro f hf
    have hne := h.caller_ne_of_stage hk (fun _ hserves => hserves) hf
    exact block_setStage hk hx htool htasks fun hfk => absurd hfk hne
  have new : (x.setStage k (.starting r .announcing)).block { caller := k, request := r } = [] := by
    have hxk : x.stage? k = c.stage? k := by simp [stage?, hx]
    rw [block, closing_of_none rfl]
    simp [opening, stage?_setStage, hxk, hk, Stage.isAnnouncing]
  rw [List.map_append, List.map_congr_left old, List.map_singleton, new]
  exact .opens

theorem writes_announce (h : Tracks (init ++ [f]) c) {r : TaskRequest}
    (hk : c.stage? f.caller = some (.starting r .announcing)) (hl : f.line = none)
    (hx : x.callers = c.callers) (htool : x.tool = c.tool) (htasks : x.tasks = c.tasks) :
    Writes ((init ++ [f]).map c.block) [c.tool.announcement r]
      ((init ++ [f]).map (x.setStage f.caller (.starting r .launching)).block) := by
  refine writes_last (fun g hg => ?_) ?_
  · exact block_setStage hk hx htool htasks fun hgf => absurd hgf (h.caller_ne hg)
  · obtain ⟨s, hs, hserves⟩ := h.callers f (by simp)
    rw [hk] at hs
    obtain rfl := Option.some.inj hs
    obtain rfl : r = f.request := hserves
    have hxk : x.stage? f.caller = c.stage? f.caller := by simp [stage?, hx]
    have htool' : ∀ s, (x.setStage f.caller s).tool = c.tool := fun _ => htool
    rw [block, block, closing_of_none hl, closing_of_none hl, (h.untouched f (by simp) hl).1]
    simp [opening, stage?_setStage, hxk, hk, htool', Stage.isAnnouncing]

theorem writes_launch (h : Tracks (init ++ [f]) c) {r : TaskRequest}
    (hk : c.stage? f.caller = some (.starting r .launching)) (hl : f.line = none) :
    Writes ((init ++ [f]).map c.block) []
      ((init ++ [{ f with line := some c.tasks.length }]).map
        ((c.register r).unlock f.caller (.started c.nextId c.tasks.length)).block) := by
  have opens : ∀ g : Flight,
      ((c.register r).unlock f.caller (.started c.nextId c.tasks.length)).opening g =
        c.opening g :=
    fun g => opening_setStage (x := { c.register r with lock := none }) hk rfl rfl fun _ => rfl
  have htasks : ((c.register r).unlock f.caller (.started c.nextId c.tasks.length)).tasks =
      c.tasks ++ [c.newTask r] := rfl
  refine writes_last (fun g hg => ?_) ?_
  · rw [block, block, opens]
    cases hgl : g.line with
    | none => rw [closing_of_none hgl, closing_of_none hgl]
    | some i =>
        have hi := h.line_lt (List.mem_append_left _ hg) hgl
        rw [closing_of_line hgl, closing_of_line hgl, htasks, List.getElem?_append_left hi]
  · rw [block, block, closing_of_line rfl, closing_of_none hl, htasks]
    simp [opening, Driver.closed, Driver.result?, newTask]
    exact opens f

theorem closes_move (hm : Move b c o c') (h : ∀ t ∈ c.tasks, t.driver.Closes) :
    ∀ t ∈ c'.tasks, t.driver.Closes := by
  intro t' ht'
  obtain ⟨i, hi⟩ := List.mem_iff_getElem?.mp ht'
  rcases hm.task hi with ⟨t, ht, rfl | change⟩ | ⟨-, k, r, -, rfl, -⟩
  · exact h t' (List.mem_of_getElem? ht)
  · exact change.closes (h t (List.mem_of_getElem? ht))
  · trivial

theorem writes_work (h : Tracks (init ++ [f]) c) (hl : f.line = some i) (ht : c.tasks[i]? = some t)
    (hcloses : t.driver.Closes) {call : Option SinkCall}
    (work : t.Work .never c.calls i o t' call) :
    Writes ((init ++ [f]).map c.block) (call.elim [] SinkCall.written)
      ((init ++ [o.elim f f.note]).map (c.put i t' call).block) := by
  refine writes_last (fun g hg => ?_) ?_
  · rw [block, block, closing_set_of_ne (x := c.put i t' call) ht rfl (h.line_ne hl hg)]
    rfl
  · have hline : (o.elim f f.note).line = some i := by
      cases work <;> simp [Flight.note_line, hl]
    have hcaller : (o.elim f f.note).caller = f.caller := by cases o <;> simp
    have hrequest : (o.elim f f.note).request = f.request := by cases o <;> simp
    have hopening : (c.put i t' call).opening (o.elim f f.note) = c.opening f :=
      opening_congr rfl (congrArg c.stage? hcaller) hrequest
    have hnew : (c.put i t' call).tasks[i]? = some t' := by
      show (c.tasks.set i t')[i]? = some t'
      rw [getElem?_set_tasks ht, if_pos rfl]
    rw [block, block, hopening, closing_of_line hline, closing_of_line hl, hnew, ht,
      List.append_assoc]
    exact congrArg _ (work.written hl hcloses)

/-- **What one move writes** is at the end of the last block. -/
theorem writes_move (h : Tracks fs c) (hc : c.Orderly) (hcloses : ∀ t ∈ c.tasks, t.driver.Closes)
    (hm : Move .never c o c') : ∃ ws, c'.memory.lines = c.memory.lines ++ ws ∧
      Writes (fs.map c.block) ws ((Flight.extend fs o).map c'.block) := by
  have silent : ∀ {x : Coordinator}, x.memory.lines = c.memory.lines →
      (∀ f ∈ fs, x.block f = c.block f) → ∃ ws, x.memory.lines = c.memory.lines ++ ws ∧
        Writes (fs.map c.block) ws (fs.map x.block) :=
    fun hlines hblock => ⟨[], by simpa using hlines, writes_nothing hblock⟩
  -- A caller that serves no request goes to another stage.
  have other : ∀ {k : Nat} {s s' : Stage} {x : Coordinator}, c.stage? k = some s →
      (∀ r, ¬ s.Serves r) → x.callers = c.callers → x.tool = c.tool → x.tasks = c.tasks →
      ∀ f ∈ fs, (x.setStage k s').block f = c.block f :=
    fun hk hs hx htool htasks f hf => block_setStage hk hx htool htasks fun hfk =>
      absurd hfk (h.caller_ne_of_stage hk hs hf)
  cases hm with
  | rest | probe _ _ => exact silent rfl fun _ _ => rfl
  | arrive d =>
      refine silent rfl fun f hf => ?_
      obtain ⟨s, hs, -⟩ := h.callers f hf
      obtain ⟨killed, hkilled⟩ := stage?_eq_some.mp hs
      have hlt := (List.getElem?_eq_some_iff.mp hkilled).1
      have hopening : (c.call d).opening f = c.opening f :=
        opening_congr rfl (by simp [stage?, call, List.getElem?_append_left hlt]) rfl
      rw [block, block, hopening]
      rfl
  | learn hk _ | drop hk _ _ _ | pass hk _ _ | aim hk _ _ _ | wake hk _ =>
      exact silent rfl (other hk (fun _ hr => hr) rfl rfl rfl)
  | clear hk _ =>
      exact silent rfl (other (x := { c with state := _ }) hk (fun _ hr => hr) rfl rfl rfl)
  | fail _ hk => exact silent rfl fun f _ => block_setStage hk rfl rfl rfl fun _ => rfl
  | notify hk =>
      refine silent (by rw [memory_cons rfl]; rfl) fun f _ => ?_
      exact block_setStage (x := { c with calls := _, lock := none }) hk rfl rfl rfl fun _ => rfl
  | engage hk _ _ _ =>
      refine ⟨[], by rw [memory_cons rfl]; simp [MemorySinks.apply], ?_⟩
      exact writes_decide (x := { c with calls := _, lock := some _ }) h hk rfl rfl rfl
  | announce hk _ =>
      obtain ⟨init, f, rfl, rfl, hl⟩ := h.holder _ (hc.idle_of_starting hk).1
      refine ⟨_, by rw [memory_cons rfl]; rfl, ?_⟩
      exact writes_announce (x := { c with calls := _ }) h hk hl rfl rfl rfl
  | launch hk =>
      obtain ⟨init, f, rfl, rfl, hl⟩ := h.holder _ (hc.idle_of_starting hk).1
      rw [h.extend_launched]
      exact ⟨[], (List.append_nil _).symm, writes_launch h hk hl⟩
  | kill signal hk =>
      obtain ⟨⟨t, ht, -⟩, -⟩ := hc.callers _ _ hk
      refine silent rfl fun f hf => ?_
      have hne := h.caller_ne_of_stage (stage?_eq_some.mpr ⟨_, hk⟩) (fun _ hr => hr) hf
      rw [block, block, closing_set ht (modify_eq_set ht _) (by simp)]
      exact congrArg (· ++ _) (opening_congr rfl (by simp [stage?, List.getElem?_set_ne hne.symm]) rfl)
  | @work line t t' o call task work =>
      obtain ⟨init, f, rfl, hl⟩ := h.atWork _ _ task work.isAtWork.1
      rw [h.extend_work hl work]
      refine ⟨_, ?_, writes_work h hl task (hcloses t (List.mem_of_getElem? task)) work⟩
      cases call with
      | none => exact (List.append_nil _).symm
      | some call => rw [memory_cons rfl, lines_apply]; rfl
  | finish task leaving _ | signal task leaving | release task leaving =>
      refine silent rfl fun f _ => ?_
      rw [block, block, closing_set task rfl (by simp [Driver.closed, leaving, Driver.result?])]
      rfl
  | brokenEngage _ _ _ broken | brokenAnnounce _ broken => cases broken

/-! ## Every run -/

/-- **The text is the blocks of the flights**, and every driver closes as it should. -/
structure Blocks (fs : List Flight) (c : Coordinator) : Prop where
  lines : c.memory.lines = (fs.map c.block).flatten
  closes : ∀ t ∈ c.tasks, t.driver.Closes

theorem Blocks.move (h : Blocks fs c) (ht : Tracks fs c) (hc : c.Orderly)
    (hm : Move .never c o c') : Blocks (Flight.extend fs o) c' ∧
      OnlyLastGrows (fs.map c.block) ((Flight.extend fs o).map c'.block) := by
  obtain ⟨ws, hlines, hwrites⟩ := writes_move ht hc h.closes hm
  refine ⟨⟨?_, closes_move hm h.closes⟩, hwrites.onlyLastGrows⟩
  calc c'.memory.lines = c.memory.lines ++ ws := hlines
    _ = (fs.map c.block).flatten ++ ws := by rw [h.lines]
    _ = ((Flight.extend fs o).map c'.block).flatten := hwrites.flatten.symm

theorem run_blocks (tool : Tool) (as : List Action)
    (hn : (run .never (new tool) as).tasks.length < UInt64.size) :
    Blocks (flights tool .never as) (run .never (new tool) as) :=
  (flights_induction (fun _ _ _ _ hm hc _ ht h => (h.move ht hc hm).1)
    (orderly_new tool) (single_new tool) (tracks_new tool) ⟨rfl, by simp [new]⟩ as hn).2

/-- A flight that is not yet announced has left no text; the block of any other one begins with
its announcement. -/
theorem Orderly.block_eq (hc : c.Orderly) (h : Tracks fs c) (hf : f ∈ fs) :
    (∃ r, c.stage? f.caller = some (.starting r .announcing)) ∧ c.block f = [] ∨
      c.block f = c.tool.announcement f.request ::
        (f.delivered.filterMap OutputLine.plain? ++ c.closing f) := by
  by_cases ha : (c.stage? f.caller).any Stage.isAnnouncing = true
  · obtain ⟨s, hs, hann⟩ := (Option.any_eq_true _ _).mp ha
    obtain ⟨r, rfl⟩ : ∃ r, s = .starting r .announcing := by
      unfold Stage.isAnnouncing at hann
      split at hann
      · exact ⟨_, rfl⟩
      · cases hann
    -- Its caller holds the lock, so it is the last flight and nothing is launched yet.
    have hl : f.line = none := by
      obtain ⟨init, g, hfs, hg, hl⟩ := h.holder _ (hc.idle_of_starting hs).1
      subst hfs
      rcases List.mem_append.mp hf with hf | hf
      · exact absurd hg.symm (h.caller_ne hf)
      · rwa [List.mem_singleton.mp hf]
    refine .inl ⟨⟨r, hs⟩, ?_⟩
    rw [block, opening, if_pos ha, closing_of_none hl, (h.untouched f hf hl).1]
    rfl
  · exact .inr (by rw [block, opening, if_neg ha]; rfl)

/-- **The text is a sequence of blocks**, over every run `as` and every continuation `as'` of it, if
no sink breaks down: there is one block for every request that was decided to be started, in this
order, and only the last one can still grow.

A block begins with the announcement of its request, as soon as that is written. What follows is
the text of the lines that its process has delivered, unchanged and in their order, without the
lines of the standard output that look like events; then come the closing lines. A request that was
not launched has neither. A task that has come to a result has the closing lines of that result:
both of them if its process has exited by itself, and none otherwise. Before, there are closing
lines only while the driver writes them. -/
theorem text_is_blocks (tool : Tool) (as as' : List Action)
    (hn : (run .never (new tool) (as ++ as')).tasks.length < UInt64.size) :
    let c := run .never (new tool) as
    let c' := run .never (new tool) (as ++ as')
    let fs := flights tool .never as
    let fs' := flights tool .never (as ++ as')
    c.memory.lines = (fs.map c.block).flatten ∧
    OnlyLastGrows (fs.map c.block) (fs'.map c'.block) ∧
    (∀ f ∈ fs, (∃ r, c.stage? f.caller = some (.starting r .announcing)) ∧ c.block f = [] ∨
      c.block f = tool.announcement f.request ::
        (f.delivered.filterMap OutputLine.plain? ++ c.closing f)) ∧
    (∀ f ∈ fs, f.line = none → f.delivered = [] ∧ c.closing f = []) ∧
    (∀ f ∈ fs, ∀ i, f.line = some i → ∃ t, c.tasks[i]? = some t ∧
      (∀ r, t.driver.result? = some r → c.closing f = r.closing) ∧
      (t.driver.result? = none → c.closing f ≠ [] → ∃ left code elapsed,
        t.driver = .closing left (.exited code elapsed) ∧
        TaskReport.closingLines code elapsed = c.closing f ++ left)) := by
  intro c c' fs fs'
  have hrun : c' = run .never c as' := run_append .never (new tool) as as'
  have hfs' : fs' = (trace .never c as').foldl Flight.record fs := by
    simp only [fs', fs, flights, trace_append, List.foldl_append]
    rfl
  have hn' : c.tasks.length < UInt64.size := by
    have hle := (run_grows .never c as').length_le
    rw [← hrun] at hle
    exact Nat.lt_of_le_of_lt hle hn
  have hc : c.Orderly := run_orderly tool .never as
  have ht : Tracks fs c := run_tracks tool .never as hn'
  have hb : Blocks fs c := run_blocks tool as hn'
  refine ⟨hb.lines, ?_, ?_, ?_, ?_⟩
  · -- The blocks of `as` are kept fixed while the continuation is run.
    rw [hfs', hrun]
    have h := flights_induction (b := .never) (c := c)
      (Q := fun gs x => Blocks gs x ∧ OnlyLastGrows (fs.map c.block) (gs.map x.block))
      (fun gs x o x' hm hx _ hgs hq => ?_) hc (run_single tool .never as hn') ht
      ⟨hb, .refl _⟩ as' (hrun ▸ hn)
    · exact h.2.2
    · obtain ⟨hblocks, hgrows⟩ := hq.1.move hgs hx hm
      exact ⟨hblocks, hq.2.trans hgrows⟩
  · intro f hf
    have htool : c.tool = tool := run_tool .never (new tool) as
    have h := hc.block_eq ht hf
    rwa [htool] at h
  · intro f hf hl
    exact ⟨(ht.untouched f hf hl).1, closing_of_none hl⟩
  · intro f hf i hl
    obtain ⟨t, hi⟩ : ∃ t, c.tasks[i]? = some t :=
      ⟨_, List.getElem?_eq_getElem (ht.line_lt hf hl)⟩
    -- The closing lines of a flight are those that its driver has written.
    have hclosing : c.closing f = t.driver.closed := by rw [closing_of_line hl, hi]; rfl
    rw [hclosing]
    exact ⟨t, hi, fun r hr => Driver.closed_of_result hr,
      Driver.closing_of_closed (hb.closes t (List.mem_of_getElem? hi))⟩

theorem text_is_blocks_preemption :
    (run .never (new cargo) preemption).tasks.length = 2 ∧
      (run .never (new cargo) preemption).memory.lines =
        ((flights cargo .never preemption).map
          (run .never (new cargo) preemption).block).flatten :=
  ⟨by decide, (text_is_blocks cargo preemption [] (by decide)).1⟩

end Coordinator
end BuildRunner
