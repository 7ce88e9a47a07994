import BuildRunner.Proofs.Coordinator.SingleFlight
import BuildRunner.Proofs.Diagnostic.Collected
import BuildRunner.Sink.Memory

set_option autoImplicit false

/-! # Flights

A *flight* is a request that was decided to be started, with what has become of it: the line to
its task, the lines that its process has delivered, the diagnostics that were published for it.
Flights are read off the occurrences of a run and take no part in it.

`Tracks` says how they stand to the coordinator. Only the last flight can be under way: its
caller holds the lock, or its driver is at work.
-/

namespace BuildRunner

open Coordinator (Action Move)

structure Flight where
  caller : Nat
  request : TaskRequest
  /-- The line to its task, once a process was launched. -/
  line : Option Nat := none
  /-- The lines that its process has delivered. -/
  delivered : List OutputLine := []
  /-- The diagnostics that were published for it. -/
  published : List Collected.Entry := []

namespace Flight

def note (f : Flight) : Occurrence → Flight
  | .decided _ _ => f
  | .launched k line => if f.caller = k then { f with line := some line } else f
  | .delivered line l =>
    if f.line = some line then { f with delivered := f.delivered ++ [l] } else f
  | .published line dir d =>
    if f.line = some line then { f with published := f.published ++ [(dir, d)] } else f

def record (fs : List Flight) : Occurrence → List Flight
  | .decided k r => fs ++ [{ caller := k, request := r }]
  | o => fs.map (·.note o)

/-- The flights after a step in which something may occur. -/
def extend (fs : List Flight) (o : Option Occurrence) : List Flight := o.toList.foldl record fs

variable {f : Flight} {o : Occurrence} {k line : Nat}

@[simp] theorem extend_none (fs : List Flight) : extend fs none = fs := rfl

@[simp] theorem extend_some (fs : List Flight) (o : Occurrence) :
    extend fs (some o) = record fs o := rfl

@[simp] theorem note_caller : (f.note o).caller = f.caller := by
  cases o <;> simp only [note] <;> split <;> rfl

@[simp] theorem note_request : (f.note o).request = f.request := by
  cases o <;> simp only [note] <;> split <;> rfl

theorem note_line : (f.note o).line =
    match o with
    | .launched k line => if f.caller = k then some line else f.line
    | _ => f.line := by
  cases o <;> simp only [note] <;> split <;> rfl

/-- What occurs on other lines does not belong to a flight. -/
theorem note_delivered_of_ne {l : OutputLine} (h : f.line ≠ some line) :
    f.note (.delivered line l) = f := by
  simp [note, h]

theorem note_published_of_ne {dir : String} {d : Diagnostic} (h : f.line ≠ some line) :
    f.note (.published line dir d) = f := by
  simp [note, h]

theorem note_launched_of_ne (h : f.caller ≠ k) : f.note (.launched k line) = f := by
  simp [note, h]

theorem map_note {fs : List Flight} (h : ∀ f ∈ fs, f.note o = f) : fs.map (·.note o) = fs :=
  (List.map_congr_left h).trans (List.map_id' fs)

end Flight

namespace Coordinator

open Flight (extend record)

def trace (b : Breakdown) (c : Coordinator) : List Action → List Occurrence
  | [] => []
  | a :: as => (c.occurrence? a).toList ++ trace b (step b c a) as

def flights (tool : Tool) (b : Breakdown) (as : List Action) : List Flight :=
  (trace b (new tool) as).foldl record []

/-- What every move keeps holds after every run, of the flights as well. -/
theorem trace_induction {b : Breakdown} {c : Coordinator} {P : List Flight → Coordinator → Prop}
    (hstep : ∀ fs c o c', Move b c o c' → P fs c → P (extend fs o) c') (fs : List Flight)
    (h : P fs c) (as : List Action) : P ((trace b c as).foldl record fs) (run b c as) := by
  induction as generalizing fs c with
  | nil => exact h
  | cons a as ih =>
      rw [trace, List.foldl_append]
      exact ih _ (hstep fs c _ _ (step_move b c a) h)

theorem trace_append (b : Breakdown) (c : Coordinator) (as as' : List Action) :
    trace b c (as ++ as') = trace b c as ++ trace b (run b c as) as' := by
  induction as generalizing c with
  | nil => rfl
  | cons a as ih => simp [trace, ih, run]

end Coordinator

def Stage.Serves (s : Stage) (r : TaskRequest) : Prop :=
  match s with
  | .starting r' _ => r' = r
  | .answered _ => True
  | _ => False

structure Tracks (fs : List Flight) (c : Coordinator) : Prop where
  lines : fs.filterMap (·.line) = List.range c.tasks.length
  callers : ∀ f ∈ fs, ∃ s, c.stage? f.caller = some s ∧ s.Serves f.request
  distinct : (fs.map (·.caller)).Nodup
  untouched : ∀ f ∈ fs, f.line = none → f.delivered = [] ∧ f.published = []
  holder : ∀ k, c.lock = some k → ∃ init f, fs = init ++ [f] ∧ f.caller = k ∧ f.line = none
  atWork : ∀ (i : Nat) (t : Task), c.tasks[i]? = some t → t.driver.isAtWork = true →
    ∃ init f, fs = init ++ [f] ∧ f.line = some i

namespace Tracks

variable {b : Breakdown} {c c' : Coordinator} {fs init : List Flight} {f f' g : Flight} {i k : Nat}
  {o : Option Occurrence}

/-! ## The last flight -/

theorem line_lt (h : Tracks fs c) (hf : f ∈ fs) (hl : f.line = some i) : i < c.tasks.length := by
  have hi : i ∈ fs.filterMap (·.line) := List.mem_filterMap.mpr ⟨f, hf, hl⟩
  rw [h.lines] at hi
  exact List.mem_range.mp hi

/-- No other flight has the line of the last one. -/
theorem line_ne (h : Tracks (init ++ [f]) c) (hl : f.line = some i) (hg : g ∈ init) :
    g.line ≠ some i := by
  intro hgl
  have hn : ((init ++ [f]).filterMap (·.line)).Nodup := h.lines ▸ List.nodup_range
  rw [List.filterMap_append, List.nodup_append] at hn
  exact hn.2.2 i (List.mem_filterMap.mpr ⟨g, hg, hgl⟩) i (by simp [hl]) rfl

/-- No other flight has the caller of the last one. -/
theorem caller_ne (h : Tracks (init ++ [f]) c) (hg : g ∈ init) : g.caller ≠ f.caller := by
  have hn := h.distinct
  rw [List.map_append, List.nodup_append] at hn
  exact hn.2.2 _ (List.mem_map_of_mem hg) _ (by simp)

/-- A caller in a stage that serves no request has no flight. -/
theorem caller_ne_of_stage (h : Tracks fs c) {s : Stage} (hk : c.stage? k = some s)
    (hs : ∀ r, ¬ s.Serves r) (hf : f ∈ fs) : f.caller ≠ k := by
  rintro rfl
  obtain ⟨u, hu, hserves⟩ := h.callers f hf
  rw [hk] at hu
  obtain rfl := Option.some.inj hu
  exact hs _ hserves

/-- What a driver does is noted in the last flight only. -/
theorem extend_work (h : Tracks (init ++ [f]) c) (hl : f.line = some i) {calls : List SinkCall}
    {t t' : Task} {call : Option SinkCall} (work : t.Work b calls i o t' call) :
    Flight.extend (init ++ [f]) o = init ++ [o.elim f f.note] := by
  have delivered : ∀ l, init.map (·.note (.delivered i l)) = init := fun l =>
    Flight.map_note fun g hg => Flight.note_delivered_of_ne (h.line_ne hl hg)
  have published : ∀ dir d, init.map (·.note (.published i dir d)) = init := fun dir d =>
    Flight.map_note fun g hg => Flight.note_published_of_ne (h.line_ne hl hg)
  cases work <;> simp [Flight.record, delivered, published]

theorem extend_launched (h : Tracks (init ++ [f]) c) (n : Nat) :
    Flight.extend (init ++ [f]) (some (.launched f.caller n)) =
      init ++ [{ f with line := some n }] := by
  have launched : init.map (·.note (.launched f.caller n)) = init :=
    Flight.map_note fun g hg => Flight.note_launched_of_ne (h.caller_ne hg)
  have own : f.note (.launched f.caller n) = { f with line := some n } := by simp [Flight.note]
  simp [Flight.record, launched, own]

/-! ## One move -/

theorem serves_setStage {s s' : Stage} {x : Coordinator} (hk : c.stage? k = some s)
    (hs : ∀ r, s.Serves r → s'.Serves r) (hx : x.callers = c.callers)
    (hf : ∃ s, c.stage? f.caller = some s ∧ s.Serves f.request) :
    ∃ s, (x.setStage k s').stage? f.caller = some s ∧ s.Serves f.request := by
  have hxs : x.stage? f.caller = c.stage? f.caller := by simp [Coordinator.stage?, hx]
  obtain ⟨u, hu, hserves⟩ := hf
  rw [Coordinator.stage?_setStage, hxs]
  by_cases hkf : k = f.caller
  · subst hkf
    rw [hk] at hu
    obtain rfl := Option.some.inj hu
    exact ⟨s', by simp [hk], hs _ hserves⟩
  · exact ⟨u, by simp [hkf, hu], hserves⟩

/-- The flights stay as they are while nothing is started. -/
theorem frame (h : Tracks fs c) (hm : Move b c o c') (hn : c'.tasks.length = c.tasks.length)
    (hl : ∀ k, c'.lock = some k → c.lock = some k)
    (hs : ∀ f : Flight, (∃ s, c.stage? f.caller = some s ∧ s.Serves f.request) →
      ∃ s, c'.stage? f.caller = some s ∧ s.Serves f.request) : Tracks fs c' where
  lines := hn ▸ h.lines
  callers f hf := hs f (h.callers f hf)
  distinct := h.distinct
  untouched := h.untouched
  holder k hk := h.holder k (hl k hk)
  atWork i t' ht' hw := by
    rcases hm.task ht' with ⟨t, ht, rfl | change⟩ | ⟨hi, -⟩
    · exact h.atWork i t' ht hw
    · exact h.atWork i t ht (change.follows.atWork hw)
    · have hlt := (List.getElem?_eq_some_iff.mp ht').1
      omega

/-- A request that is decided to be started is a new flight. -/
theorem decide (h : Tracks fs c) {r : TaskRequest} (hs : c.Single)
    (hk : c.stage? k = some (.deciding (.invoke r))) (idle : c.state = .idle)
    {s : Stage} {x : Coordinator} (hx : x.callers = c.callers) (ht : x.tasks = c.tasks)
    (hl : ∀ j, x.lock = some j → j = k) (hserves : s.Serves r) :
    Tracks (fs ++ [{ caller := k, request := r }]) (x.setStage k s) where
  lines := by
    show List.filterMap _ _ = List.range x.tasks.length
    rw [ht, List.filterMap_append, h.lines]
    simp
  callers f hf := by
    rcases List.mem_append.mp hf with hf | hf
    · exact serves_setStage hk (fun _ hd => hd.elim) hx (h.callers f hf)
    · obtain rfl := List.mem_singleton.mp hf
      have hxk : x.stage? k = c.stage? k := by simp [Coordinator.stage?, hx]
      exact ⟨s, by simp [Coordinator.stage?_setStage, hxk, hk], hserves⟩
  distinct := by
    have fresh : k ∉ fs.map (·.caller) := by
      intro hmem
      obtain ⟨f, hf, hfk⟩ := List.mem_map.mp hmem
      exact h.caller_ne_of_stage hk (fun _ hserves => hserves) hf hfk
    rw [List.map_append, List.nodup_append]
    refine ⟨h.distinct, by simp, fun a ha k' hk' => ?_⟩
    rintro rfl
    obtain rfl : a = k := by simpa using hk'
    exact fresh ha
  untouched f hf hline := by
    rcases List.mem_append.mp hf with hf | hf
    · exact h.untouched f hf hline
    · obtain rfl := List.mem_singleton.mp hf
      exact ⟨rfl, rfl⟩
  holder j hj := ⟨fs, _, rfl, (hl j hj).symm, rfl⟩
  atWork i t hi hw := by
    -- The state is idle, so no driver is at work.
    have ht : c.tasks[i]? = some t := ht ▸ hi
    have running := hs i t ht hw
    rw [idle] at running
    cases running

/-- The flight of the caller that holds the lock gets a line. -/
theorem launch (h : Tracks (init ++ [f]) c) {r : TaskRequest} (hs : c.Single)
    (idle : c.state = .idle) (hf : f.line = none)
    (hk : c.stage? f.caller = some (.starting r .launching)) :
    Tracks (init ++ [{ f with line := some c.tasks.length }])
      ((c.register r).unlock f.caller (.started c.nextId c.tasks.length)) where
  lines := by
    have hlines := h.lines
    -- The lines are numbered in the order of the tasks, and the new one has the next number.
    show _ = List.range (c.tasks ++ [_]).length
    rw [List.filterMap_append] at hlines ⊢
    simp only [hf, List.filterMap_cons_none, List.filterMap_nil, List.append_nil] at hlines
    simp [hlines, List.range_succ]
  callers g hg := by
    refine serves_setStage (x := { c.register r with lock := none }) hk (fun _ _ => trivial) rfl ?_
    rcases List.mem_append.mp hg with hg | hg
    · exact h.callers g (List.mem_append_left _ hg)
    · obtain rfl := List.mem_singleton.mp hg
      exact h.callers f (by simp)
  distinct := by simpa using h.distinct
  untouched g hg hline := by
    rcases List.mem_append.mp hg with hg | hg
    · exact h.untouched g (List.mem_append_left _ hg) hline
    · obtain rfl := List.mem_singleton.mp hg
      cases hline
  holder j hj := by cases hj
  atWork i t hi hw := by
    rcases Coordinator.getElem?_concat_eq_some
      (show (c.tasks ++ [c.newTask r])[i]? = some t from hi) with ht | ⟨hlast, -⟩
    · -- A task whose driver is at work would be in the state, which is idle.
      have running := hs i t ht hw
      rw [idle] at running
      cases running
    · exact ⟨init, _, rfl, by rw [hlast]⟩

/-- What is noted in the last flight changes neither its caller nor its line. -/
theorem touch (h : Tracks (init ++ [f]) c) (hl : f.line ≠ none) (hcaller : f'.caller = f.caller)
    (hrequest : f'.request = f.request) (hline : f'.line = f.line) :
    Tracks (init ++ [f']) c where
  lines := by
    rw [← h.lines, List.filterMap_append, List.filterMap_append]
    simp [List.filterMap_cons, hline]
  callers g hg := by
    rcases List.mem_append.mp hg with hg | hg
    · exact h.callers g (List.mem_append_left _ hg)
    · obtain rfl := List.mem_singleton.mp hg
      rw [hcaller, hrequest]
      exact h.callers f (by simp)
  distinct := by simpa [hcaller] using h.distinct
  untouched g hg hnone := by
    rcases List.mem_append.mp hg with hg | hg
    · exact h.untouched g (List.mem_append_left _ hg) hnone
    · obtain rfl := List.mem_singleton.mp hg
      exact absurd (hline ▸ hnone) hl
  holder k hk := by
    obtain ⟨init', g, hfs, hg, hnone⟩ := h.holder k hk
    obtain ⟨-, rfl⟩ := List.append_singleton_inj.mp hfs
    exact absurd hnone hl
  atWork i t ht hw := by
    obtain ⟨init', g, hfs, hgl⟩ := h.atWork i t ht hw
    obtain ⟨-, rfl⟩ := List.append_singleton_inj.mp hfs
    exact ⟨init, f', rfl, hline.trans hgl⟩

theorem move (h : Tracks fs c) (hc : c.Orderly) (hs : c.Single) (hm : Move b c o c') :
    Tracks (Flight.extend fs o) c' := by
  have stays : ∀ {k : Nat} {s s' : Stage} {x : Coordinator}, c.stage? k = some s →
      x.callers = c.callers → (∀ r, s.Serves r → s'.Serves r) → ∀ f : Flight,
      (∃ s, c.stage? f.caller = some s ∧ s.Serves f.request) →
      ∃ s, (x.setStage k s').stage? f.caller = some s ∧ s.Serves f.request :=
    fun hk hx hserves f hf => serves_setStage hk hserves hx hf
  have frame := h.frame hm
  -- Only `engage` adds a flight, only `launch` gives one a line, and only `work` notes more.
  cases hm with
  | rest | probe _ _ => exact frame rfl (fun _ hk => hk) (fun _ hf => hf)
  | arrive d =>
      refine frame rfl (fun _ hk => hk) (fun f hf => ?_)
      obtain ⟨s, hs, hserves⟩ := hf
      obtain ⟨killed, hkilled⟩ := Coordinator.stage?_eq_some.mp hs
      refine ⟨s, Coordinator.stage?_eq_some.mpr ⟨killed, ?_⟩, hserves⟩
      exact (List.getElem?_append_left (List.getElem?_eq_some_iff.mp hkilled).1).trans hkilled
  | learn hk _ | drop hk _ _ _ | pass hk _ _ | aim hk _ _ _ | wake hk _ =>
      exact frame rfl (fun _ hk => hk) (stays hk rfl fun _ hd => hd.elim)
  | clear hk _ =>
      exact frame rfl (fun _ hk => hk)
        (stays (x := { c with state := _ }) hk rfl fun _ hd => hd.elim)
  | fail _ hk => exact frame rfl (fun _ hk => hk) (stays hk rfl fun _ hr => hr)
  | announce hk _ =>
      exact frame rfl (fun _ hk => hk) (stays (x := { c with calls := _ }) hk rfl fun _ hr => hr)
  | brokenAnnounce hk _ | notify hk =>
      exact frame rfl (fun _ hk => by cases hk)
        (stays (x := { c with calls := _, lock := none }) hk rfl fun _ _ => trivial)
  | engage hk _ idle _ =>
      exact h.decide hs hk idle (x := { c with calls := _, lock := some _ }) rfl rfl
        (fun _ hj => (Option.some.inj hj).symm) rfl
  | brokenEngage hk _ idle _ =>
      exact h.decide hs hk idle (x := { c with calls := _, lock := none }) rfl rfl
        (fun _ hj => by cases hj) trivial
  | launch hk =>
      obtain ⟨holds, idle⟩ := hc.idle_of_starting hk
      obtain ⟨init, f, rfl, rfl, hf⟩ := h.holder _ holds
      rw [h.extend_launched]
      exact h.launch hs idle hf hk
  | kill signal hk =>
      rename_i k p h' killed
      refine frame (List.length_modify _ _ _) (fun _ hk => hk) (fun f hf => ?_)
      obtain ⟨s, hs, hserves⟩ := hf
      -- A caller that kills has started nothing.
      have hne : k ≠ f.caller := by
        rintro rfl
        rw [Coordinator.stage?, hk] at hs
        obtain rfl := Option.some.inj hs
        exact hserves
      exact ⟨s, by simpa [Coordinator.stage?, List.getElem?_set_ne hne] using hs, hserves⟩
  | work task work =>
      have moved := frame (by simp [Coordinator.put]) (fun _ hk => hk) (fun _ hf => hf)
      -- The driver is at work, so it drives the last flight.
      obtain ⟨init, f, rfl, hf⟩ := h.atWork _ _ task work.isAtWork.1
      rw [h.extend_work hf work]
      refine moved.touch (by simp [hf]) ?_ ?_ ?_ <;> cases work <;> simp [Flight.note_line]
  | finish task _ _ | signal task _ | release task _ =>
      exact frame (by simp [Coordinator.put]) (fun _ hk => hk) (fun _ hf => hf)

end Tracks

namespace Coordinator

theorem tracks_new (tool : Tool) : Tracks [] (new tool) := by
  constructor <;> simp [new]

/-- What every move keeps holds after every run with fewer than `2^64` starts; a move is made in
order and with the flights tracked. -/
theorem flights_induction {b : Breakdown} {c : Coordinator} {fs : List Flight}
    {Q : List Flight → Coordinator → Prop}
    (hstep : ∀ fs c o c', Move b c o c' → c.Orderly → c.Single → Tracks fs c → Q fs c →
      Q (Flight.extend fs o) c')
    (hc : c.Orderly) (hs : c.Single) (ht : Tracks fs c) (hq : Q fs c) (as : List Action)
    (hn : (run b c as).tasks.length < UInt64.size) :
    Tracks ((trace b c as).foldl Flight.record fs) (run b c as) ∧
      Q ((trace b c as).foldl Flight.record fs) (run b c as) := by
  have h := trace_induction (b := b) (c := c)
    (P := fun fs c => c.Orderly ∧ (c.tasks.length < UInt64.size → c.Single ∧ Tracks fs c ∧ Q fs c))
    (fun fs c o c' hm hc => ?_) fs ⟨hc, fun _ => ⟨hs, ht, hq⟩⟩ as
  · exact (h.2 hn).2
  · refine ⟨hc.1.move hm, fun hn => ?_⟩
    have hn' := Nat.lt_of_le_of_lt hm.length_le hn
    obtain ⟨hs, ht, hq⟩ := hc.2 hn'
    exact ⟨hs.move hc.1 hn' hm, ht.move hc.1 hs hm, hstep fs c o c' hm hc.1 hs ht hq⟩

/-- The flights of a run are tracked after every run with fewer than `2^64` starts. -/
theorem run_tracks (tool : Tool) (b : Breakdown) (as : List Action)
    (hn : (run b (new tool) as).tasks.length < UInt64.size) :
    Tracks (flights tool b as) (run b (new tool) as) :=
  (flights_induction (Q := fun _ _ => True) (fun _ _ _ _ _ _ _ _ _ => trivial)
    (orderly_new tool) (single_new tool) (tracks_new tool) trivial as hn).1

/-! ## What sinks remember -/

def memory (c : Coordinator) : MemorySinks := .ofCalls c.history

theorem memory_cons {c c' : Coordinator} {call : SinkCall} (h : c'.calls = call :: c.calls) :
    c'.memory = c.memory.apply call := by
  simp [memory, history, h, MemorySinks.ofCalls]

end Coordinator
end BuildRunner
