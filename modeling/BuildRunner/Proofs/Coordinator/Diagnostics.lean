import BuildRunner.Proofs.Coordinator.Flights
import BuildRunner.Proofs.Task.Routing

set_option autoImplicit false

/-! # Whose diagnostics are collected

At any time a sink that collects diagnostics holds those of the last flight and no others. The
count that a driver keeps agrees with what it has published, so the report of the last flight says
how many diagnostics there are.
-/

namespace BuildRunner

open Coordinator (Move)

/-- **The count of a task agrees** with the number of diagnostics that were published for it. What
is still to be published is counted already; a driver that has failed counts no more. -/
def Task.Counts (t : Task) (n : Nat) : Prop :=
  match t.driver with
  | .following _ | .closing _ _ => t.routing.diagnostics = n
  | .publishing _ ds => t.routing.diagnostics = n + ds.length
  | d => ∀ r, d.result? = some (.report r) → r.diagnostics = n

def Flight.lastPublished (fs : List Flight) : List Collected.Entry :=
  fs.getLast?.elim [] (·.published)

@[simp] theorem Flight.lastPublished_append (fs : List Flight) (f : Flight) :
    lastPublished (fs ++ [f]) = f.published := by
  simp [lastPublished]

/-- **What is collected** is what was published for the last flight, and all tasks count right. -/
structure Shows (fs : List Flight) (c : Coordinator) : Prop where
  collected : c.memory.collected = .gather (Flight.lastPublished fs)
  counts : ∀ f ∈ fs, ∀ (i : Nat) (t : Task), f.line = some i → c.tasks[i]? = some t →
    t.Counts f.published.length

variable {b : Breakdown} {c c' : Coordinator} {fs : List Flight} {f : Flight} {i : Nat}
  {o : Option Occurrence} {t t' : Task} {calls : List SinkCall} {call : Option SinkCall} {n : Nat}

/-! ## The work of a driver -/

theorem Task.counts_kill (h : t.Counts n) : t.kill.Counts n := by
  unfold kill
  split <;> exact h

theorem Task.Work.counts (work : t.Work b calls i o t' call) (hl : f.line = some i)
    (h : t.Counts f.published.length) : t'.Counts (o.elim f f.note).published.length := by
  cases work with
  | turn following _ _ => simpa [Task.Counts, following] using h
  | @ended _ _ _ r elapsed following _ _ =>
      simp only [Task.Counts, following] at h
      cases r with
      | waitFailed => simp [Task.Counts, Coordinator.afterRun, Driver.result?]
      | outcome x =>
          cases x <;> simpa [Task.Counts, Coordinator.afterRun, Driver.result?, Task.report] using h
  | text following _ routed _ | malformed following _ routed =>
      simpa [Task.Counts, following, Flight.note, hl, Routing.route_diagnostics routed,
        Routed.found] using h
  | found following _ routed =>
      simpa [Task.Counts, following, Flight.note, hl, Routing.route_diagnostics routed,
        Routed.found] using h
  | published publishing => simpa [Task.Counts, publishing] using h
  | publish publishing _ =>
      simp only [Task.Counts, publishing, List.length_cons] at h
      simp only [Task.Counts, Option.elim_some, Flight.note, hl, if_true, List.length_append,
        List.length_singleton]
      omega
  | closed closing =>
      simp only [Task.Counts, closing] at h
      simpa [Task.Counts, Driver.result?, Task.report] using h
  | close closing _ => simpa [Task.Counts, closing] using h
  | brokenText _ _ _ _ | brokenPublish _ _ | brokenClose _ _ | abandon _ =>
      simp [Task.Counts, Driver.result?]

/-! ## One move -/

namespace Shows

/-- Changes of a task that are no work leave its count as it is. -/
theorem counts_set (h : Shows fs c) (ht : c.tasks[i]? = some t)
    (hcounts : ∀ n, t.Counts n → t'.Counts n) : ∀ f ∈ fs, ∀ (j : Nat) (x : Task), f.line = some j →
    (c.tasks.set i t')[j]? = some x → x.Counts f.published.length := by
  intro f hf j x hl hx
  rw [Coordinator.getElem?_set_tasks ht] at hx
  split at hx
  · rename_i hj
    obtain rfl := Option.some.inj hx
    exact hcounts _ (h.counts f hf i t (hj ▸ hl) ht)
  · exact h.counts f hf j x hl hx

theorem decide (h : Shows fs c) {k : Nat} {r : TaskRequest} (ht : c'.tasks = c.tasks)
    (hcalls : c'.calls = .clear :: c.calls) :
    Shows (fs ++ [{ caller := k, request := r }]) c' where
  collected := by
    rw [Coordinator.memory_cons hcalls, Flight.lastPublished_append]
    rfl
  counts f hf i t hl hi := by
    rcases List.mem_append.mp hf with hf | hf
    · exact h.counts f hf i t hl (ht ▸ hi)
    · obtain rfl := List.mem_singleton.mp hf
      cases hl

theorem launch {init : List Flight} {k : Nat} {r : TaskRequest} (h : Shows (init ++ [f]) c)
    (htracks : Tracks (init ++ [f]) c) (hf : f.line = none) :
    Shows (init ++ [{ f with line := some c.tasks.length }])
      ((c.register r).unlock k (.started c.nextId c.tasks.length)) where
  collected := by
    rw [Flight.lastPublished_append]
    have hcollected := h.collected
    rwa [Flight.lastPublished_append] at hcollected
  counts g hg i t hl hi := by
    have hi : (c.tasks ++ [c.newTask r])[i]? = some t := hi
    rcases List.mem_append.mp hg with hg | hg
    · have hg := List.mem_append_left [f] hg
      rw [List.getElem?_append_left (htracks.line_lt hg hl)] at hi
      exact h.counts g hg i t hl hi
    · obtain rfl := List.mem_singleton.mp hg
      obtain rfl := Option.some.inj hl
      obtain rfl : c.newTask r = t := by simpa using hi
      -- A new task has counted nothing, and nothing was published without a line.
      show (0 : Nat) = f.published.length
      rw [(htracks.untouched f (by simp) hf).2]
      rfl

theorem work {init : List Flight} (h : Shows (init ++ [f]) c) (htracks : Tracks (init ++ [f]) c)
    (hl : f.line = some i) (ht : c.tasks[i]? = some t) (work : t.Work b c.calls i o t' call) :
    Shows (init ++ [o.elim f f.note]) (c.put i t' call) where
  collected := by
    have hcollected := h.collected
    rw [Flight.lastPublished_append] at hcollected ⊢
    cases work with
    | publish _ _ | brokenPublish _ _ =>
        -- Even a sink that breaks down has got the diagnostic.
        rw [Coordinator.memory_cons rfl, MemorySinks.apply, hcollected]
        simp [Flight.note, hl, Collected.gather_append]
    | text _ _ _ _ | brokenText _ _ _ _ | close _ _ | brokenClose _ _ =>
        rw [Coordinator.memory_cons rfl, MemorySinks.apply, hcollected]
        simp [Flight.note, hl]
    | found _ _ _ | malformed _ _ _ =>
        rw [Option.elim_some, Flight.note, if_pos hl]
        exact hcollected
    | _ => exact hcollected
  counts g hg j x hgl hx := by
    have hx : (c.tasks.set i t')[j]? = some x := hx
    rw [Coordinator.getElem?_set_tasks ht] at hx
    rcases List.mem_append.mp hg with hg | hg
    · -- Another flight has another line, and its task has not changed.
      have hj : j ≠ i := by
        rintro rfl
        exact htracks.line_ne hl hg hgl
      rw [if_neg hj] at hx
      exact h.counts g (List.mem_append_left _ hg) j x hgl hx
    · obtain rfl := List.mem_singleton.mp hg
      have hline : (o.elim f f.note).line = f.line := by
        cases work <;> simp [Flight.note_line]
      obtain rfl : i = j := Option.some.inj ((hline.trans hl).symm.trans hgl)
      obtain rfl : t' = x := by simpa using hx
      exact work.counts hl (h.counts f (by simp) i t hl ht)

theorem move (h : Shows fs c) (htracks : Tracks fs c) (hc : c.Orderly) (hm : Move b c o c') :
    Shows (Flight.extend fs o) c' := by
  cases hm with
  | engage _ _ _ _ | brokenEngage _ _ _ _ => exact h.decide rfl rfl
  | announce _ _ | brokenAnnounce _ _ | notify _ =>
      exact ⟨by rw [Coordinator.memory_cons rfl]; exact h.collected, h.counts⟩
  | launch hk =>
      obtain ⟨init, f, rfl, rfl, hf⟩ := htracks.holder _ (hc.idle_of_starting hk).1
      rw [htracks.extend_launched]
      exact h.launch htracks hf
  | kill signal hk =>
      obtain ⟨⟨t, ht, -⟩, -⟩ := hc.callers _ _ hk
      refine ⟨h.collected, ?_⟩
      rw [Coordinator.modify_eq_set ht]
      exact h.counts_set ht fun _ => Task.counts_kill
  | work task work =>
      obtain ⟨init, f, rfl, hl⟩ := htracks.atWork _ _ task work.isAtWork.1
      rw [htracks.extend_work hl work]
      exact h.work htracks hl task work
  | finish task leaving _ | signal task leaving | release task leaving =>
      refine ⟨h.collected, h.counts_set task fun n hn => ?_⟩
      simpa [Task.Counts, leaving, Driver.result?] using hn
  | _ => exact ⟨h.collected, h.counts⟩

end Shows

/-! ## Every run -/

namespace Coordinator

/-- What is collected is right after every run with fewer than `2^64` starts. -/
theorem run_shows (tool : Tool) (b : Breakdown) (as : List Action)
    (hn : (run b (new tool) as).tasks.length < UInt64.size) :
    Shows (flights tool b as) (run b (new tool) as) :=
  (flights_induction (fun _ _ _ _ hm hc _ ht hshows => hshows.move ht hc hm)
    (orderly_new tool) (single_new tool) (tracks_new tool) ⟨rfl, by simp⟩ as hn).2

/-- **Diagnostics of different tasks never mix**, over every run, whatever sinks break down.

The sink holds exactly what was published for the request that was last decided to be started: each
diagnostic once, and for every file in the order of publication. It holds nothing if that request
was not launched. While a task is in the state, it is the one whose diagnostics are held. As soon as
the driver of the last request has come to a report, that report says how many diagnostics the sink
holds. As for single flight, numbers have to tell tasks apart: a caller that has waited for `2^64`
starts could take another task than its own out of the state. -/
theorem collected_of_last_flight (tool : Tool) (b : Breakdown) (as : List Action)
    (hn : (run b (new tool) as).tasks.length < UInt64.size) :
    let c := run b (new tool) as
    let last := (flights tool b as).getLast?
    let es := last.elim [] (·.published)
    c.memory.collected = .gather es ∧
    c.memory.collected.toList.Perm (es.map (·.2)) ∧
    (∀ p, c.memory.collected.forFile p =
      (es.filter fun e => Path.compare p e.path = .eq).map (·.2)) ∧
    (∀ f, last = some f → f.line = none → es = []) ∧
    (∀ h, c.state = .running h → ∃ f, last = some f ∧ f.line = some h.line) ∧
    (∀ (f : Flight) (i : Nat) (t : Task) (r : TaskReport), last = some f → f.line = some i →
      c.tasks[i]? = some t → t.driver.result? = some (.report r) →
      r.diagnostics = c.memory.collected.size) := by
  intro c last es
  have htracks : Tracks (flights tool b as) c := run_tracks tool b as hn
  have hshows : Shows (flights tool b as) c := run_shows tool b as hn
  have hcollected : c.memory.collected = .gather es := hshows.collected
  rw [hcollected]
  refine ⟨rfl, Collected.perm_gather es, Collected.forFile_gather es, ?_, ?_, ?_⟩
  · intro f hlast hline
    have hf := (htracks.untouched f (List.mem_of_getLast? hlast) hline).2
    simp [es, hlast, hf]
  · intro h hs
    obtain ⟨t, ht, -, hw⟩ := (run_orderly tool b as).running h hs
    obtain ⟨init, f, hfs, hl⟩ := htracks.atWork _ t ht hw
    exact ⟨f, by simp [last, hfs], hl⟩
  · intro f i t r hlast hl ht hr
    have hcounts := hshows.counts f (List.mem_of_getLast? hlast) i t hl ht
    rw [Collected.size_gather]
    have hes : es = f.published := by simp [es, hlast]
    cases hd : t.driver <;> simp [Driver.result?, hd] at hr <;>
      simpa [Task.Counts, hd, Driver.result?, hr, hes] using hcounts

/-- A task publishes a warning and is preempted; the one that takes its place publishes another warning
and exits. -/
def warningsApart : List Action :=
  let go (k : Nat) : Action := .proceed k {}
  let offer (line : Nat) (o : Offer) : Action := .drive line o (.ofMicros 0)
  [.call (.invoke { command := "build", workingDirectory := "/w" }),
    .call (.invoke { command := "test", workingDirectory := "/w", force := true }),
    go 0, go 0, go 0, offer 0 { arrival := .line (warningAbout "a.rs") }, offer 0 {}, offer 0 {},
    go 1, go 1, offer 0 {}, offer 0 { exit := .exited none }, offer 0 { arrival := .ended },
    offer 0 {}, offer 0 {}, offer 0 {}, go 1, go 1, go 1, go 1, go 1,
    offer 1 { arrival := .line (warningAbout "b.rs") }, offer 1 {}, offer 1 {},
    offer 1 { arrival := .ended, exit := .exited (some 0) }, offer 1 {}, offer 1 {}, offer 1 {}]

/-- What the first task has published is not held any longer, and the report of the second one counts what
is. -/
theorem collected_preemption :
    let c := run .never (new cargo) warningsApart
    (flights cargo .never warningsApart).map (fun f => f.published.map (·.path)) =
        [["/w/a.rs"], ["/w/b.rs"]] ∧
      c.memory.collected =
        .gather ((flights cargo .never warningsApart).getLast?.elim [] (·.published)) ∧
      c.memory.collected.size = 1 ∧
      ∃ t r, c.tasks[1]? = some t ∧ t.driver.result? = some (.report r) ∧
        r.diagnostics = c.memory.collected.size := by
  intro c
  have computed : ((flights cargo .never warningsApart).map (fun f => f.published.map (·.path)) =
        [["/w/a.rs"], ["/w/b.rs"]] ∧ c.memory.collected.size = 1) ∧ c.tasks.length = 2 ∧
      (flights cargo .never warningsApart).getLast?.bind (·.line) = some 1 ∧
      c.hasExited 1 "/w" = true := by
    decide +kernel
  obtain ⟨⟨published, size⟩, two, line, exited⟩ := computed
  obtain ⟨f, last, line⟩ := Option.bind_eq_some_iff.mp line
  obtain ⟨t, x, ended, -⟩ := exists_exited exited
  have few : c.tasks.length < UInt64.size := by rw [two]; decide
  obtain ⟨collected, -, -, -, -, counts⟩ := collected_of_last_flight cargo .never warningsApart few
  exact ⟨published, collected, size, t, x, ended.task, ended.report,
    counts f 1 t x last line ended.task ended.report⟩

end Coordinator
end BuildRunner
