import BuildRunner.Proofs.Coordinator.Growth
import BuildRunner.Proofs.Task.State

set_option autoImplicit false

/-! # A coordinator in order

`Orderly` is what holds of a coordinator at any time, however many tasks were started: how tasks
are numbered, that the state names only a task whose driver is at work, who holds the lock, and
what the callers know of the tasks they have aimed at. Numbers of tasks come round after `2^64`
starts; nothing here depends on that they have not.
-/

namespace BuildRunner

open Coordinator (Move)

def Stage.isStarting : Stage → Bool
  | .starting _ _ => true
  | _ => false

def Coordinator.Knows (c : Coordinator) (h : TaskHandle) : Prop :=
  ∃ t, c.tasks[h.line]? = some t ∧ t.handle = h

/-- **What a caller knows** of the task it has aimed at, and that a stop kills one task only. -/
def Caller.Fits (c : Coordinator) (x : Caller) : Prop :=
  match x.stage with
  | .deciding .stop => x.killed = []
  | .killing p h => c.Knows h ∧ (p = .stop → x.killed = [])
  | .awaiting p h => c.Knows h ∧ (p = .stop → x.killed = [h.id])
  | .clearing p h => c.Knows h ∧ c.isOver h.line = true ∧ (p = .stop → x.killed = [h.id])
  | .answered (.stopped true) => ∃ t ∈ c.tasks, t.line.isOver = true ∧ x.killed = [t.id]
  | _ => True

def Coordinator.isStarting (c : Coordinator) (k : Nat) : Bool := (c.stage? k).any Stage.isStarting

structure Coordinator.Orderly (c : Coordinator) : Prop where
  nextId : c.nextId = .ofNat (c.tasks.length + 1)
  numbered : ∀ (i : Nat) (t : Task), c.tasks[i]? = some t → t.handle.line = i ∧ t.id = .ofNat (i + 1)
  ends : ∀ (i : Nat) (t : Task), c.tasks[i]? = some t → t.line.isOver = true → t.driver.isAtWork = false
  running : ∀ h, c.state = .running h →
    ∃ t, c.tasks[h.line]? = some t ∧ t.handle = h ∧ t.driver.isAtWork = true
  holder : ∀ k, c.lock = some k ↔ c.isStarting k = true
  locked : c.lock ≠ none → c.state = .idle
  callers : ∀ (k : Nat) (x : Caller), c.callers[k]? = some x → x.Fits c

namespace Coordinator

variable {b : Breakdown} {c c' : Coordinator} {o : Option Occurrence} {k : Nat} {s : Stage}

/-! ## Tasks -/

theorem numbered_move (nextId : c.nextId = .ofNat (c.tasks.length + 1))
    (numbered : ∀ (i : Nat) (t : Task), c.tasks[i]? = some t →
      t.handle.line = i ∧ t.id = .ofNat (i + 1))
    (hm : Move b c o c') (i : Nat) (t' : Task) (h : c'.tasks[i]? = some t') :
    t'.handle.line = i ∧ t'.id = .ofNat (i + 1) := by
  rcases hm.task h with ⟨t, ht, same | change⟩ | ⟨hi, k, r, -, rfl, -⟩
  · exact same ▸ numbered i t ht
  · have hh := change.follows.handle
    simpa [Task.id, hh] using numbered i t ht
  · exact ⟨hi.symm, by simp [newTask, Task.id, nextId, hi]⟩

theorem nextId_move (h : c.nextId = .ofNat (c.tasks.length + 1)) (hm : Move b c o c') :
    c'.nextId = .ofNat (c'.tasks.length + 1) := by
  cases hm with
  | launch _ =>
      show c.nextId + 1 = .ofNat ((c.tasks ++ [_]).length + 1)
      rw [h, List.length_append, List.length_singleton]
      exact (UInt64.ofNat_add _ 1).symm
  | kill _ _ => simpa using h
  | work _ _ | finish _ _ _ | signal _ _ | release _ _ => simpa [put] using h
  | _ => exact h

theorem ends_change {t t' : Task} (h : t.Change b t')
    (ht : t.line.isOver = true → t.driver.isAtWork = false) :
    t'.line.isOver = true → t'.driver.isAtWork = false := by
  cases h with
  | kill => simpa using ht
  | work work =>
      intro ho
      have hf := ht (work.isOver ▸ ho)
      rw [work.isAtWork.1] at hf
      cases hf
  | _ => intro _; rfl

theorem Orderly.ends_move (hc : c.Orderly) (hm : Move b c o c') (i : Nat) (t' : Task)
    (h : c'.tasks[i]? = some t') : t'.line.isOver = true → t'.driver.isAtWork = false := by
  rcases hm.task h with ⟨t, ht, same | change⟩ | ⟨-, k, r, -, rfl, -⟩
  · exact same ▸ hc.ends i t ht
  · exact ends_change change (hc.ends i t ht)
  · simp [newTask, TaskLine.isOver]

/-! ## The state -/

/-- A driver that has left the state is not the one that the state names. -/
theorem Orderly.line_ne (hc : c.Orderly) {line : Nat} {t : Task} {h : TaskHandle}
    (ht : c.tasks[line]? = some t) (hw : t.driver.isAtWork = false) (hs : c.state = .running h) :
    h.line ≠ line := by
  rintro rfl
  obtain ⟨x, hx, -, hxw⟩ := hc.running h hs
  rw [ht] at hx
  obtain rfl := Option.some.inj hx
  simp [hw] at hxw

/-- A change of one task leaves the task of the state at work, if it keeps that task at work. -/
theorem Orderly.running_set (hc : c.Orderly) {line : Nat} {t t' : Task} {h : TaskHandle}
    (ht : c.tasks[line]? = some t) (hf : t'.handle = t.handle)
    (hw : h.line = line → t'.driver.isAtWork = true) (hs : c.state = .running h) :
    ∃ t, (c.tasks.set line t')[h.line]? = some t ∧ t.handle = h ∧ t.driver.isAtWork = true := by
  obtain ⟨x, hx, hxh, hxw⟩ := hc.running h hs
  rw [getElem?_set_tasks ht]
  by_cases hi : h.line = line
  · rw [hi, ht] at hx
    obtain rfl := Option.some.inj hx
    exact ⟨t', by simp [hi], hf.trans hxh, hw hi⟩
  · exact ⟨x, by simp [hi, hx], hxh, hxw⟩

theorem Orderly.running_move (hc : c.Orderly) (hm : Move b c o c') (h : TaskHandle)
    (hs : c'.state = .running h) :
    ∃ t, c'.tasks[h.line]? = some t ∧ t.handle = h ∧ t.driver.isAtWork = true := by
  cases hm with
  | launch starting =>
      obtain rfl := TaskState.running.inj hs
      exact ⟨c.newTask _, by simp [unlock, setStage, register, newTask], rfl, rfl⟩
  | kill signal killing =>
      obtain ⟨x, hx, hxh, hxw⟩ := hc.running h hs
      refine ⟨_, by rw [List.getElem?_modify, hx]; rfl, ?_, ?_⟩ <;> split <;> simp [hxh, hxw]
  | clear clearing free => exact hc.running h (TaskState.finish_eq_running.mp hs).1
  | work task work => exact hc.running_set task work.handle (fun _ => work.isAtWork.2) hs
  | finish task finishing free =>
      -- A driver takes its own task out of the state, so the task that is still there is another.
      rename_i line t r
      obtain ⟨hs, hne⟩ := TaskState.finish_eq_running.mp hs
      refine hc.running_set task rfl (fun hi => absurd ?_ hne) hs
      obtain ⟨x, hx, rfl, -⟩ := hc.running h hs
      rw [hi, task] at hx
      obtain rfl := Option.some.inj hx
      rfl
  | signal task signalling =>
      have hw := hc.line_ne task (by simp [signalling, Driver.isAtWork]) hs
      exact hc.running_set task rfl (fun hi => absurd hi hw) hs
  | release task releasing =>
      have hw := hc.line_ne task (by simp [releasing, Driver.isAtWork]) hs
      exact hc.running_set task rfl (fun hi => absurd hi hw) hs
  | _ => exact hc.running h hs

/-! ## The lock -/

theorem stage?_setStage (c : Coordinator) (k j : Nat) (s : Stage) :
    (c.setStage k s).stage? j = if k = j then (c.stage? j).map fun _ => s else c.stage? j := by
  simp only [stage?, setStage, List.getElem?_modify]
  by_cases h : k = j
  · simp [h, Function.comp_def]
  · simp [h]

/-- Only callers that are there hold the lock, and a new caller does not. -/
theorem isStarting_call (c : Coordinator) (d : Demand) (k : Nat) :
    (c.call d).isStarting k = c.isStarting k := by
  have hd : d.stage.isStarting = false := by cases d <;> rfl
  simp only [isStarting, stage?, call]
  rw [List.getElem?_append]
  split
  · rfl
  · rename_i hk
    rw [List.getElem?_eq_none (Nat.le_of_not_lt hk), List.getElem?_singleton]
    split <;> simp [hd]

/-- A caller goes to another stage, and the lock changes hands accordingly. -/
theorem holder_setStage {s' : Stage} {x : Coordinator} (hc : ∀ j, c.lock = some j ↔ c.isStarting j)
    (hk : c.stage? k = some s) (hx : x.callers = c.callers)
    (hl : ∀ j, x.lock = some j ↔ if j = k then s'.isStarting = true else c.lock = some j) (j : Nat) :
    (x.setStage k s').lock = some j ↔ (x.setStage k s').isStarting j = true := by
  have hxs : x.stage? j = c.stage? j := by simp [stage?, hx]
  show x.lock = some j ↔ _
  rw [hl j, isStarting, stage?_setStage, hxs]
  by_cases hj : j = k
  · simp [hj, hk]
  · simp [hj, Ne.symm hj, hc j, isStarting]

theorem isStarting_set {x : Caller} {s : Stage} (hk : c.callers[k]? = some x)
    (h : s.isStarting = x.stage.isStarting) (j : Nat) (killed : List TaskId) (ts : List Task) :
    ({ c with tasks := ts, callers := c.callers.set k ⟨s, killed⟩ } : Coordinator).isStarting j =
      c.isStarting j := by
  have hlt := (List.getElem?_eq_some_iff.mp hk).1
  simp only [isStarting, stage?]
  by_cases hj : k = j
  · subst hj
    rw [List.getElem?_set_self hlt, hk]
    exact h
  · rw [List.getElem?_set_ne hj]

theorem isStarting_afterKill (c : Coordinator) (p : Purpose) (h : TaskHandle) (o : Option String) :
    (c.afterKill p h o).isStarting = false := by
  unfold afterKill
  cases o with
  | none => rfl
  | some reason => dsimp only; split <;> rfl

theorem isStarting_afterClearing (p : Purpose) : (afterClearing p).isStarting = false := by
  cases p <;> rfl

theorem holder_move (holder : ∀ j, c.lock = some j ↔ c.isStarting j = true) (hm : Move b c o c')
    (j : Nat) : c'.lock = some j ↔ c'.isStarting j = true := by
  -- In each case one caller moves, and it has the lock afterwards exactly if it is starting then.
  have at' : ∀ {k : Nat} {s : Stage}, c.stage? k = some s → (c.lock = some k ↔ s.isStarting = true) :=
    fun {k s} hk => by rw [holder k, isStarting, hk]; rfl
  cases hm with
  | arrive d => rw [isStarting_call]; exact holder j
  | learn probing learnt =>
      have h := at' probing
      refine holder_setStage holder probing rfl (fun i => ?_) j
      rcases learnt with ⟨x, rfl⟩ | ⟨r, rfl⟩ <;> grind [Stage.isStarting]
  | drop hk _ _ _ | pass hk _ _ | aim hk _ _ _ | fail _ hk | wake hk _ =>
      have h := at' hk
      refine holder_setStage holder hk rfl (fun i => ?_) j
      grind [Stage.isStarting]
  | engage hk free _ _ =>
      have h := at' hk
      refine holder_setStage (x := { c with calls := _, lock := some _ }) holder hk rfl
        (fun i => ?_) j
      grind [Stage.isStarting]
  | announce hk _ =>
      have h := at' hk
      refine holder_setStage (x := { c with calls := _ }) holder hk rfl (fun i => ?_) j
      grind [Stage.isStarting]
  | brokenEngage hk free _ _ | brokenAnnounce hk _ | notify hk =>
      have h := at' hk
      refine holder_setStage (x := { c with calls := _, lock := none }) holder hk rfl
        (fun i => ?_) j
      grind [Stage.isStarting]
  | launch hk =>
      have h := at' hk
      refine holder_setStage (x := { c.register _ with lock := none }) holder hk rfl
        (fun i => ?_) j
      grind [Stage.isStarting]
  | kill signal killing =>
      rw [isStarting_set killing (isStarting_afterKill c _ _ signal)]
      exact holder j
  | clear hk free =>
      have h := at' hk
      refine holder_setStage (x := { c with state := _ }) holder hk rfl (fun i => ?_) j
      grind [Stage.isStarting, isStarting_afterClearing]
  | _ => exact holder j

theorem Orderly.locked_move (hc : c.Orderly) (hm : Move b c o c') (hl : c'.lock ≠ none) :
    c'.state = .idle := by
  cases hm with
  | engage _ _ idle _ => exact idle
  | brokenEngage _ _ _ _ | brokenAnnounce _ _ | launch _ | notify _ => exact absurd rfl hl
  | clear _ free | finish _ _ free => exact absurd free hl
  | _ => exact hc.locked hl

/-! ## The callers -/

theorem Knows.mono {h : TaskHandle} (hk : c.Knows h) (hg : c.Grows c') : c'.Knows h := by
  obtain ⟨t, ht, hh⟩ := hk
  obtain ⟨t', ht', hf⟩ := hg _ t ht
  exact ⟨t', ht', hf.handle.trans hh⟩

theorem isOver_mono {line : Nat} (ho : c.isOver line = true) (hg : c.Grows c') :
    c'.isOver line = true := by
  obtain ⟨t, ht, hto⟩ := (Option.any_eq_true _ _).mp ho
  obtain ⟨t', ht', hf⟩ := hg line t ht
  simp [isOver, ht', hf.ended hto]

theorem fits_mono {x : Caller} (hx : x.Fits c) (hg : c.Grows c') : x.Fits c' := by
  obtain ⟨stage, killed⟩ := x
  cases stage with
  | killing p h | awaiting p h => exact ⟨hx.1.mono hg, hx.2⟩
  | clearing p h => exact ⟨hx.1.mono hg, isOver_mono hx.2.1 hg, hx.2.2⟩
  | answered a =>
      cases a with
      | stopped any =>
          cases any with
          | true =>
              obtain ⟨t, ht, ho, hid⟩ := hx
              obtain ⟨i, hi⟩ := List.mem_iff_getElem?.mp ht
              obtain ⟨t', ht', hf⟩ := hg i t hi
              refine ⟨t', List.mem_of_getElem? ht', hf.ended ho, ?_⟩
              simpa [Task.id, hf.handle] using hid
          | false => trivial
      | _ => trivial
  | deciding p =>
      cases p with
      | stop => exact hx
      | invoke r => trivial
  | _ => trivial

/-- A caller goes to another stage; what all others know is as good as before. -/
theorem fits_setStage {s' : Stage} {x : Coordinator}
    (hc : ∀ (k : Nat) (y : Caller), c.callers[k]? = some y → y.Fits c) (hk : c.stage? k = some s)
    (hx : x.callers = c.callers) (hg : c.Grows x)
    (hs : ∀ killed, (⟨s, killed⟩ : Caller).Fits c → (⟨s', killed⟩ : Caller).Fits x)
    (j : Nat) (y : Caller) (hy : (x.setStage k s').callers[j]? = some y) :
    y.Fits (x.setStage k s') := by
  have hgx : x.Grows (x.setStage k s') := fun _ t ht => ⟨t, ht, .refl t⟩
  rw [setStage, List.getElem?_modify, hx] at hy
  obtain ⟨z, hz, hzy⟩ := Option.map_eq_some_iff.mp hy
  by_cases hj : k = j
  · subst hj
    obtain ⟨killed, hkilled⟩ := stage?_eq_some.mp hk
    rw [hz] at hkilled
    obtain rfl := Option.some.inj hkilled
    simp only [if_true] at hzy
    exact hzy ▸ fits_mono (hs killed (hc k _ hz)) hgx
  · simp only [hj, if_false] at hzy
    exact hzy ▸ fits_mono (hc j z hz) (hg.trans hgx)

theorem Orderly.fits_move (hc : c.Orderly) (hm : Move b c o c') (j : Nat) (y : Caller)
    (hy : c'.callers[j]? = some y) : y.Fits c' := by
  -- What is known of a task stays true as tasks grow; only the caller that moves learns more.
  have grows := hm.grows
  cases hm with
  | arrive d =>
      rcases getElem?_concat_eq_some
        (show (c.callers ++ [⟨d.stage, []⟩])[j]? = some y from hy) with hy | ⟨-, rfl⟩
      · exact fits_mono (hc.callers j y hy) grows
      · cases d <;> trivial
  | learn hk learnt =>
      refine fits_setStage hc.callers hk rfl (.refl c) ?_ j y hy
      rcases learnt with ⟨x, rfl⟩ | ⟨r, rfl⟩ <;> exact fun _ _ => trivial
  | drop hk _ _ _ | pass hk _ _ | fail _ hk =>
      refine fits_setStage hc.callers hk rfl (.refl c) ?_ j y hy
      exact fun _ _ => trivial
  | aim hk _ running _ =>
      refine fits_setStage hc.callers hk rfl (.refl c) ?_ j y hy
      intro killed hf
      obtain ⟨t, ht, hh, -⟩ := hc.running _ running
      refine ⟨⟨t, ht, hh⟩, ?_⟩
      rintro rfl
      exact hf
  | engage hk _ _ _ | brokenEngage hk _ _ _ | announce hk _ | brokenAnnounce hk _ | notify hk =>
      refine fits_setStage (x := { c with calls := _, lock := _ }) hc.callers hk rfl grows ?_ j y hy
      intro _ _
      first | trivial | (split <;> trivial)
  | launch hk =>
      refine fits_setStage (x := { c.register _ with lock := none }) hc.callers hk rfl grows ?_ j y hy
      exact fun _ _ => trivial
  | kill signal killing =>
      rename_i k p h killed
      have hy : (c.callers.set k ⟨c.afterKill p h signal, h.id :: killed⟩)[j]? = some y := hy
      by_cases hj : k = j
      · subst hj
        rw [List.getElem?_set_self (List.getElem?_eq_some_iff.mp killing).1] at hy
        obtain rfl := Option.some.inj hy
        -- The kill is recorded whether or not the signal can be delivered.
        obtain ⟨hknows, hstop⟩ := hc.callers k _ killing
        have awaiting : (⟨.awaiting p h, h.id :: killed⟩ : Caller).Fits _ :=
          ⟨hknows.mono grows, fun hp => congrArg (h.id :: ·) (hstop hp)⟩
        unfold afterKill
        split
        · exact awaiting
        · split
          · exact awaiting
          · trivial
      · rw [List.getElem?_set_ne hj] at hy
        exact fits_mono (hc.callers j y hy) grows
  | wake hk ended =>
      refine fits_setStage hc.callers hk rfl (.refl c) ?_ j y hy
      exact fun killed hf => ⟨hf.1, ended, hf.2⟩
  | clear hk free =>
      rename_i k p h
      refine fits_setStage (x := { c with state := _ }) hc.callers hk rfl grows ?_ j y hy
      intro killed hf
      cases p with
      | invoke r => trivial
      | stop =>
          obtain ⟨⟨t, ht, hh⟩, ho, hkilled⟩ := hf
          refine ⟨t, List.mem_of_getElem? ht, ?_, ?_⟩
          · simpa [isOver, ht] using ho
          · exact (hkilled rfl).trans (by rw [Task.id, hh])
  | _ => exact fits_mono (hc.callers j y hy) grows

/-! ## Runs -/

/-- Every move keeps the order. -/
theorem Orderly.move (hc : c.Orderly) (hm : Move b c o c') : c'.Orderly where
  nextId := nextId_move hc.nextId hm
  numbered := numbered_move hc.nextId hc.numbered hm
  ends := hc.ends_move hm
  running := hc.running_move hm
  holder := holder_move hc.holder hm
  locked := hc.locked_move hm
  callers := hc.fits_move hm

theorem Orderly.run (hc : c.Orderly) (as : List Action) : (Coordinator.run b c as).Orderly :=
  run_induction (fun _ _ _ hm hc => hc.move hm) hc as

theorem orderly_new (tool : Tool) : (new tool).Orderly where
  nextId := rfl
  numbered := by simp [new]
  ends := by simp [new]
  running := by simp [new]
  holder := by simp [new, isStarting, stage?]
  locked := by simp [new]
  callers := by simp [new]

/-- A coordinator is in order after every run. -/
theorem run_orderly (tool : Tool) (b : Breakdown) (as : List Action) :
    (run b (new tool) as).Orderly :=
  (orderly_new tool).run as

/-- A caller that starts a task holds the lock on an idle state. -/
theorem Orderly.idle_of_starting {r : TaskRequest} {n : Starting} (hc : c.Orderly)
    (hk : c.stage? k = some (.starting r n)) : c.lock = some k ∧ c.state = .idle := by
  have hl : c.lock = some k := (hc.holder k).mpr (by simp [isStarting, hk, Stage.isStarting])
  exact ⟨hl, hc.locked (by simp [hl])⟩

end Coordinator
end BuildRunner
