import BuildRunner.Proofs.Coordinator.Caller

set_option autoImplicit false

/-! # Where drivers may be lost

A driver may go without leaving the state, and then nobody takes its task out of the state but a
caller that has waited for it. An `Event` is an action or such a loss. `Orderly` does not survive a
loss, since the state goes on naming a task that nobody works at; `Settled` is what does: how tasks
are numbered, that the state names the newest task only, who holds the lock, and that whoever waits
for a task whose driver is gone learns of it.
-/

namespace BuildRunner

open Coordinator (Move Actor)

/-- Whether a driver **is gone**, be it that it has done its work or that it was lost. -/
def Driver.isGone : Driver → Bool
  | .done _ | .vanished => true
  | _ => false

namespace Coordinator

/-- **What can happen** where drivers may be lost. -/
inductive Event where
  | act (a : Action)
  /-- The driver of a task goes without leaving the state. -/
  | lose (line : Nat)
deriving Repr

def Event.apply (b : Breakdown) (c : Coordinator) : Event → Coordinator
  | .act a => step b c a
  | .lose line => c.vanish line

/-- Who takes a step in an event; a loss is nobody's step. -/
def Event.actor? : Event → Option Actor
  | .act a => a.actor?
  | .lose _ => none

def play (b : Breakdown) (c : Coordinator) (es : List Event) : Coordinator :=
  es.foldl (Event.apply b) c

/-- **How many events of a play** are of a kind, which is told where they come about. -/
def tally (b : Breakdown) (P : Coordinator → Event → Bool) (c : Coordinator) : List Event → Nat
  | [] => 0
  | e :: es => (P c e).toNat + tally b P (e.apply b c) es

variable {b : Breakdown} {c c' : Coordinator} {o : Option Occurrence} {e : Event} {i j k : Nat}
  {t t' : Task} {h : TaskHandle}

/-- A caller changes only by its own steps, also where drivers are lost. -/
theorem apply_caller_of_ne {y : Caller} (hk : c.callers[k]? = some y)
    (he : e.actor? ≠ some (.caller k)) : (e.apply b c).callers[k]? = some y := by
  cases e with
  | act a => exact step_caller_of_ne hk he
  | lose line => exact hk

/-! ## Losses -/

def lost (t : Task) : Task :=
  match t.driver with
  | .done _ => t
  | _ => { t with line := t.line.release, driver := .vanished }

theorem vanish_eq (c : Coordinator) (line : Nat) : c.vanish line = c.onTask line lost := rfl

theorem lost_follows (t : Task) : t.Follows (lost t) := by
  unfold lost
  split
  · exact .refl t
  · exact ⟨rfl, by simp [Driver.isAtWork], fun _ => Task.isOver_release t.line⟩

theorem lost_killed (t : Task) : (lost t).line.killed = t.line.killed := by
  unfold lost
  split <;> rfl

theorem vanish_task (h : (c.vanish i).tasks[j]? = some t') :
    ∃ t, c.tasks[j]? = some t ∧ (t' = t ∨ t' = lost t) := by
  rw [vanish_eq, onTask, List.getElem?_modify] at h
  obtain ⟨t, ht, rfl⟩ := Option.map_eq_some_iff.mp h
  refine ⟨t, ht, ?_⟩
  split
  · exact .inr rfl
  · exact .inl rfl

theorem vanish_grows (c : Coordinator) (line : Nat) : c.Grows (c.vanish line) := by
  intro i t ht
  rw [vanish_eq, onTask]
  dsimp only
  rw [List.getElem?_modify, ht]
  refine ⟨_, rfl, ?_⟩
  split
  · exact lost_follows t
  · exact .refl t

theorem apply_grows (b : Breakdown) (c : Coordinator) (e : Event) : c.Grows (e.apply b c) := by
  cases e with
  | act a => exact (step_move b c a).grows
  | lose line => exact vanish_grows c line

theorem play_grows (b : Breakdown) (c : Coordinator) (es : List Event) : c.Grows (play b c es) := by
  induction es generalizing c with
  | nil => exact .refl c
  | cons e es ih => exact (apply_grows b c e).trans (ih _)

/-- A task that was killed stays killed, also if its driver is lost. -/
theorem apply_wasKilled (e : Event) (hk : c.wasKilled i = true) :
    (e.apply b c).wasKilled i = true := by
  obtain ⟨t, ht, killed⟩ := (Option.any_eq_true _ _).mp hk
  obtain ⟨t', ht', -⟩ := apply_grows b c e i t ht
  rw [wasKilled, ht', Option.any_some]
  cases e with
  | act a =>
      rcases (step_move b c a).task ht' with ⟨x, hx, rest⟩ | ⟨hi, -⟩
      · obtain rfl := Option.some.inj (ht.symm.trans hx)
        rcases rest with rfl | change
        · exact killed
        · exact change.killed killed
      · have hlt := (List.getElem?_eq_some_iff.mp ht).1
        omega
  | lose line =>
      obtain ⟨x, hx, rest⟩ := vanish_task ht'
      obtain rfl := Option.some.inj (ht.symm.trans hx)
      rcases rest with rfl | rfl
      · exact killed
      · exact (lost_killed t).trans killed

/-! ## What survives a loss -/

/-- A move **launches one task**, which the state then names, or none, and then the state comes to
name no task. -/
theorem Move.launches (hm : Move b c o c') :
    ((∀ j line, o ≠ some (.launched j line)) ∧ c'.tasks.length = c.tasks.length ∧
      ∀ h, c'.state = .running h → c.state = .running h) ∨
    ∃ j r, o = some (.launched j c.tasks.length) ∧ c'.tasks = c.tasks ++ [c.newTask r] ∧
      c'.state = .running (c.newTask r).handle := by
  cases hm with
  | @launch j r _ => exact .inr ⟨j, r, rfl, rfl, rfl⟩
  | clear _ _ => exact .inl ⟨by simp, rfl, fun _ hs => (TaskState.finish_eq_running.mp hs).1⟩
  | finish _ _ _ =>
      exact .inl ⟨by simp, by simp [put], fun _ hs => (TaskState.finish_eq_running.mp hs).1⟩
  | work _ work => exact .inl ⟨fun _ _ => by cases work <;> simp, by simp [put], fun _ hs => hs⟩
  | kill _ _ => exact .inl ⟨by simp, by simp, fun _ hs => hs⟩
  | signal _ _ | release _ _ => exact .inl ⟨by simp, by simp [put], fun _ hs => hs⟩
  | _ => exact .inl ⟨by simp, rfl, fun _ hs => hs⟩

/-- **What holds of a coordinator at any time**, although drivers may have been lost. -/
structure Settled (c : Coordinator) : Prop where
  nextId : c.nextId = .ofNat (c.tasks.length + 1)
  numbered : ∀ (i : Nat) (t : Task), c.tasks[i]? = some t →
    t.handle.line = i ∧ t.id = .ofNat (i + 1)
  newest : ∀ h, c.state = .running h → c.Knows h ∧ h.line + 1 = c.tasks.length
  holder : ∀ k, c.lock = some k ↔ c.isStarting k = true
  gone : ∀ (i : Nat) (t : Task), c.tasks[i]? = some t → t.driver.isGone = true →
    t.line.isOver = true

theorem Settled.newest_move (hc : c.Settled) (hm : Move b c o c') (h : TaskHandle)
    (hs : c'.state = .running h) : c'.Knows h ∧ h.line + 1 = c'.tasks.length := by
  rcases hm.launches with ⟨-, same, named⟩ | ⟨j, r, -, added, running⟩
  · obtain ⟨knows, newest⟩ := hc.newest h (named h hs)
    exact ⟨knows.mono hm.grows, same ▸ newest⟩
  · obtain rfl : (c.newTask r).handle = h := TaskState.running.inj (running.symm.trans hs)
    exact ⟨⟨c.newTask r, by simp [added, newTask], rfl⟩, by simp [added, newTask]⟩

/-- A driver is gone only after its end of the line was given up. -/
theorem gone_change (change : t.Change b t') (ht : t.driver.isGone = true → t.line.isOver = true) :
    t'.driver.isGone = true → t'.line.isOver = true := by
  intro gone
  cases change with
  | kill => simpa using ht (by simpa using gone)
  | work work =>
      have atWork := work.isAtWork.2
      cases hd : t'.driver <;> simp [hd, Driver.isGone, Driver.isAtWork] at gone atWork
  | leave _ | signal _ => cases gone
  | release _ => exact Task.isOver_release _

theorem Settled.move (hc : c.Settled) (hm : Move b c o c') : c'.Settled where
  nextId := nextId_move hc.nextId hm
  numbered := numbered_move hc.nextId hc.numbered hm
  newest := hc.newest_move hm
  holder := holder_move hc.holder hm
  gone := by
    intro i t' ht'
    rcases hm.task ht' with ⟨t, ht, rfl | change⟩ | ⟨-, k, r, -, rfl, -⟩
    · exact hc.gone i t' ht
    · exact gone_change change (hc.gone i t ht)
    · nofun

theorem Settled.vanish (hc : c.Settled) (line : Nat) : (c.vanish line).Settled where
  nextId := by simpa [vanish_eq, onTask] using hc.nextId
  numbered := by
    intro i t' ht'
    obtain ⟨t, ht, rfl | rfl⟩ := vanish_task ht'
    · exact hc.numbered i t' ht
    · simpa [Task.id, (lost_follows t).handle] using hc.numbered i t ht
  newest := by
    intro h hs
    obtain ⟨knows, newest⟩ := hc.newest h hs
    exact ⟨knows.mono (vanish_grows c line), by simpa [vanish_eq, onTask] using newest⟩
  holder := hc.holder
  gone := by
    intro i t' ht' gone
    obtain ⟨t, ht, rfl | rfl⟩ := vanish_task ht'
    · exact hc.gone i t' ht gone
    · unfold lost at gone ⊢
      split
      · exact hc.gone i t ht (by simp_all [Driver.isGone])
      · exact Task.isOver_release _

theorem Settled.apply (hc : c.Settled) (e : Event) : (e.apply b c).Settled := by
  cases e with
  | act a => exact hc.move (step_move b c a)
  | lose line => exact hc.vanish line

theorem settled_new (tool : Tool) : (new tool).Settled where
  nextId := rfl
  numbered := by simp [new]
  newest := by simp [new]
  holder := by simp [new, isStarting, stage?]
  gone := by simp [new]

theorem Settled.play (hc : c.Settled) (es : List Event) : (play b c es).Settled := by
  induction es generalizing c with
  | nil => exact hc
  | cons e es ih => exact ih (hc.apply e)

/-- The task of a handle that the coordinator knows has the number of its line, as long as numbers
tell tasks apart. -/
theorem Settled.toNat_id (hc : c.Settled) (few : c.tasks.length < UInt64.size) (hk : c.Knows h) :
    h.id.toNat = h.line + 1 ∧ h.line < c.tasks.length := by
  obtain ⟨t, ht, rfl⟩ := hk
  have hlt := (List.getElem?_eq_some_iff.mp ht).1
  obtain ⟨hline, hid⟩ := hc.numbered _ t ht
  refine ⟨?_, hlt⟩
  rw [show t.handle.id = t.id from rfl, hid]
  exact UInt64.toNat_ofNat_of_lt' (show t.handle.line + 1 < UInt64.size by omega)

end Coordinator
end BuildRunner
