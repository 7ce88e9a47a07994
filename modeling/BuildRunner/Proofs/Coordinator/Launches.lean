import BuildRunner.Coordinator.Live
import BuildRunner.Proofs.Coordinator.Caller

set_option autoImplicit false

/-! # Purposes and launches

A caller that looks at the state has a purpose, and keeps it until its call has ended
(`step_purpose`): a request is done as it was made, through any number of preemptions. So what is
launched for a caller is the launch for its request (`isRun_of_started`).

`launches` lists all processes that a run launches, those of tasks and probes alike.
-/

namespace BuildRunner

/-- The **purpose** of a caller in a stage, from its first look at the state up to its answer. -/
def Stage.purpose? : Stage → Option Purpose
  | .deciding p | .killing p _ | .awaiting p _ | .clearing p _ => some p
  | .starting r _ => some (.invoke r)
  | .probing _ _ | .answered _ | .unsignalled _ => none

def Stage.isEnded : Stage → Bool
  | .answered _ | .unsignalled _ => true
  | _ => false

namespace Coordinator

def launched? (c : Coordinator) : Action → Option Launch
  | .proceed k o =>
    if o.launch.isSome then none
    else
      match c.stage? k with
      | some (.probing dir _) => if c.probe = .unasked then some (c.tool.probeIn dir) else none
      | some (.starting r .launching) => some (c.tool.launchFor r)
      | _ => none
  | _ => none

def launches (b : Breakdown) (c : Coordinator) : List Action → List Launch
  | [] => []
  | a :: as => (c.launched? a).toList ++ launches b (step b c a) as

variable {b : Breakdown} {c : Coordinator} {a : Action} {k : Nat} {s : Stage} {killed : List TaskId}
  {p : Purpose} {r : TaskRequest} {l : Launch}

/-! ## Purposes -/

theorem isEnded_iff : s.isEnded = true ↔ (∃ a, s = .answered a) ∨ ∃ reason, s = .unsignalled reason := by
  cases s <;> simp [Stage.isEnded]

/-- A caller of the coordinator has a stage in which it keeps to its purpose, or has ended. -/
def Keeps (c : Coordinator) (k : Nat) (p : Purpose) : Prop :=
  ∃ s, c.stage? k = some s ∧ (s.purpose? = some p ∨ s.isEnded = true)

theorem keeps_of_callers (hk : c.callers[k]? = some ⟨s, killed⟩)
    (h : s.purpose? = some p ∨ s.isEnded = true) : c.Keeps k p :=
  ⟨s, stage?_eq_some.mpr ⟨killed, hk⟩, h⟩

theorem keeps_setStage {x : Coordinator} (hx : x.callers = c.callers)
    (hk : c.callers[k]? = some ⟨s, killed⟩) {s' : Stage}
    (h : s'.purpose? = some p ∨ s'.isEnded = true) : (x.setStage k s').Keeps k p :=
  keeps_of_callers (callers_setStage (hx ▸ hk) s') h

theorem decide_keeps (hk : c.callers[k]? = some ⟨s, killed⟩) : (c.decide b k p).Keeps k p := by
  unfold decide
  cases p with
  | stop => dsimp only; split <;> exact keeps_setStage rfl hk (by simp [Stage.purpose?, Stage.isEnded])
  | invoke r =>
      dsimp only
      cases c.state.decide r.force with
      | drop => exact keeps_setStage rfl hk (.inr rfl)
      | preempt h => exact keeps_setStage rfl hk (.inl rfl)
      | start =>
          rcases callers_engage (b := b) (r := r) hk with engaged | broken
          · exact keeps_of_callers engaged (.inl rfl)
          · exact keeps_of_callers broken (.inr rfl)

/-- **A step of its own** leaves a caller its purpose, or ends its call. -/
theorem proceed_purpose (hk : c.callers[k]? = some ⟨s, killed⟩) (hp : s.purpose? = some p)
    (o : Obstacles) : (c.proceed b k o).Keeps k p := by
  have waits : (c.Keeps k p) := keeps_of_callers hk (.inl hp)
  -- Wherever the lock is wanted and held, the caller stays where it is.
  cases s with
  | deciding p' =>
      obtain rfl : p' = p := Option.some.inj hp
      by_cases free : c.lock = none
      · rw [proceed_of_deciding hk free]
        exact decide_keeps hk
      · rw [proceed_of_locked hk free (.inl ⟨_, rfl⟩)]
        exact waits
  | starting r n =>
      obtain rfl : Purpose.invoke r = p := Option.some.inj hp
      rw [proceed_of_starting hk]
      rcases callers_start (b := b) o.launch hk with ⟨n', -, going⟩ | ⟨a, -, told⟩
      · exact keeps_of_callers going (.inl rfl)
      · exact keeps_of_callers told (.inr rfl)
  | killing p' h =>
      rw [proceed_of_killing hk]
      refine keeps_of_callers (List.getElem?_set_self (List.getElem?_eq_some_iff.mp hk).1) ?_
      unfold afterKill
      repeat' split
      all_goals first | exact .inl hp | exact .inr rfl
  | awaiting p' h =>
      rw [proceed_of_awaiting hk]
      split
      · exact keeps_setStage rfl hk (.inl hp)
      · exact waits
  | clearing p' h =>
      by_cases free : c.lock = none
      · rw [proceed_of_clearing hk free]
        refine keeps_setStage (x := { c with state := _ }) rfl hk ?_
        cases p' with
        | stop => exact .inr rfl
        | invoke r => exact .inl hp
      · rw [proceed_of_locked hk free (.inr ⟨_, _, rfl⟩)]
        exact waits
  | probing dir next => cases hp
  | answered a => cases hp
  | unsignalled reason => cases hp

/-- A call that has ended stays as it is. -/
theorem step_ended (hk : c.callers[k]? = some ⟨s, killed⟩) (ended : s.isEnded = true) (a : Action) :
    (step b c a).callers[k]? = some ⟨s, killed⟩ := by
  by_cases own : a.actor? = some (.caller k)
  · obtain ⟨o, rfl⟩ := Action.eq_proceed own
    rw [step, proceed_of_ended hk (isEnded_iff.mp ended), hk]
  · exact step_caller_of_ne hk own

theorem run_ended (hk : c.callers[k]? = some ⟨s, killed⟩) (ended : s.isEnded = true)
    (as : List Action) : (run b c as).callers[k]? = some ⟨s, killed⟩ := by
  induction as generalizing c with
  | nil => exact hk
  | cons a as ih => exact ih (step_ended hk ended a)

/-- **Nobody changes the purpose of a caller.** -/
theorem step_purpose (h : c.Keeps k p) (a : Action) : (step b c a).Keeps k p := by
  obtain ⟨s, hk, kept⟩ := h
  obtain ⟨killed, there⟩ := stage?_eq_some.mp hk
  by_cases own : a.actor? = some (.caller k)
  · obtain ⟨o, rfl⟩ := Action.eq_proceed own
    rcases kept with hp | ended
    · exact proceed_purpose there hp o
    · exact keeps_of_callers (step_ended there ended _) (.inr ended)
  · exact keeps_of_callers (step_caller_of_ne there own) kept

/-! ## Launches -/

/-- **What is launched** is the process of a task, for the request of the caller that takes the step,
or a probe, for a caller that wants to know whether there is a `check`. -/
theorem launched?_cases (h : c.launched? a = some l) : ∃ k o, a = .proceed k o ∧ o.launch = none ∧
    ((∃ r, c.stage? k = some (.starting r .launching) ∧ l = c.tool.launchFor r) ∨
      ∃ dir next, c.stage? k = some (.probing dir next) ∧ c.probe = .unasked ∧
        l = c.tool.probeIn dir) := by
  cases a with
  | proceed k o =>
      simp only [launched?] at h
      split at h
      · cases h
      · rename_i free
        refine ⟨k, o, rfl, by simpa using free, ?_⟩
        split at h
        · rename_i dir next hk
          split at h
          · exact .inr ⟨dir, next, hk, ‹_›, (Option.some.inj h).symm⟩
          · cases h
        · exact .inl ⟨_, ‹_›, (Option.some.inj h).symm⟩
        · cases h
  | call d | drive line o elapsed | follow o => cases h

theorem launched?_of_launching (hk : c.stage? k = some (.starting r .launching)) {o : Obstacles}
    (free : o.launch = none) : c.launched? (.proceed k o) = some (c.tool.launchFor r) := by
  simp [launched?, hk, free]

/-- **A caller learns that its task was started** in the step that launches the process. -/
theorem Move.started {c' : Coordinator} {o : Option Occurrence} {id : TaskId} {line : Nat}
    (hm : Move b c o c') (hk : c'.stage? k = some (.answered (.started id line))) :
    c.stage? k = some (.answered (.started id line)) ∨
      ∃ r, c.stage? k = some (.starting r .launching) ∧ o = some (.launched k line) ∧
        line = c.tasks.length ∧ c'.tasks = c.tasks ++ [c.newTask r] := by
  rcases hm.passage hk with before | ⟨d, came⟩ | ⟨s, starting, passes⟩
  · exact .inl before
  · cases d <;> cases came
  · cases passes with
    | answer untold => exact absurd rfl (untold id line)
    | @launch r occurs tasks => exact .inr ⟨r, starting, occurs, rfl, tasks⟩

/-- **A process is launched for a caller** in a run, and the task with a line stands for it from then
on. -/
def IsRun (b : Breakdown) (k line : Nat) (l : Launch) (c : Coordinator) (as : List Action) : Prop :=
  Happens b (fun c a => c.launched? a = some l ∧ c.occurrence? a = some (.launched k line)) c as ∧
    ∃ t, (run b c as).tasks[line]? = some t ∧ t.handle.commandLine = l.commandLine

theorem IsRun.cons {line : Nat} {as : List Action} (h : IsRun b k line l (step b c a) as) :
    IsRun b k line l c (a :: as) := ⟨.inr h.1, h.2⟩

/-- **What is started for a caller is what it has requested.** -/
theorem isRun_of_started {id : TaskId} {line : Nat} {as : List Action} (keeps : c.Keeps k (.invoke r))
    (open' : c.stage? k ≠ some (.answered (.started id line)))
    (told : (run b c as).stage? k = some (.answered (.started id line))) :
    IsRun b k line (c.tool.launchFor r) c as := by
  induction as generalizing c with
  | nil => exact absurd told open'
  | cons a as ih =>
      by_cases now : (step b c a).stage? k = some (.answered (.started id line))
      · rcases (step_move b c a).started now with before | ⟨r', starting, occurs, rfl, tasks⟩
        · exact absurd before open'
        · obtain ⟨s, hk, kept⟩ := keeps
          obtain rfl := Option.some.inj (starting.symm.trans hk)
          obtain rfl : r' = r := by simpa [Stage.purpose?, Stage.isEnded] using kept
          obtain ⟨t, ht, follows⟩ := run_grows b (step b c a) as c.tasks.length (c.newTask r')
            (by rw [tasks]; simp)
          refine ⟨.inl ⟨?_, occurs⟩, t, ht, by rw [follows.handle]; rfl⟩
          obtain ⟨x, rfl⟩ := Action.eq_proceed (occurrence_launched occurs)
          exact launched?_of_launching starting (by simpa [occurrence?, starting] using occurs)
      · rw [← (step_move b c a).tool]
        exact (ih (step_purpose keeps a) now told).cons

/-- On a host, the launch that a caller needs next is the one that its step makes unless something
stands in its way. -/
theorem nextLaunch?_eq (l : Live) (k : Nat) :
    l.nextLaunch? k = l.coordinator.launched? (.proceed k {}) := by
  simp only [Live.nextLaunch?, launched?, Option.isSome_none, Bool.false_eq_true, if_false]
  cases l.coordinator.stage? k with
  | none => rfl
  | some s =>
      cases s with
      | probing dir next => cases hp : l.coordinator.probe <;> simp
      | starting r n => cases n <;> rfl
      | _ => rfl

end Coordinator
end BuildRunner
