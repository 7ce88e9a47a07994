import BuildRunner.Proofs.Coordinator.Order

set_option autoImplicit false

/-! # Who takes a step

Every step but the coming of a caller is taken by one actor: a caller, a driver or the probe. What
belongs to others stays as it is. A driver leaves the callers and all other tasks alone; a caller
leaves the drivers alone, and changes a task only if it kills it.

What *happens* in a run is said of a coordinator and the action that is taken there. How a caller *passes*
from one stage to the next is listed once (`Passage`, `Move.passage`).
-/

namespace BuildRunner.Coordinator

/-- **Whoever takes steps.** -/
inductive Actor where
  | caller (k : Nat)
  | driver (line : Nat)
  | probe
deriving DecidableEq

/-- Who takes a step in an action; a caller that comes takes none yet. -/
def Action.actor? : Action → Option Actor
  | .call _ => none
  | .proceed k _ => some (.caller k)
  | .drive line _ _ => some (.driver line)
  | .follow _ => some .probe

theorem Action.eq_proceed {a : Action} {k : Nat} (h : a.actor? = some (.caller k)) :
    ∃ x, a = .proceed k x := by
  cases a <;> cases h
  exact ⟨_, rfl⟩

theorem Action.eq_drive {a : Action} {line : Nat} (h : a.actor? = some (.driver line)) :
    ∃ x elapsed, a = .drive line x elapsed := by
  cases a <;> cases h
  exact ⟨_, _, rfl⟩

variable {b : Breakdown} {c c' x : Coordinator} {a : Action} {o : Option Occurrence}
  {i j k line : Nat} {s : Stage} {t t' : Task} {p : Purpose} {h : TaskHandle}

/-! ## What happens in a run -/

/-- **Something happens in a run**: it holds where some action is taken. -/
def Happens (b : Breakdown) (P : Coordinator → Action → Prop) (c : Coordinator) :
    List Action → Prop
  | [] => False
  | a :: as => P c a ∨ Happens b P (step b c a) as

instance decidableHappens (b : Breakdown) (P : Coordinator → Action → Prop)
    [∀ c a, Decidable (P c a)] (c : Coordinator) : (as : List Action) → Decidable (Happens b P c as)
  | [] => .isFalse id
  | a :: as =>
    have := decidableHappens b P (step b c a) as
    inferInstanceAs (Decidable (_ ∨ _))

/-- The line to the task that a caller in a stage kills next. -/
def target? : Stage → Option Nat
  | .killing _ h => some h.line
  | _ => none

def Kills (i : Nat) (c : Coordinator) (a : Action) : Prop :=
  match a with
  | .proceed k _ => (c.stage? k).bind target? = some i
  | _ => False

instance (i : Nat) (c : Coordinator) (a : Action) : Decidable (Kills i c a) :=
  match a with
  | .proceed _ _ => inferInstanceAs (Decidable (_ = _))
  | .call _ | .drive _ _ _ | .follow _ => .isFalse id

/-! ## Calls of sinks -/

def call? (b : Breakdown) (c : Coordinator) (a : Action) : Option SinkCall :=
  if c.calls.length < (step b c a).calls.length then (step b c a).calls.head? else none

theorem Move.calls (hm : Move b c o c') : ∃ call : Option SinkCall, c'.calls = call.toList ++ c.calls := by
  cases hm with
  | engage _ _ _ _ | brokenEngage _ _ _ _ | announce _ _ | brokenAnnounce _ _ | notify _ =>
      exact ⟨some _, rfl⟩
  | work _ _ | finish _ _ _ | signal _ _ | release _ _ => exact ⟨_, rfl⟩
  | _ => exact ⟨none, rfl⟩

theorem call?_eq {call : Option SinkCall} (h : (step b c a).calls = call.toList ++ c.calls) :
    c.call? b a = call := by
  cases call <;> simp [call?, h]

/-- **A step makes at most one call.** -/
theorem step_calls (b : Breakdown) (c : Coordinator) (a : Action) :
    (step b c a).calls = (c.call? b a).toList ++ c.calls := by
  obtain ⟨call, h⟩ := (step_move b c a).calls
  rw [call?_eq h, h]

def Breaks (b : Breakdown) (c : Coordinator) (a : Action) : Prop :=
  (c.call? b a).any (b c.calls) = true

instance (b : Breakdown) (c : Coordinator) (a : Action) : Decidable (Breaks b c a) :=
  inferInstanceAs (Decidable (_ = true))

/-- A sink breaks down in a call that the driver of a task makes. -/
def BreaksFor (b : Breakdown) (i : Nat) (c : Coordinator) (a : Action) : Prop :=
  a.actor? = some (.driver i) ∧ Breaks b c a

instance (b : Breakdown) (i : Nat) (c : Coordinator) (a : Action) : Decidable (BreaksFor b i c a) :=
  inferInstanceAs (Decidable (_ ∧ _))

/-- Only a caller launches a process, and for itself. -/
theorem occurrence_launched (ho : c.occurrence? a = some (.launched j line)) :
    a.actor? = some (.caller j) := by
  cases a with
  | call d | follow o => cases ho
  | drive i o elapsed =>
      obtain ⟨t, -, ht⟩ := Option.bind_eq_some_iff.mp ho
      unfold Task.occurrence? at ht
      split at ht
      · obtain ⟨_, -, hl⟩ := Option.map_eq_some_iff.mp ht
        cases hl
      · cases ht
      · cases ht
  | proceed j' o =>
      dsimp only [occurrence?] at ho
      repeat' split at ho
      all_goals cases ho
      rfl

/-! ## What a driver leaves alone -/

theorem Stride.callers (hs : Stride b c line t o c') : c'.callers = c.callers := by
  cases hs <;> rfl

theorem Stride.task_of_ne (hs : Stride b c line t o c') (hi : i ≠ line) :
    c'.tasks[i]? = c.tasks[i]? := by
  cases hs with
  | rest => rfl
  | _ => exact List.getElem?_set_ne hi.symm

theorem drive_of_none (ht : c.tasks[line]? = none) (x : Offer) (elapsed : Elapsed) :
    c.drive b line x elapsed = c := by
  simp [drive, ht]

theorem drive_callers (x : Offer) (elapsed : Elapsed) :
    (c.drive b line x elapsed).callers = c.callers := by
  cases ht : c.tasks[line]? with
  | none => rw [drive_of_none ht]
  | some t => exact (drive_stride ht x elapsed).callers

theorem drive_task_of_ne (hi : i ≠ line) (x : Offer) (elapsed : Elapsed) :
    (c.drive b line x elapsed).tasks[i]? = c.tasks[i]? := by
  cases ht : c.tasks[line]? with
  | none => rw [drive_of_none ht]
  | some t => exact (drive_stride ht x elapsed).task_of_ne hi

/-! ## What a caller leaves alone -/

/-- The tasks that are there **are left alone**. -/
def Spares (c c' : Coordinator) : Prop := c.tasks <+: c'.tasks

/-- A step of a caller **keeps to that caller**: the tasks that are there and all other callers are
left alone. -/
structure KeepsTo (k : Nat) (c c' : Coordinator) : Prop where
  tasks : c.Spares c'
  others : ∀ j, j ≠ k → c'.callers[j]? = c.callers[j]?

theorem keepsTo_of_eq (tasks : c.Spares x) (callers : x.callers = c.callers) : KeepsTo k c x :=
  ⟨tasks, fun _ _ => by rw [callers]⟩

theorem keepsTo_setStage (tasks : c.Spares x) (callers : x.callers = c.callers) :
    KeepsTo k c (x.setStage k s) :=
  ⟨tasks, fun j hj => by simp [setStage, callers, Ne.symm hj]⟩

theorem ask_keepsTo (dir : String) (next : AfterProbe) (failure : Option LaunchError) :
    KeepsTo k c (c.ask k dir next failure) := by
  unfold ask
  cases c.probe with
  | unasked => cases failure <;> exact keepsTo_of_eq (List.prefix_refl _) rfl
  | running run => exact keepsTo_of_eq (List.prefix_refl _) rfl
  | settled s => cases next <;> exact keepsTo_setStage (List.prefix_refl _) rfl

theorem decide_keepsTo (p : Purpose) : KeepsTo k c (c.decide b k p) := by
  unfold decide
  cases p with
  | stop => dsimp only; split <;> exact keepsTo_setStage (List.prefix_refl _) rfl
  | invoke r =>
      dsimp only
      cases c.state.decide r.force with
      | drop | preempt h => exact keepsTo_setStage (List.prefix_refl _) rfl
      | start =>
          cases hb : b c.calls .clear <;> simp only [engage, emit, hb, unlock] <;>
            exact keepsTo_setStage (List.prefix_refl _) rfl

theorem start_keepsTo (r : TaskRequest) (failure : Option LaunchError) (n : Starting) :
    KeepsTo k c (c.start b k r failure n) := by
  cases n with
  | announcing =>
      cases hb : b c.calls (.text (c.tool.announcement r)) <;> simp only [start, emit, hb, unlock] <;>
        exact keepsTo_setStage (List.prefix_refl _) rfl
  | launching =>
      cases failure with
      | none =>
          exact keepsTo_setStage (x := { c.register r with lock := _ }) (List.prefix_append _ _) rfl
      | some e => exact keepsTo_setStage (List.prefix_refl _) rfl
  | notifying e =>
      cases hb : b c.calls (.notify (.toolNotAvailable c.tool.program)) <;>
        simp only [start, emit, hb, unlock] <;> exact keepsTo_setStage (List.prefix_refl _) rfl

theorem proceed_of_killing {killed : List TaskId} (hk : c.callers[k]? = some ⟨.killing p h, killed⟩)
    (x : Obstacles) : c.proceed b k x =
      { c with
        tasks := c.tasks.modify h.line Task.kill
        callers := c.callers.set k ⟨c.afterKill p h x.signal, h.id :: killed⟩ } := by
  simp [proceed, hk, onTask, afterKill]

/-- A caller that does not kill keeps to itself. -/
theorem proceed_keepsTo (hk : ∀ p h, c.stage? k ≠ some (.killing p h)) (x : Obstacles) :
    KeepsTo k c (c.proceed b k x) := by
  unfold proceed
  cases hc : c.callers[k]? with
  | none => exact keepsTo_of_eq (List.prefix_refl _) rfl
  | some y =>
      obtain ⟨stage, killed⟩ := y
      have hs : c.stage? k = some stage := stage?_eq_some.mpr ⟨killed, hc⟩
      cases stage with
      | probing dir next => exact ask_keepsTo dir next _
      | deciding p =>
          dsimp only
          split
          · exact keepsTo_of_eq (List.prefix_refl _) rfl
          · exact decide_keepsTo p
      | starting r n => exact start_keepsTo r _ n
      | killing p h => exact absurd hs (hk p h)
      | awaiting p h =>
          dsimp only
          split
          · exact keepsTo_setStage (List.prefix_refl _) rfl
          · exact keepsTo_of_eq (List.prefix_refl _) rfl
      | clearing p h =>
          dsimp only
          split
          · exact keepsTo_of_eq (List.prefix_refl _) rfl
          · exact keepsTo_setStage (x := { c with state := _ }) (List.prefix_refl _) rfl
      | answered a => exact keepsTo_of_eq (List.prefix_refl _) rfl
      | unsignalled reason => exact keepsTo_of_eq (List.prefix_refl _) rfl

/-! ## What anybody leaves alone -/

/-- **A task changes only by its driver, or by being killed.** -/
theorem step_task (ht : c.tasks[i]? = some t) (a : Action) :
    (∃ x elapsed, a = .drive i x elapsed) ∨
    a.actor? ≠ some (.driver i) ∧
      ((step b c a).tasks[i]? = some t ∨ (step b c a).tasks[i]? = some t.kill ∧ Kills i c a) := by
  cases a with
  | call d => exact .inr ⟨nofun, .inl ht⟩
  | follow x => exact .inr ⟨nofun, .inl ((congrArg (·.tasks[i]?) (follow_eq c x)).trans ht)⟩
  | drive line x elapsed =>
      by_cases hi : line = i
      · exact .inl ⟨x, elapsed, by rw [hi]⟩
      · refine .inr ⟨fun own => hi ?_, .inl ((drive_task_of_ne (Ne.symm hi) x elapsed).trans ht)⟩
        exact Actor.driver.inj (Option.some.inj own)
  | proceed k x =>
      refine .inr ⟨nofun, ?_⟩
      by_cases hk : ∃ p h, c.stage? k = some (.killing p h)
      · obtain ⟨p, h, hk⟩ := hk
        obtain ⟨killed, hkilled⟩ := stage?_eq_some.mp hk
        rw [step, proceed_of_killing hkilled, List.getElem?_modify, ht]
        by_cases hi : h.line = i
        · exact .inr ⟨by simp [hi], by simp [Kills, hk, target?, hi]⟩
        · exact .inl (by simp [hi])
      · obtain ⟨ts, hts⟩ := (proceed_keepsTo (b := b) (fun p h hs => hk ⟨p, h, hs⟩) x).tasks
        have hlt := (List.getElem?_eq_some_iff.mp ht).1
        rw [step, ← hts, List.getElem?_append_left hlt]
        exact .inl ht

/-- Unless a caller comes, **the record of a caller changes only by its own steps**. -/
theorem step_callers_of_ne (ha : a.actor? ≠ some (.caller k)) (nobody : ∀ d, a ≠ .call d) :
    (step b c a).callers[k]? = c.callers[k]? := by
  cases a with
  | call d => exact absurd rfl (nobody d)
  | drive line x elapsed => rw [step, drive_callers]
  | follow x => exact congrArg (·.callers[k]?) (follow_eq c x)
  | proceed j x =>
      have other : k ≠ j := fun own => ha (by rw [own]; rfl)
      by_cases kills : ∃ p h, c.stage? j = some (.killing p h)
      · obtain ⟨p, h, stage⟩ := kills
        obtain ⟨killed, there⟩ := stage?_eq_some.mp stage
        rw [step, proceed_of_killing there, List.getElem?_set_ne other.symm]
      · exact (proceed_keepsTo (fun p h hs => kills ⟨p, h, hs⟩) x).others k other

/-- **A caller changes only by its own steps.** -/
theorem step_caller_of_ne {y : Caller} (hk : c.callers[k]? = some y)
    (ha : a.actor? ≠ some (.caller k)) : (step b c a).callers[k]? = some y := by
  by_cases comes : ∃ d, a = .call d
  · obtain ⟨d, rfl⟩ := comes
    exact (List.getElem?_append_left (List.getElem?_eq_some_iff.mp hk).1).trans hk
  · exact (step_callers_of_ne ha (not_exists.mp comes)).trans hk

/-- A caller that is not there yet takes no step. -/
theorem step_stage?_none (hk : c.stage? k = none) (nobody : ∀ d, a ≠ .call d) :
    (step b c a).stage? k = none := by
  have absent : c.callers[k]? = none := by simpa [stage?] using hk
  by_cases own : a.actor? = some (.caller k)
  · obtain ⟨x, rfl⟩ := Action.eq_proceed own
    simp [step, proceed, absent, hk]
  · rw [stage?, step_callers_of_ne own nobody, absent]
    rfl

/-- No step takes a caller away. -/
theorem Move.callers_length_le (hm : Move b c o c') : c.callers.length ≤ c'.callers.length := by
  cases hm <;> simp [call, setStage, put, unlock, register]

theorem step_stage?_some (hk : c.stage? k = some s) (b : Breakdown) (a : Action) :
    ∃ s', (step b c a).stage? k = some s' := by
  obtain ⟨killed, record⟩ := stage?_eq_some.mp hk
  have there := (List.getElem?_eq_some_iff.mp record).1
  have still := Nat.lt_of_lt_of_le there (step_move b c a).callers_length_le
  exact ⟨_, stage?_eq_some.mpr ⟨_, List.getElem?_eq_getElem still⟩⟩

/-! ## How a caller goes on -/

/-- **The passage of a caller** from one stage to another in a step, by the stage to which it leads. -/
inductive Passage (c : Coordinator) (o : Option Occurrence) (c' : Coordinator) (k : Nat) :
    Stage → Stage → Prop
  | answer {s : Stage} {x : Answer} (untold : ∀ id line, x ≠ .started id line) :
      Passage c o c' k s (.answered x)
  | decide {s : Stage} {p : Purpose} : Passage c o c' k s (.deciding p)
  | start {s : Stage} {r : TaskRequest} {n : Starting} : Passage c o c' k s (.starting r n)
  | launch {r : TaskRequest} (occurs : o = some (.launched k c.tasks.length))
      (tasks : c'.tasks = c.tasks ++ [c.newTask r]) :
      Passage c o c' k (.starting r .launching) (.answered (.started c.nextId c.tasks.length))
  | aim {p : Purpose} {h : TaskHandle} (running : c.state = .running h)
      (forced : ∀ r, p = .invoke r → r.force = true) (aims : c' = c.setStage k (.killing p h)) :
      Passage c o c' k (.deciding p) (.killing p h)
  | kill {p : Purpose} {h : TaskHandle} : Passage c o c' k (.killing p h) (.awaiting p h)
  | giveUp {p : Purpose} {h : TaskHandle} {reason : String} :
      Passage c o c' k (.killing p h) (.unsignalled reason)
  | wake {p : Purpose} {h : TaskHandle} : Passage c o c' k (.awaiting p h) (.clearing p h)

theorem passage_afterKill (signal : Option String) :
    Passage c o c' k (.killing p h) (c.afterKill p h signal) := by
  unfold afterKill
  split
  · exact .kill
  · split
    · exact .kill
    · exact .giveUp

theorem passage_afterClearing (s : Stage) (p : Purpose) : Passage c o c' k s (afterClearing p) := by
  cases p with
  | invoke r => exact .decide
  | stop => exact .answer nofun

/-- A caller that is in a stage after a step was in it before, has just come, or **has passed** to it. -/
theorem Move.passage (hm : Move b c o c') {s : Stage} (hk : c'.stage? k = some s) :
    c.stage? k = some s ∨ (∃ d : Demand, s = d.stage) ∨
      ∃ s₀, c.stage? k = some s₀ ∧ Passage c o c' k s₀ s := by
  -- Nearly every step puts one caller in a stage.
  have put {x : Coordinator} {j : Nat} {s₀ s₁ : Stage} (callers : x.callers = c.callers)
      (before : c.stage? j = some s₀) (hk : (x.setStage j s₁).stage? k = some s)
      (passes : k = j → Passage c o c' k s₀ s₁) : c.stage? k = some s ∨ (∃ d : Demand, s = d.stage) ∨
        ∃ s₀, c.stage? k = some s₀ ∧ Passage c o c' k s₀ s := by
    rw [stage?_setStage] at hk
    split at hk
    · rename_i own
      obtain ⟨-, -, rfl⟩ := Option.map_eq_some_iff.mp hk
      exact .inr (.inr ⟨s₀, own ▸ before, passes own.symm⟩)
    · rw [stage?, callers] at hk
      exact .inl hk
  cases hm with
  | rest | probe _ _ | work _ _ | finish _ _ _ | signal _ _ | release _ _ => exact .inl hk
  | arrive d =>
      obtain ⟨killed, there⟩ := stage?_eq_some.mp hk
      rcases getElem?_concat_eq_some
        (show (c.callers ++ [⟨d.stage, []⟩])[k]? = some _ from there) with there | ⟨-, new⟩
      · exact .inl (stage?_eq_some.mpr ⟨killed, there⟩)
      · exact .inr (.inl ⟨d, congrArg Caller.stage new⟩)
  | learn probing learnt =>
      refine put rfl probing hk fun _ => ?_
      rcases learnt with ⟨x, rfl⟩ | ⟨r, rfl⟩
      · exact .answer (by simp)
      · exact .decide
  | drop deciding _ _ _ | pass deciding _ _ =>
      exact put rfl deciding hk fun _ => .answer (by simp)
  | aim deciding _ running forced =>
      refine put rfl deciding hk ?_
      rintro rfl
      exact .aim running forced rfl
  | engage deciding _ _ _ => exact put rfl deciding hk fun _ => .start
  | brokenEngage deciding _ _ _ => exact put rfl deciding hk fun _ => .answer (by simp)
  | announce starting _ => exact put rfl starting hk fun _ => .start
  | brokenAnnounce starting _ => exact put rfl starting hk fun _ => .answer (by simp)
  | launch starting =>
      refine put rfl starting hk ?_
      rintro rfl
      exact .launch rfl rfl
  | fail e starting => exact put rfl starting hk fun _ => .start
  | notify starting =>
      refine put rfl starting hk fun _ => .answer ?_
      split <;> simp
  | wake awaiting _ =>
      refine put rfl awaiting hk ?_
      rintro rfl
      exact .wake
  | clear clearing _ => exact put rfl clearing hk fun _ => passage_afterClearing _ _
  | @kill j p h killed signal killing =>
      by_cases own : j = k
      · subst own
        obtain ⟨killed', set⟩ := stage?_eq_some.mp hk
        rw [List.getElem?_set_self (List.getElem?_eq_some_iff.mp killing).1] at set
        obtain rfl : c.afterKill p h signal = s := congrArg Caller.stage (Option.some.inj set)
        exact .inr (.inr ⟨_, stage?_eq_some.mpr ⟨killed, killing⟩, passage_afterKill signal⟩)
      · left
        simpa [stage?, List.getElem?_set_ne own] using hk

/-- A caller **comes to kill** a task only because the state names that task when it looks. -/
theorem Move.aims (hm : Move b c o c') (hk : c'.stage? k = some (.killing p h)) :
    c.stage? k = some (.killing p h) ∨
      c.stage? k = some (.deciding p) ∧ c.state = .running h ∧
        (∀ r, p = .invoke r → r.force = true) ∧ c' = c.setStage k (.killing p h) := by
  rcases hm.passage hk with before | ⟨d, came⟩ | ⟨s, deciding, passes⟩
  · exact .inl before
  · cases d <;> cases came
  · cases passes with
    | aim running forced aims => exact .inr ⟨deciding, running, forced, aims⟩

end BuildRunner.Coordinator
