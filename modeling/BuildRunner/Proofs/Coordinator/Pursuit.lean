import BuildRunner.Proofs.Coordinator.Loss
import BuildRunner.Proofs.Coordinator.SingleFlight

set_option autoImplicit false

/-! # A forced request gets through

A forced request preempts whatever runs, and looks again when that has ended. Between two looks
others may start tasks, so nothing in the loop itself says that it ends. It does because numbers
grow: the state names the newest task only, and a task that was waited for is not in the state
when the request looks again. So every task it preempts is newer than those before, and there are
no more of them than were started meanwhile, and the one that ran at the beginning.

Drivers may be lost at any time. The task of such a driver stays in the state until the request has
waited for it.
-/

namespace BuildRunner.Coordinator

variable {b : Breakdown} {c c' : Coordinator} {e : Event} {es es' : List Event} {k n m turns : Nat}
  {r : TaskRequest} {h : TaskHandle} {id : TaskId} {killed : List TaskId} {x x' : Caller}

/-! ## What is counted -/

/-- A caller **takes a turn**: it looks at the state to have its request done. -/
def takesTurn (k : Nat) (c : Coordinator) : Event → Bool
  | .act (.proceed j _) =>
    j == k && !c.isLocked && match c.stage? k with
      | some (.deciding (.invoke _)) => true
      | _ => false
  | _ => false

/-- A process is launched for **another caller**. -/
def startsForOther (k : Nat) (c : Coordinator) : Event → Bool
  | .act a =>
    match c.occurrence? a with
    | some (.launched j _) => j != k
    | _ => false
  | .lose _ => false

/-- A caller **moves**: an event changes its record. -/
def moves (b : Breakdown) (k : Nat) (c : Coordinator) (e : Event) : Bool :=
  (e.apply b c).callers[k]? != c.callers[k]?

/-- The place of a stage among those that a request goes through in one turn. -/
def place : Stage → Nat
  | .awaiting _ _ => 0
  | .clearing _ _ => 1
  | .deciding _ => 2
  | .killing _ _ | .starting _ .announcing => 3
  | .starting _ .launching => 4
  | .starting _ (.notifying _) => 5
  | .answered _ => 6
  | .probing _ _ | .unsignalled _ => 0

def rank (x : Caller) : Nat := 4 * x.killed.length + place x.stage

theorem place_le (s : Stage) : place s ≤ 6 := by
  unfold place
  split <;> omega

/-! ## Steps of others -/

/-- An event that is no step of a caller starts a task for another one, or the state comes to name
none. -/
theorem apply_launches (he : e.actor? ≠ some (.caller k)) :
    startsForOther k c e = false ∧ (e.apply b c).tasks.length = c.tasks.length ∧
      (∀ h, (e.apply b c).state = .running h → c.state = .running h) ∨
    startsForOther k c e = true ∧ (e.apply b c).tasks.length = c.tasks.length + 1 := by
  cases e with
  | lose line => exact .inl ⟨rfl, by simp [Event.apply, vanish_eq, onTask], fun _ hs => hs⟩
  | act a =>
      rcases (step_move b c a).launches with ⟨none, same, named⟩ | ⟨j, r, ho, added, -⟩
      · refine .inl ⟨?_, same, named⟩
        unfold startsForOther
        dsimp only
        split
        · rename_i j line ho
          exact absurd ho (none j line)
        · rfl
      · have hj : j ≠ k := fun hj => he (hj ▸ occurrence_launched ho)
        refine .inr ⟨by simp [startsForOther, ho, hj], ?_⟩
        show (step b c a).tasks.length = _
        simp [added]

/-- A caller's own step starts no task for another one. -/
theorem startsForOther_proceed (o : Obstacles) : startsForOther k c (.act (.proceed k o)) = false := by
  unfold startsForOther
  dsimp only
  split
  · rename_i j line ho
    have hj : some (Actor.caller k) = some (.caller j) := occurrence_launched ho
    simpa using (Actor.caller.inj (Option.some.inj hj)).symm
  · rfl

theorem takesTurn_of_actor (he : e.actor? ≠ some (.caller k)) : takesTurn k c e = false := by
  cases e with
  | lose line => rfl
  | act a =>
      cases a with
      | proceed j o =>
          have hj : j ≠ k := fun hj => he (by rw [hj]; rfl)
          simp [takesTurn, hj]
      | _ => rfl

/-- A caller takes a turn only where it looks at the state. -/
theorem takesTurn_of_stage (hk : c.callers[k]? = some x) (elsewhere : ∀ r, x.stage ≠ .deciding (.invoke r))
    (o : Obstacles) : takesTurn k c (.act (.proceed k o)) = false := by
  have stage : c.stage? k = some x.stage := stage?_eq_some.mpr ⟨x.killed, hk⟩
  simp only [takesTurn, stage, beq_self_eq_true, Bool.true_and, Bool.and_eq_false_iff]
  exact .inr (by split <;> simp_all)

/-! ## The loop -/

/-- A caller that has preempted some tasks **is after another one**, which is newer. -/
structure Chases (c : Coordinator) (n : Nat) (h : TaskHandle) (killed : List TaskId) : Prop where
  knows : c.Knows h
  late : n + killed.length ≤ h.line + 1
  newer : (h.id :: killed).Pairwise (· > ·)

/-- **Where a forced request is** after some turns, if there were `n` tasks when it came and `m`
were started for others since. -/
inductive Pursues (c : Coordinator) (r : TaskRequest) (n m : Nat) : Nat → Caller → Prop
  | deciding {killed : List TaskId} (tasks : c.tasks.length = n + m)
      (last : ∀ id, killed.head? = some id →
        n + killed.length ≤ id.toNat + 1 ∧ id.toNat ≤ n + m ∧ c.state.isCurrent id = false)
      (newer : killed.Pairwise (· > ·)) :
      Pursues c r n m killed.length ⟨.deciding (.invoke r), killed⟩
  | killing {h : TaskHandle} {killed : List TaskId} (tasks : c.tasks.length = n + m)
      (chases : c.Chases n h killed) :
      Pursues c r n m (killed.length + 1) ⟨.killing (.invoke r) h, killed⟩
  | awaiting {h : TaskHandle} {killed : List TaskId} (tasks : c.tasks.length = n + m)
      (chases : c.Chases n h killed) (dead : c.wasKilled h.line = true) :
      Pursues c r n m (killed.length + 1) ⟨.awaiting (.invoke r) h, h.id :: killed⟩
  | clearing {h : TaskHandle} {killed : List TaskId} (tasks : c.tasks.length = n + m)
      (chases : c.Chases n h killed) :
      Pursues c r n m (killed.length + 1) ⟨.clearing (.invoke r) h, h.id :: killed⟩
  | starting {next : Starting} {killed : List TaskId} (few : killed.length ≤ m + 1)
      (newer : killed.Pairwise (· > ·)) :
      Pursues c r n m (killed.length + 1) ⟨.starting r next, killed⟩
  | answered {a : Answer} {killed : List TaskId} (few : killed.length ≤ m + 1)
      (newer : killed.Pairwise (· > ·)) (kept : a ≠ .dropped) :
      Pursues c r n m (killed.length + 1) ⟨.answered a, killed⟩

theorem Chases.mono (hg : c.Grows c') (hch : c.Chases n h killed) : c'.Chases n h killed :=
  ⟨hch.knows.mono hg, hch.late, hch.newer⟩

/-- The task that a caller is after is one of those that were started. -/
theorem Chases.few (hch : c.Chases n h killed) (tasks : c.tasks.length = n + m) :
    killed.length ≤ m := by
  obtain ⟨t, ht, -⟩ := hch.knows
  have hlt := (List.getElem?_eq_some_iff.mp ht).1
  have late := hch.late
  omega

theorem Pursues.newer (hp : Pursues c r n m turns x) : x.killed.Pairwise (· > ·) := by
  cases hp with
  | deciding _ _ newer | starting _ newer | answered _ newer _ => exact newer
  | killing _ chases => exact (List.pairwise_cons.mp chases.newer).2
  | awaiting _ chases _ | clearing _ chases => exact chases.newer

theorem Pursues.kept (hp : Pursues c r n m turns x) :
    x.stage ≠ .answered .dropped ∧ ∀ reason, x.stage ≠ .unsignalled reason := by
  cases hp with
  | answered _ _ kept => exact ⟨fun dropped => kept (Stage.answered.inj dropped), nofun⟩
  | _ => exact ⟨nofun, nofun⟩

/-- There are fewer turns than tasks started for others, and two. -/
theorem Pursues.bounds (hp : Pursues c r n m turns x) :
    turns ≤ m + 2 ∧ x.killed.length ≤ m + 1 := by
  cases hp with
  | @deciding killed tasks last newer =>
      cases killed with
      | nil => exact ⟨Nat.zero_le _, Nat.zero_le _⟩
      | cons id killed =>
          obtain ⟨late, here, -⟩ := last id rfl
          dsimp only
          omega
  | killing tasks chases =>
      have few := chases.few tasks
      exact ⟨by omega, by dsimp only; omega⟩
  | awaiting tasks chases _ | clearing tasks chases =>
      have few := chases.few tasks
      exact ⟨by omega, by simp only [List.length_cons]; omega⟩
  | starting few _ | answered few _ _ => exact ⟨by omega, few⟩

/-- The state names the newest task, so its number is how many there are. -/
theorem Settled.toNat_current (hc : c.Settled) (few : c.tasks.length < UInt64.size)
    (hid : c.state.isCurrent id = true) : id.toNat = c.tasks.length := by
  obtain ⟨h, hs, rfl⟩ : ∃ h, c.state = .running h ∧ h.id = id := by
    cases hs : c.state <;> simp_all [TaskState.isCurrent, TaskState.current?]
  obtain ⟨knows, newest⟩ := hc.newest h hs
  rw [(hc.toNat_id few knows).1, newest]

/-- What others do leaves a forced request where it is. -/
theorem Pursues.others (hp : Pursues c r n m turns x) (hc : c.Settled)
    (few : (e.apply b c).tasks.length < UInt64.size) (he : e.actor? ≠ some (.caller k)) :
    Pursues (e.apply b c) r n (m + (startsForOther k c e).toNat) turns x := by
  have grows := apply_grows b c e
  have counted : c.tasks.length = n + m →
      (e.apply b c).tasks.length = n + (m + (startsForOther k c e).toNat) := by
    intro tasks
    rcases apply_launches (b := b) (c := c) he with ⟨none, same, -⟩ | ⟨one, added⟩
    · rw [none, same, tasks]
      rfl
    · rw [one, added, tasks]
      rfl
  cases hp with
  | deciding tasks last newer =>
      refine .deciding (counted tasks) (fun id hid => ?_) newer
      obtain ⟨late, here, gone⟩ := last id hid
      refine ⟨late, by omega, Bool.eq_false_iff.mpr fun current => ?_⟩
      -- Had the task come back, it would be the newest one, and one that was started just now.
      have newest := (hc.apply e).toNat_current few current
      rcases apply_launches (b := b) (c := c) he with ⟨-, -, named⟩ | ⟨-, added⟩
      · cases hs : (e.apply b c).state with
        | idle => simp [hs, TaskState.isCurrent, TaskState.current?] at current
        | running h =>
            rw [hs, ← named h hs, gone] at current
            cases current
      · omega
  | killing tasks chases => exact .killing (counted tasks) (chases.mono grows)
  | awaiting tasks chases dead =>
      exact .awaiting (counted tasks) (chases.mono grows) (apply_wasKilled e dead)
  | clearing tasks chases => exact .clearing (counted tasks) (chases.mono grows)
  | starting few newer => exact .starting (by omega) newer
  | answered few newer kept => exact .answered (by omega) newer kept

/-- A request that looks while a task runs aims at a newer task than all before. -/
theorem Settled.chases (hc : c.Settled) (few : c.tasks.length < UInt64.size)
    (running : c.state = .running h) (tasks : c.tasks.length = n + m)
    (last : ∀ id, killed.head? = some id →
      n + killed.length ≤ id.toNat + 1 ∧ id.toNat ≤ n + m ∧ c.state.isCurrent id = false)
    (newer : killed.Pairwise (· > ·)) : c.Chases n h killed := by
  obtain ⟨knows, newest⟩ := hc.newest h running
  have number : h.id.toNat = h.line + 1 := (hc.toNat_id few knows).1
  cases killed with
  | nil => exact ⟨knows, by simp only [List.length_nil]; omega, List.pairwise_singleton _ _⟩
  | cons id killed =>
      obtain ⟨late, here, gone⟩ := last id rfl
      have other : h.id ≠ id := by
        simpa [running, TaskState.isCurrent, TaskState.current?] using gone
      have above : id < h.id := by
        rw [UInt64.lt_iff_toNat_lt]
        have hne : h.id.toNat ≠ id.toNat := fun heq => other (UInt64.toNat_inj.mp heq)
        omega
      refine ⟨knows, ?_, List.pairwise_cons.mpr ⟨fun id' hid' => ?_, newer⟩⟩
      · rw [UInt64.lt_iff_toNat_lt] at above
        omega
      · rcases List.mem_cons.mp hid' with rfl | hid'
        · exact above
        · exact UInt64.lt_trans ((List.pairwise_cons.mp newer).1 id' hid') above

/-- A forced request **has got further**, unless it rests. -/
def Pursued (c : Coordinator) (k : Nat) (r : TaskRequest) (n m turns : Nat) (x : Caller)
    (c' : Coordinator) : Prop :=
  ∃ x', c'.callers[k]? = some x' ∧ Pursues c' r n m turns x' ∧
    (c.callerRests k = true ∧ x' = x ∨ rank x < rank x')

/-- A turn of a forced request: it aims at the task that runs, or begins to start its own. -/
theorem Pursues.look (hp : Pursues c r n m turns ⟨.deciding (.invoke r), killed⟩) (hc : c.Settled)
    (few : c.tasks.length < UInt64.size) (forced : r.force = true)
    (hk : c.callers[k]? = some ⟨.deciding (.invoke r), killed⟩) :
    Pursued c k r n m (turns + 1) ⟨.deciding (.invoke r), killed⟩ (c.decide b k (.invoke r)) := by
  have enough := hp.bounds.2
  obtain ⟨tasks, last, newer⟩ := hp
  cases running : c.state with
  | running h =>
      rw [decide_of_running running fun r' hr => by cases hr; exact forced]
      have chases := hc.chases few running tasks last newer
      exact ⟨_, callers_setStage hk _, .killing tasks (chases.mono (.refl c)),
        .inr (by simp [rank, place])⟩
  | idle =>
      rw [decide_of_idle running]
      rcases callers_engage (b := b) (r := r) hk with hk' | hk'
      · exact ⟨_, hk', .starting enough newer, .inr (by simp [rank, place])⟩
      · exact ⟨_, hk', .answered enough newer nofun, .inr (by simp [rank, place])⟩

/-- A forced request kills the task that it is after, and waits for its end. -/
theorem Pursues.kill (tasks : c.tasks.length = n + m) (chases : c.Chases n h killed)
    (hk : c.callers[k]? = some ⟨.killing (.invoke r) h, killed⟩) {o : Obstacles}
    (delivered : o.signal = none) :
    Pursued c k r n m (killed.length + 1) ⟨.killing (.invoke r) h, killed⟩ (c.proceed b k o) := by
  obtain ⟨t, ht, -⟩ := chases.knows
  have hlt := (List.getElem?_eq_some_iff.mp hk).1
  have grows := (proceed_move (b := b) (c := c) k o).grows
  rw [proceed_of_killing hk, delivered] at grows ⊢
  refine ⟨_, List.getElem?_set_self hlt, .awaiting ?_ (chases.mono grows) ?_, .inr ?_⟩
  · simpa using tasks
  · simp [wasKilled, ht]
  · simp [rank, place]
    omega

/-- Behind the end of a task a forced request looks again, and the state does not name that task. -/
theorem Pursues.clear (hp : Pursues c r n m turns ⟨.clearing (.invoke r) h, killed⟩) (hc : c.Settled)
    (few : c.tasks.length < UInt64.size)
    (hk : c.callers[k]? = some ⟨.clearing (.invoke r) h, killed⟩) :
    Pursued c k r n m turns ⟨.clearing (.invoke r) h, killed⟩
      ({ c with state := c.state.finish h.id }.setStage k (afterClearing (.invoke r))) := by
  cases hp with
  | @clearing _ killed tasks chases =>
      have late := chases.late
      have number := hc.toNat_id few chases.knows
      have deciding : Pursues
          ({ c with state := c.state.finish h.id }.setStage k (afterClearing (.invoke r)))
          r n m (h.id :: killed).length ⟨.deciding (.invoke r), h.id :: killed⟩ := by
        refine .deciding tasks (fun id hid => ?_) chases.newer
        obtain rfl : h.id = id := Option.some.inj hid
        refine ⟨?_, by omega, TaskState.isCurrent_finish c.state h.id⟩
        simp only [List.length_cons]
        omega
      exact ⟨_, callers_setStage (c := { c with state := _ }) hk _, deciding,
        .inr (by simp [rank, place, afterClearing])⟩

/-- **One step of a forced request.** -/
theorem Pursues.own (hp : Pursues c r n m turns x) (hc : c.Settled)
    (few : c.tasks.length < UInt64.size) (forced : r.force = true) (hk : c.callers[k]? = some x)
    {o : Obstacles} (delivered : o.signal = none) :
    Pursued c k r n m (turns + (takesTurn k c (.act (.proceed k o))).toNat) x (c.proceed b k o) := by
  have stage : c.stage? k = some x.stage := stage?_eq_some.mpr ⟨x.killed, hk⟩
  -- One case for each stage of a request: it waits where it rests, else it gets one place further.
  cases hp with
  | deciding tasks last newer =>
      cases free : c.lock with
      | some j =>
          have waits : takesTurn k c (.act (.proceed k o)) = false := by
            simp [takesTurn, isLocked, free]
          rw [proceed_of_locked hk (by simp [free]) (.inl ⟨_, rfl⟩), waits]
          exact ⟨_, hk, .deciding tasks last newer,
            .inl ⟨by simp [callerRests, hk, isLocked, free], rfl⟩⟩
      | none =>
          have looks : takesTurn k c (.act (.proceed k o)) = true := by
            simp [takesTurn, isLocked, free, stage]
          rw [proceed_of_deciding hk free, looks]
          exact (Pursues.deciding tasks last newer).look hc few forced hk
  | killing tasks chases =>
      rw [takesTurn_of_stage hk (by simp)]
      exact Pursues.kill tasks chases hk delivered
  | awaiting tasks chases dead =>
      rw [takesTurn_of_stage hk (by simp), proceed_of_awaiting hk]
      split
      · exact ⟨_, callers_setStage hk _, .clearing tasks (chases.mono (.refl c)),
          .inr (by simp [rank, place])⟩
      · rename_i waits
        exact ⟨_, hk, .awaiting tasks chases dead, .inl ⟨by simp [callerRests, hk, waits], rfl⟩⟩
  | clearing tasks chases =>
      rw [takesTurn_of_stage hk (by simp)]
      cases free : c.lock with
      | some j =>
          rw [proceed_of_locked hk (by simp [free]) (.inr ⟨_, _, rfl⟩)]
          exact ⟨_, hk, .clearing tasks chases,
            .inl ⟨by simp [callerRests, hk, isLocked, free], rfl⟩⟩
      | none =>
          rw [proceed_of_clearing hk free]
          exact (Pursues.clearing tasks chases).clear hc few hk
  | @starting next killed enough newer =>
      rw [takesTurn_of_stage hk (by simp), proceed_of_starting hk]
      rcases callers_start (b := b) o.launch hk with ⟨next', leads, hk'⟩ | ⟨a, kept, hk'⟩
      · refine ⟨_, hk', .starting enough newer, .inr ?_⟩
        cases leads <;> simp [rank, place]
      · refine ⟨_, hk', .answered enough newer kept, .inr ?_⟩
        cases next <;> simp [rank, place]
  | answered enough newer kept =>
      rw [takesTurn_of_stage hk (by simp), proceed_of_ended hk (.inl ⟨_, rfl⟩)]
      exact ⟨_, hk, .answered enough newer kept, .inl ⟨by simp [callerRests, hk], rfl⟩⟩

/-- A forced request rests only when it is answered, while another caller holds the lock, which does
not rest, or while the driver of a killed task is not gone. -/
theorem Pursues.rests (hp : Pursues c r n m turns x) (hc : c.Settled) (hk : c.callers[k]? = some x)
    (resting : c.callerRests k = true) :
    (∃ a, x.stage = .answered a) ∨ (∃ j, j ≠ k ∧ c.lock = some j ∧ c.callerRests j = false) ∨
      ∃ h t, x.stage = .awaiting (.invoke r) h ∧ c.tasks[h.line]? = some t ∧ t.handle = h ∧
        t.line.killed = true ∧ t.driver.isGone = false := by
  -- The holder of the lock starts a task, so it does not rest, and it is somebody else.
  have locked : c.isLocked = true → (∀ r n, x.stage ≠ .starting r n) →
      ∃ j, j ≠ k ∧ c.lock = some j ∧ c.callerRests j = false := by
    intro hl other
    obtain ⟨j, hj⟩ := Option.isSome_iff_exists.mp hl
    have starting := (hc.holder j).mp hj
    obtain ⟨s, hs, isStarting⟩ := (Option.any_eq_true _ _).mp starting
    obtain ⟨killed, hkilled⟩ := stage?_eq_some.mp hs
    cases s with
    | starting r n =>
        refine ⟨j, ?_, hj, by simp [callerRests, hkilled]⟩
        rintro rfl
        obtain rfl := Option.some.inj (hk.symm.trans hkilled)
        exact other r n rfl
    | _ => cases isStarting
  cases hp with
  | deciding _ _ _ | clearing _ _ =>
      exact .inr (.inl (locked (by simpa [callerRests, hk] using resting) nofun))
  | killing _ _ | starting _ _ => simp [callerRests, hk] at resting
  | @awaiting h killed tasks chases dead =>
      obtain ⟨t, ht, hh⟩ := chases.knows
      refine .inr (.inr ⟨h, t, rfl, ht, hh, by simpa [wasKilled, ht] using dead, ?_⟩)
      have waits : t.line.isOver = false := by simpa [callerRests, hk, isOver, ht] using resting
      exact Bool.eq_false_iff.mpr fun gone => by simp [hc.gone h.line t ht gone] at waits
  | @answered a => exact .inl ⟨a, rfl⟩

/-! ## The whole call -/

/-- **A forced request in its loop**, with how many turns it has taken and how often it has moved. -/
def Pursuit (k : Nat) (r : TaskRequest) (n m turns moved : Nat) (c : Coordinator) : Prop :=
  ∃ x, c.callers[k]? = some x ∧ Pursues c r n m turns x ∧ moved + 2 ≤ rank x

/-- What one event keeps of a forced request. -/
theorem Pursuit.apply {moved : Nat} (hp : Pursuit k r n m turns moved c) (hc : c.Settled)
    (few : (e.apply b c).tasks.length < UInt64.size) (forced : r.force = true)
    (delivered : ∀ o, e = .act (.proceed k o) → o.signal = none) :
    Pursuit k r n (m + (startsForOther k c e).toNat) (turns + (takesTurn k c e).toNat)
      (moved + (moves b k c e).toNat) (e.apply b c) := by
  obtain ⟨x, hk, hx, hmoved⟩ := hp
  by_cases own : e.actor? = some (.caller k)
  · obtain ⟨o, rfl⟩ : ∃ o, e = .act (.proceed k o) := by
      cases e with
      | act a =>
          obtain ⟨o, rfl⟩ := Action.eq_proceed own
          exact ⟨o, rfl⟩
      | lose line => cases own
    have few' := Nat.lt_of_le_of_lt (apply_grows b c _).length_le few
    obtain ⟨x', hk', hx', further⟩ := hx.own (b := b) hc few' forced hk (delivered o rfl)
    rw [startsForOther_proceed]
    refine ⟨x', hk', hx', ?_⟩
    rcases further with ⟨-, rfl⟩ | further
    · have still : moves b k c (.act (.proceed k o)) = false := by
        simp [moves, Event.apply, step, hk, hk']
      simpa [still] using hmoved
    · have one := Bool.toNat_le (moves b k c (.act (.proceed k o)))
      omega
  · have hk' := apply_caller_of_ne (b := b) hk own
    refine ⟨x, hk', ?_, ?_⟩
    · simpa [takesTurn_of_actor own] using hx.others hc few own
    · simpa [moves, hk, hk'] using hmoved

/-- What a whole play keeps of a forced request. -/
theorem Pursuit.play {moved : Nat} (hp : Pursuit k r n m turns moved c) (hc : c.Settled)
    (forced : r.force = true) (delivered : ∀ o, .act (.proceed k o) ∈ es → o.signal = none)
    (few : (play b c es).tasks.length < UInt64.size) :
    Pursuit k r n (m + tally b (startsForOther k) c es) (turns + tally b (takesTurn k) c es)
      (moved + tally b (moves b k) c es) (play b c es) := by
  induction es generalizing c m turns moved with
  | nil => exact hp
  | cons e es ih =>
      have few' := Nat.lt_of_le_of_lt (play_grows b (e.apply b c) es).length_le few
      have first := hp.apply hc few' forced fun o ho => delivered o (ho ▸ List.mem_cons_self)
      have rest := ih first (hc.apply e) (fun o ho => delivered o (List.mem_cons_of_mem e ho)) few
      simp only [tally, ← Nat.add_assoc]
      exact rest

/-- **A forced request gets through.** Other callers and drivers may take their steps in any order
between its own, any sink may break down at any call, and drivers may be lost at any time, before
the request comes or later.

If its signals can be delivered, it is never dropped; the tasks it kills, turn by turn, have greater
and greater numbers; and if `m` tasks were started for others since it came, it has taken at most
`m + 2` turns, the one included in which it begins to start its own task. Nor does it wait
for ever between its turns: it has moved at most `4 * (m + 2)` times; whenever it does not rest its
next step is a move; and it rests only when it is answered, while another caller that holds the lock
can move, or while it waits for a task it has killed whose driver is not gone. -/
theorem forced_request_gets_through (tool : Tool) (b : Breakdown) (es es' : List Event) (k : Nat)
    (r : TaskRequest) (forced : r.force = true)
    (comes : (play b (new tool) es).callers[k]? = some ⟨.deciding (.invoke r), []⟩)
    (delivered : ∀ o, .act (.proceed k o) ∈ es' → o.signal = none)
    (few : (play b (play b (new tool) es) es').tasks.length < UInt64.size) :
    let c := play b (new tool) es
    let c' := play b c es'
    let m := tally b (startsForOther k) c es'
    ∃ x, c'.callers[k]? = some x ∧
      x.stage ≠ .answered .dropped ∧ (∀ reason, x.stage ≠ .unsignalled reason) ∧
      x.killed.Pairwise (· > ·) ∧
      tally b (takesTurn k) c es' ≤ m + 2 ∧
      tally b (moves b k) c es' ≤ 4 * (m + 2) ∧
      (c'.callerRests k = false → ∀ o, o.signal = none → (c'.proceed b k o).callers[k]? ≠ some x) ∧
      (c'.callerRests k = true →
        (∃ a, x.stage = .answered a) ∨
        (∃ j, j ≠ k ∧ c'.lock = some j ∧ c'.callerRests j = false) ∨
        ∃ h t, x.stage = .awaiting (.invoke r) h ∧ c'.tasks[h.line]? = some t ∧ t.handle = h ∧
          t.line.killed = true ∧ t.driver.isGone = false) := by
  intro c c' m
  have hc : c.Settled := (settled_new tool).play es
  have hc' : c'.Settled := hc.play es'
  -- The invariant holds when the request comes, and every event keeps it.
  have start : Pursuit k r c.tasks.length 0 0 0 c :=
    ⟨_, comes, .deciding rfl (by simp) .nil, Nat.le_refl _⟩
  obtain ⟨x, hk, hx, moved⟩ := start.play hc forced delivered few
  simp only [Nat.zero_add] at hx moved
  obtain ⟨turns, killed⟩ := hx.bounds
  have place := place_le x.stage
  refine ⟨x, hk, hx.kept.1, hx.kept.2, hx.newer, turns, ?_, ?_, hx.rests hc' hk⟩
  · unfold rank at moved
    omega
  · -- A request that does not rest gets further, so its record is another one.
    intro active o signal
    obtain ⟨x', hk', -, ⟨resting, -⟩ | further⟩ := hx.own (b := b) hc' few forced hk signal
    · rw [active] at resting
      cases resting
    · rw [hk']
      rintro ⟨⟩
      exact Nat.lt_irrefl _ further

/-- The driver of a task is lost while the task runs. A forced request comes and takes that task out
of the state; before it looks again another request starts a task. It kills that one too, waits for
its end, and starts its own. -/
def twiceBeaten : List Event × List Event :=
  let go (k : Nat) : Event := .act (.proceed k {})
  let offer (o : Offer) : Event := .act (.drive 1 o (.ofMicros 0))
  ([.act (.call (.invoke { command := "build", workingDirectory := "/w" })), go 0, go 0, go 0,
      .lose 0,
      .act (.call (.invoke { command := "test", workingDirectory := "/w", force := true }))],
    [go 1, go 1, go 1, go 1,
      .act (.call (.invoke { command := "build", workingDirectory := "/w" })), go 2, go 2, go 2,
      go 1, go 1, offer {}, offer { exit := .exited none }, offer { arrival := .ended }, offer {},
      offer {}, offer {}, go 1, go 1, go 1, go 1, go 1])

/-- The bound on turns is reached: three, with one task started meanwhile. -/
theorem forced_request_gets_through_twiceBeaten :
    let c := play .never (new cargo) twiceBeaten.1
    let c' := play .never c twiceBeaten.2
    tally .never (startsForOther 1) c twiceBeaten.2 = 1 ∧
      tally .never (takesTurn 1) c twiceBeaten.2 = 3 ∧
      tally .never (moves .never 1) c twiceBeaten.2 = 11 ∧
      ∃ x, c'.callers[1]? = some x ∧ x.stage ≠ .answered .dropped ∧ x.killed.Pairwise (· > ·) := by
  refine ⟨by decide, by decide, by decide, ?_⟩
  obtain ⟨x, hx, kept, -, newer, -⟩ := forced_request_gets_through cargo .never twiceBeaten.1
    twiceBeaten.2 1 { command := "test", workingDirectory := "/w", force := true } rfl (by decide)
    (by simp [twiceBeaten]) (by decide)
  exact ⟨x, hx, kept, newer⟩

end BuildRunner.Coordinator
