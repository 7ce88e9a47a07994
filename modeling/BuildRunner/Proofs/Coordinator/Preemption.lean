import BuildRunner.Proofs.Coordinator.Loss
import BuildRunner.Proofs.Coordinator.SingleFlight

set_option autoImplicit false

/-! # Preemption is a stop and then a start

A forced request, and a stop followed by the same request unforced, are two paths through the
coordinator. Run each of them beside the same drivers, the same probe and the same losses: then
whatever the one can come to the other can come to as well.

The two are kept in step by a simulation. `Twins` says that two coordinators agree in all but their
last callers, and a pairing says which stages of those correspond: `Stops` as long as the task that
was running is in the way, `Pauses` between the stop and the request, and `Restarts` from then on.
The request looks at the state once more than the stop does, and the stop is called once
more than the request: those are the steps that only one of the two takes.
-/

namespace BuildRunner.Coordinator

variable {b : Breakdown} {c c' d : Coordinator} {o : Obstacles} {e : Event} {k : Nat} {s s' : Stage}
  {l l' : Option Nat} {L P Q R : List Caller} {x y : Caller} {killed : List TaskId} {p : Purpose}
  {h : TaskHandle} {r : TaskRequest} {failure : Option LaunchError}

/-! ## Calls that go on alone -/

/-- Whether a caller in a stage only wants to know whether the tool has a `check`. -/
def asks : Stage → Bool
  | .probing _ .tell => true
  | _ => false

/-- **What may go on beside a call** that comes to a coordinator: steps of drivers and of the probe,
losses of drivers, and steps of those who only want to know whether the tool has a `check`. -/
def isBeside (c : Coordinator) : Event → Bool
  | .act (.drive _ _ _) | .act (.follow _) | .lose _ => true
  | .act (.proceed k _) => (c.stage? k).any asks
  | .act (.call _) => false

/-- **A caller goes on** with nothing else beside it than `world`, in this order. Its own steps may
come at any time; its signals can be delivered, and `failure` says why its process
cannot be launched, should it come to that. -/
inductive GoesOn (b : Breakdown) (beside : Event → Bool) (failure : Option LaunchError) (k : Nat) :
    Coordinator → List Event → Coordinator → Prop
  | refl (c : Coordinator) : GoesOn b beside failure k c [] c
  | own {c c' : Coordinator} {world : List Event}
      (rest : GoesOn b beside failure k (c.proceed b k { launch := failure }) world c') :
      GoesOn b beside failure k c world c'
  | beside {e : Event} {c c' : Coordinator} {world : List Event} (he : beside e = true)
      (rest : GoesOn b beside failure k (e.apply b c) world c') :
      GoesOn b beside failure k c (e :: world) c'

/-- **A call is made and answered**, with nothing else beside it than `world`. -/
def Answers (b : Breakdown) (beside : Event → Bool) (failure : Option LaunchError) (d : Demand)
    (c : Coordinator) (world : List Event) (a : Answer) (c' : Coordinator) : Prop :=
  GoesOn b beside failure c.callers.length (c.call d) world c' ∧
    c'.stage? c.callers.length = some (.answered a)

/-- A coordinator without the callers behind the first `k`. -/
def upTo (c : Coordinator) (k : Nat) : Coordinator := { c with callers := c.callers.take k }

/-! ## Other callers on the same coordinator -/

/-- A coordinator with other callers, and another holder of the lock. -/
def recast (c : Coordinator) (R : List Caller) (l : Option Nat) : Coordinator :=
  { c with callers := R, lock := l }

theorem callers_recast : (c.recast (P ++ x :: Q) l).callers[P.length]? = some x := by
  simp [recast]

theorem setStage_recast (s' : Stage) :
    (c.recast (P ++ ⟨s, killed⟩ :: Q) l).setStage P.length s' =
      c.recast (P ++ ⟨s', killed⟩ :: Q) l := by
  rw [setStage, modify_eq_set callers_recast]
  simp [recast]

theorem emitFrom_recast (i : Nat) (call : SinkCall) (d : Driver) :
    (c.recast R l).emitFrom b i call d = (c.emitFrom b i call d).recast R l := by
  unfold emitFrom emit
  rw [show b (c.recast R l).calls call = b c.calls call from rfl]
  cases b c.calls call <;> rfl

theorem deliver_recast (i : Nat) (t : Task) (run : Run) (line : OutputLine) :
    (c.recast R l).deliver b i t run line = (c.deliver b i t run line).recast R l := by
  unfold deliver
  rcases t.routing.route line with ⟨_ | _ | _, g⟩
  · exact emitFrom_recast (c := c.onTask i _) i _ _
  · rfl
  · rfl

/-- A driver does not care who calls, only whether somebody holds the lock. -/
theorem drive_recast (held : l.isSome = c.lock.isSome) (i : Nat) (o : Offer) (elapsed : Elapsed) :
    (c.recast R l).drive b i o elapsed = (c.drive b i o elapsed).recast R l := by
  have locked : (c.recast R l).isLocked = c.isLocked := held
  cases ht : c.tasks[i]? with
  | none => rw [drive_of_none ht, drive_of_none (c := c.recast R l) ht]
  | some t =>
      have ht' : (c.recast R l).tasks[i]? = some t := ht
      simp only [drive, ht, ht']
      cases t.driver with
      | following run =>
          dsimp only
          rcases run.turn { o with killed := t.line.killed } with ⟨run', _ | line⟩
          · dsimp only
            cases run'.result? <;> rfl
          · exact deliver_recast i t run' line
      | publishing run ds =>
          cases ds with
          | nil => rfl
          | cons d ds => exact emitFrom_recast i _ _
      | closing ss outcome =>
          cases ss with
          | nil => rfl
          | cons s ss => exact emitFrom_recast i _ _
      | finishing r =>
          dsimp only
          rw [locked]
          cases c.isLocked <;> rfl
      | _ => rfl

theorem follow_recast (o : Offer) : (c.recast R l).follow o = (c.follow o).recast R l := by
  unfold follow
  rw [show (c.recast R l).probe = c.probe from rfl]
  cases c.probe with
  | running run => dsimp only; split <;> rfl
  | _ => rfl

/-! ## One step of a caller among others -/

/-- A caller that looks at the state or changes it waits for the lock. -/
theorem proceed_locked_recast {j : Nat}
    (waits : (∃ p, s = .deciding p) ∨ ∃ p h, s = .clearing p h) :
    (c.recast (P ++ ⟨s, killed⟩ :: Q) (some j)).proceed b P.length o =
      c.recast (P ++ ⟨s, killed⟩ :: Q) (some j) :=
  proceed_of_locked callers_recast (by simp [recast]) waits o

theorem proceed_killing_recast :
    (c.recast (P ++ ⟨.killing p h, killed⟩ :: Q) l).proceed b P.length { launch := failure } =
      (c.onTask h.line Task.kill).recast (P ++ ⟨.awaiting p h, h.id :: killed⟩ :: Q) l := by
  rw [proceed_of_killing callers_recast]
  simp [recast, afterKill, onTask]

theorem proceed_awaiting_recast :
    (c.recast (P ++ ⟨.awaiting p h, killed⟩ :: Q) l).proceed b P.length o =
      c.recast (P ++ ⟨if c.isOver h.line then .clearing p h else .awaiting p h, killed⟩ :: Q) l := by
  rw [proceed_of_awaiting callers_recast, show (c.recast _ l).isOver h.line = c.isOver h.line from rfl]
  split
  · exact setStage_recast _
  · rfl

theorem proceed_clearing_recast :
    (c.recast (P ++ ⟨.clearing p h, killed⟩ :: Q) none).proceed b P.length o =
      ({ c with state := c.state.finish h.id } : Coordinator).recast
        (P ++ ⟨afterClearing p, killed⟩ :: Q) none := by
  rw [proceed_of_clearing callers_recast rfl]
  exact setStage_recast (c := { c with state := c.state.finish h.id }) _

/-- A stop, or a forced request, finds a task running. -/
theorem proceed_aim_recast (running : c.state = .running h)
    (forced : ∀ r, p = .invoke r → r.force = true) :
    (c.recast (P ++ ⟨.deciding p, killed⟩ :: Q) none).proceed b P.length o =
      c.recast (P ++ ⟨.killing p h, killed⟩ :: Q) none := by
  rw [proceed_of_deciding callers_recast rfl, 
    decide_of_running (c := c.recast _ none) running forced]
  exact setStage_recast _

/-- A stop finds nothing running. -/
theorem proceed_pass_recast (idle : c.state = .idle) :
    (c.recast (P ++ ⟨.deciding .stop, killed⟩ :: Q) none).proceed b P.length o =
      c.recast (P ++ ⟨.answered (.stopped false), killed⟩ :: Q) none := by
  rw [proceed_of_deciding callers_recast rfl, decide,
    show (c.recast _ none).state.current? = none from congrArg TaskState.current? idle]
  exact setStage_recast _

/-- A caller finds nothing running and begins to start its request, in the same way whoever it is and
whether or not the request is forced. -/
theorem proceed_engage_recast (idle : c.state = .idle) (r : TaskRequest) :
    ∃ d : Coordinator,
      (∀ force P Q killed o,
        (c.recast (P ++ ⟨.deciding (.invoke (r.withForce force)), killed⟩ :: Q) none).proceed b
            P.length o =
          d.recast (P ++ ⟨.starting (r.withForce force) .announcing, killed⟩ :: Q)
            (some P.length)) ∨
      ∀ force P Q killed o,
        (c.recast (P ++ ⟨.deciding (.invoke (r.withForce force)), killed⟩ :: Q) none).proceed b
            P.length o =
          d.recast (P ++ ⟨.answered .broken, killed⟩ :: Q) none := by
  refine ⟨{ c with calls := .clear :: c.calls }, ?_⟩
  cases hb : b c.calls .clear with
  | false =>
      refine .inl fun force P Q killed o => ?_
      rw [proceed_of_deciding callers_recast rfl, decide_of_idle (c := c.recast _ none) idle,
        engage_eq]
      exact (if_neg (by simpa [recast] using hb)).trans
        (setStage_recast (c := { c with calls := _ }) (l := some P.length) _)
  | true =>
      refine .inr fun force P Q killed o => ?_
      rw [proceed_of_deciding callers_recast rfl, decide_of_idle (c := c.recast _ none) idle,
        engage_eq]
      exact (if_pos hb).trans (setStage_recast (c := { c with calls := _ }) (l := none) _)

/-- A caller goes on with its start, in the same way whoever it is and whether or not the request is
forced. -/
theorem proceed_starting_recast (c : Coordinator) (r : TaskRequest) (n : Starting)
    (failure : Option LaunchError) :
    ∃ d : Coordinator,
      (∃ n', ∀ force P Q killed l,
        (c.recast (P ++ ⟨.starting (r.withForce force) n, killed⟩ :: Q) l).proceed b P.length
            { launch := failure } =
          d.recast (P ++ ⟨.starting (r.withForce force) n', killed⟩ :: Q) l) ∨
      ∃ a, ∀ force P Q killed l,
        (c.recast (P ++ ⟨.starting (r.withForce force) n, killed⟩ :: Q) l).proceed b P.length
            { launch := failure } =
          d.recast (P ++ ⟨.answered a, killed⟩ :: Q) none := by
  -- The three stages of a start; the witnesses are the coordinators behind them.
  cases n with
  | announcing =>
      refine ⟨{ c with calls := .text (c.tool.announcement r) :: c.calls }, ?_⟩
      cases hb : b c.calls (.text (c.tool.announcement r)) with
      | false =>
          refine .inl ⟨.launching, fun force P Q killed l => ?_⟩
          rw [proceed_of_starting callers_recast, start_announcing]
          exact (if_neg (ne_true_of_eq_false hb)).trans (setStage_recast (c := { c with calls := _ }) _)
      | true =>
          refine .inr ⟨.broken, fun force P Q killed l => ?_⟩
          rw [proceed_of_starting callers_recast, start_announcing]
          exact (if_pos hb).trans (setStage_recast (c := { c with calls := _ }) (l := none) _)
  | launching =>
      cases failure with
      | none =>
          refine ⟨c.register r, .inr ⟨.started c.nextId c.tasks.length, fun force P Q killed l => ?_⟩⟩
          rw [proceed_of_starting callers_recast]
          exact setStage_recast (c := c.register r) (l := none) _
      | some e =>
          refine ⟨c, .inl ⟨.notifying e, fun force P Q killed l => ?_⟩⟩
          rw [proceed_of_starting callers_recast]
          exact setStage_recast _
  | notifying e =>
      refine ⟨{ c with calls := .notify (.toolNotAvailable c.tool.program) :: c.calls }, .inr
        ⟨if b c.calls (.notify (.toolNotAvailable c.tool.program)) then .broken else .failed e,
          fun force P Q killed l => ?_⟩⟩
      rw [proceed_of_starting callers_recast, start_notifying]
      exact setStage_recast (c := { c with calls := _ }) (l := none) _

/-- A caller that asks for the tool's `check` does so whoever calls besides, and learns of it at most
that. -/
theorem proceed_asks_recast (hk : L[k]? = some x) (asking : asks x.stage = true) (o : Obstacles) :
    ∃ (d : Coordinator) (y : Caller), (asks y.stage = true ∨ ∃ a, y.stage = .answered a) ∧
      d.state = c.state ∧
      ∀ R l, (c.recast (L ++ R) l).proceed b k o = d.recast (L.set k y ++ R) l := by
  obtain ⟨hlt, hget⟩ := List.getElem?_eq_some_iff.mp hk
  have unchanged : L.set k x = L := by rw [← hget, List.set_getElem_self]
  obtain ⟨stage, killed⟩ := x
  obtain ⟨dir, rfl⟩ : ∃ dir, stage = .probing dir .tell := by
    cases stage with
    | probing dir next =>
        cases next with
        | tell => exact ⟨dir, rfl⟩
        | check target force => cases asking
    | _ => cases asking
  -- A step of this caller is a step of the probe, into which no other caller enters.
  have asked : ∀ R l, (c.recast (L ++ R) l).proceed b k o =
      (c.recast (L ++ R) l).ask k dir .tell o.launch := by
    intro R l
    have there : (c.recast (L ++ R) l).callers[k]? = some ⟨.probing dir .tell, killed⟩ :=
      (List.getElem?_append_left hlt).trans hk
    simp [proceed, there]
  cases hp : c.probe with
  | unasked =>
      cases hf : o.launch with
      | none =>
          refine ⟨{ c with probe := .running .start, probes := c.probes + 1 }, _, .inl asking, rfl,
            fun R l => ?_⟩
          rw [asked, unchanged, hf]
          simp [ask, recast, hp]
      | some e =>
          refine ⟨{ c with probe := .settled .supported }, _, .inl asking, rfl, fun R l => ?_⟩
          rw [asked, unchanged, hf]
          simp [ask, recast, hp]
  | running run =>
      refine ⟨c, _, .inl asking, rfl, fun R l => ?_⟩
      rw [asked, unchanged]
      simp [ask, recast, hp]
  | settled s =>
      refine ⟨c, ⟨.answered (.support s), killed⟩, .inr ⟨_, rfl⟩, rfl, fun R l => ?_⟩
      rw [asked]
      simp [ask, recast, hp, setStage, modify_eq_set ((List.getElem?_append_left hlt).trans hk),
        List.set_append_left k _ hlt]

/-! ## Twins -/

/-- Those who may go on beside a call want to know about the tool's `check`, or have been told. -/
def Bystanders (c₀ : Coordinator) (L : List Caller) : Prop :=
  L.length = c₀.callers.length ∧
    ∀ k, (c₀.stage? k).any asks = true →
      ∃ x : Caller, L[k]? = some x ∧ (asks x.stage = true ∨ ∃ a, x.stage = .answered a)

/-- Someone who may go on beside a call goes on. -/
theorem Bystanders.set {c₀ : Coordinator} (hb : Bystanders c₀ L)
    (hy : asks y.stage = true ∨ ∃ a, y.stage = .answered a) : Bystanders c₀ (L.set k y) := by
  refine ⟨by simpa using hb.1, fun i hi => ?_⟩
  obtain ⟨z, hz, going⟩ := hb.2 i hi
  rw [List.getElem?_set]
  split
  · rename_i same
    subst same
    exact ⟨y, by simp [(List.getElem?_eq_some_iff.mp hz).1], hy⟩
  · exact ⟨z, hz, going⟩

/-- Which callers of two coordinators correspond in a state, and who holds the lock. -/
abbrev Pairing := TaskState → Caller → List Caller → Option Nat → Option Nat → Prop

/-- **Two coordinators agree** in all but the callers that have come since `c₀`: one on the one side,
and some on the other. -/
inductive Twins (c₀ : Coordinator) (pairing : Pairing) : Coordinator → Coordinator → Prop
  | mk {c : Coordinator} {L ys : List Caller} {x : Caller} {l l' : Option Nat}
      (beside : Bystanders c₀ L) (paired : pairing c.state x ys l l') :
      Twins c₀ pairing (c.recast (L ++ [x]) l) (c.recast (L ++ ys) l')

/-- The stop and the forced request are after a task. -/
inductive Stops (r : TaskRequest) : Pairing
  | deciding {s : TaskState} {l : Option Nat} {killed killed' : List TaskId} :
      Stops r s ⟨.deciding (.invoke (r.withForce true)), killed⟩ [⟨.deciding .stop, killed'⟩] l l
  | killing {s : TaskState} {h : TaskHandle} {l : Option Nat} {killed killed' : List TaskId}
      (named : s = .running h ∨ s = .idle) :
      Stops r s ⟨.killing (.invoke (r.withForce true)) h, killed⟩ [⟨.killing .stop h, killed'⟩] l l
  | awaiting {s : TaskState} {h : TaskHandle} {l : Option Nat} {killed killed' : List TaskId}
      (named : s = .running h ∨ s = .idle) :
      Stops r s ⟨.awaiting (.invoke (r.withForce true)) h, killed⟩ [⟨.awaiting .stop h, killed'⟩] l l
  | clearing {s : TaskState} {h : TaskHandle} {l : Option Nat} {killed killed' : List TaskId}
      (named : s = .running h ∨ s = .idle) :
      Stops r s ⟨.clearing (.invoke (r.withForce true)) h, killed⟩ [⟨.clearing .stop h, killed'⟩] l l

/-- The stop has been answered; the forced request has to look once more. -/
inductive Pauses (r : TaskRequest) : Pairing
  | mk {s : TaskState} {any : Bool} {l : Option Nat} {killed killed' : List TaskId}
      (idle : s = .idle) :
      Pauses r s ⟨.deciding (.invoke (r.withForce true)), killed⟩
        [⟨.answered (.stopped any), killed'⟩] l l

/-- The request is made, and starts in the same way as the forced one. -/
inductive Restarts (r : TaskRequest) (k : Nat) : Pairing
  | deciding {s : TaskState} {y : Caller} {l : Option Nat} {killed killed' : List TaskId}
      (idle : s = .idle) :
      Restarts r k s ⟨.deciding (.invoke (r.withForce true)), killed⟩
        [y, ⟨.deciding (.invoke (r.withForce false)), killed'⟩] l l
  | starting {s : TaskState} {n : Starting} {y : Caller} {killed killed' : List TaskId} :
      Restarts r k s ⟨.starting (r.withForce true) n, killed⟩
        [y, ⟨.starting (r.withForce false) n, killed'⟩] (some k) (some (k + 1))
  | answered {s : TaskState} {a : Answer} {y : Caller} {l : Option Nat}
      {killed killed' : List TaskId} :
      Restarts r k s ⟨.answered a, killed⟩ [y, ⟨.answered a, killed'⟩] l l

/-! ## What goes on beside -/

/-- A driver leaves the state as it is, or idle. -/
theorem drive_state (c : Coordinator) (b : Breakdown) (i : Nat) (o : Offer) (elapsed : Elapsed) :
    (c.drive b i o elapsed).state = c.state ∨ (c.drive b i o elapsed).state = .idle := by
  cases ht : c.tasks[i]? with
  | none => exact .inl (by rw [drive_of_none ht])
  | some t =>
      obtain ⟨o', hs⟩ : ∃ o', Stride b c i t o' (c.drive b i o elapsed) :=
        ⟨_, drive_stride ht o elapsed⟩
      generalize c.drive b i o elapsed = c' at hs
      cases hs with
      | finish _ _ => exact TaskState.finish_eq_or c.state t.id
      | _ => exact .inl rfl

/-- A pairing that does not mind the state becoming idle, and who holds the lock. -/
structure Pairing.Steady (pairing : Pairing) : Prop where
  idle : ∀ {s x ys l l'}, pairing s x ys l l' → pairing .idle x ys l l'
  held : ∀ {s x ys l l'}, pairing s x ys l l' → l'.isSome = l.isSome

theorem stops_steady (r : TaskRequest) : Pairing.Steady (Stops r) where
  idle h := by
    cases h with
    | deciding => exact .deciding
    | killing _ => exact .killing (.inr rfl)
    | awaiting _ => exact .awaiting (.inr rfl)
    | clearing _ => exact .clearing (.inr rfl)
  held h := by cases h <;> rfl

theorem pauses_steady (r : TaskRequest) : Pairing.Steady (Pauses r) where
  idle h := by
    cases h
    exact .mk rfl
  held h := by cases h; rfl

theorem restarts_steady (r : TaskRequest) (k : Nat) : Pairing.Steady (Restarts r k) where
  idle h := by
    cases h with
    | deciding _ => exact .deciding rfl
    | starting => exact .starting
    | answered => exact .answered
  held h := by cases h <;> rfl

variable {c₀ : Coordinator} {pairing : Pairing}

theorem Pairing.Steady.mono {s s' : TaskState} {ys : List Caller} (steady : pairing.Steady)
    (hs : s' = s ∨ s' = .idle) (h : pairing s x ys l l') : pairing s' x ys l l' := by
  rcases hs with rfl | rfl
  · exact h
  · exact steady.idle h

/-- **What goes on beside twins** leaves them twins. -/
theorem Twins.beside (h : Twins c₀ pairing c d) (steady : pairing.Steady)
    (he : c₀.isBeside e = true) : Twins c₀ pairing (e.apply b c) (e.apply b d) := by
  obtain ⟨beside, paired⟩ := h
  rename_i c L ys x l l'
  have held := steady.held paired
  cases e with
  | lose line => exact .mk (c := c.vanish line) beside paired
  | act a =>
      cases a with
      | call d => cases he
      | follow o =>
          show Twins c₀ pairing (follow _ o) (follow _ o)
          rw [follow_recast, follow_recast, follow_eq]
          exact .mk (c := { c with probe := _ }) beside paired
      | drive i o elapsed =>
          -- Both are the coordinator on the left, with the callers of either.
          have left := drive_recast (b := b) (c := c.recast (L ++ [x]) l) (R := L ++ [x]) (l := l)
            rfl i o elapsed
          have right := drive_recast (b := b) (c := c.recast (L ++ [x]) l) (R := L ++ ys) held
            i o elapsed
          show Twins c₀ pairing ((c.recast (L ++ [x]) l).drive b i o elapsed)
            ((c.recast (L ++ ys) l').drive b i o elapsed)
          exact left ▸ right ▸ .mk beside (steady.mono (drive_state _ b i o elapsed) paired)
      | proceed j o =>
          show Twins c₀ pairing (proceed _ b j o) (proceed _ b j o)
          obtain ⟨z, hz, asking | ⟨a, answered⟩⟩ := beside.2 j he
          · obtain ⟨d, z', asking', hd, asked⟩ :=
              proceed_asks_recast (b := b) (c := c) hz asking o
            rw [asked, asked]
            exact .mk (beside.set asking') (hd ▸ paired)
          · have there : ∀ R m, (c.recast (L ++ R) m).proceed b j o = c.recast (L ++ R) m := by
              intro R m
              have hlt := (List.getElem?_eq_some_iff.mp hz).1
              exact proceed_of_ended (s := z.stage) ((List.getElem?_append_left hlt).trans hz)
                (.inl ⟨a, answered⟩) o
            rw [there, there]
            exact .mk beside paired

/-! ## Own steps -/

/-- Both callers are after a task; then the stop may be ahead by its answer. -/
theorem Twins.stops_own (h : Twins c₀ (Stops r) c d) (b : Breakdown)
    (failure : Option LaunchError) :
    let c' := c.proceed b c₀.callers.length { launch := failure }
    let d' := d.proceed b c₀.callers.length { launch := failure }
    Twins c₀ (Stops r) c' d' ∨ Twins c₀ (Pauses r) c' d' ∨ Twins c₀ (Pauses r) c d' := by
  intro c' d'
  obtain ⟨beside, paired⟩ := h
  rename_i c L ys x l l'
  subst c' d'
  rw [← beside.1]
  cases paired with
  | deciding =>
      cases l with
      | some j =>
          rw [proceed_locked_recast (.inl ⟨_, rfl⟩), proceed_locked_recast (.inl ⟨_, rfl⟩)]
          exact .inl (.mk beside .deciding)
      | none =>
          cases state : c.state with
          | running h =>
              have forced : ∀ r', Purpose.invoke (r.withForce true) = .invoke r' → r'.force = true :=
                fun r' hr => Purpose.invoke.inj hr ▸ rfl
              rw [proceed_aim_recast state forced, proceed_aim_recast state (by simp)]
              exact .inl (.mk beside (.killing (.inl state)))
          | idle =>
              -- The stop has its answer; the request takes the same look after the pause.
              rw [proceed_pass_recast state]
              exact .inr (.inr (.mk beside (.mk state)))
  | killing named =>
      rw [proceed_killing_recast, proceed_killing_recast]
      exact .inl (.mk (c := c.onTask _ _) beside (.awaiting named))
  | awaiting named =>
      rw [proceed_awaiting_recast, proceed_awaiting_recast]
      split
      · exact .inl (.mk beside (.clearing named))
      · exact .inl (.mk beside (.awaiting named))
  | @clearing _ h _ _ _ named =>
      cases l with
      | some j =>
          rw [proceed_locked_recast (.inr ⟨_, _, rfl⟩), proceed_locked_recast (.inr ⟨_, _, rfl⟩)]
          exact .inl (.mk beside (.clearing named))
      | none =>
          rw [proceed_clearing_recast, proceed_clearing_recast]
          -- The driver may have left the state before; either way it names no task now.
          have idle : c.state.finish h.id = .idle := by
            rcases named with running | idle
            · simp [running, TaskState.finish, TaskState.isCurrent, TaskState.current?]
            · simp [idle, TaskState.finish]
          exact .inr (.inl (.mk (c := { c with state := _ }) beside (.mk idle)))

/-- Between the stop and the request nothing is left for the stop to do. -/
theorem Twins.pauses_own (h : Twins c₀ (Pauses r) c d) (o : Obstacles) :
    d.proceed b c₀.callers.length o = d := by
  obtain ⟨beside, paired⟩ := h
  rw [← beside.1]
  cases paired
  exact proceed_of_ended callers_recast (.inl ⟨_, rfl⟩) o

/-- The request is made once the stop has been answered. -/
theorem Twins.call (h : Twins c₀ (Pauses r) c d) :
    Twins c₀ (Restarts r c₀.callers.length) c (d.call (.invoke (r.withForce false))) ∧
      d.callers.length = c₀.callers.length + 1 ∧
      ∃ any, d.stage? c₀.callers.length = some (.answered (.stopped any)) := by
  obtain ⟨beside, paired⟩ := h
  rename_i c L ys x l l'
  rw [← beside.1]
  cases paired with
  | @mk _ any _ killed killed' idle =>
      have called : (c.recast (L ++ [⟨.answered (.stopped any), killed'⟩]) l).call
          (.invoke (r.withForce false)) = c.recast (L ++ [⟨.answered (.stopped any), killed'⟩,
            ⟨.deciding (.invoke (r.withForce false)), []⟩]) l := by
        simp [Coordinator.call, recast, Demand.stage]
      rw [called]
      exact ⟨.mk beside (.deciding idle), by simp [recast], any, by simp [stage?, recast]⟩

/-- The forced request and the other start in the same way. -/
theorem Twins.restarts_own (h : Twins c₀ (Restarts r c₀.callers.length) c d) :
    Twins c₀ (Restarts r c₀.callers.length) (c.proceed b c₀.callers.length { launch := failure })
      (d.proceed b (c₀.callers.length + 1) { launch := failure }) := by
  obtain ⟨beside, paired⟩ := h
  rename_i c L ys x l l'
  rw [← beside.1] at paired ⊢
  -- The request is the last of two behind the others.
  have two : ∀ y z : Caller, L ++ [y, z] = (L ++ [y]) ++ z :: [] := by simp
  have length : ∀ y : Caller, L.length + 1 = (L ++ [y]).length := by simp
  cases paired with
  | @deciding _ y l killed killed' idle =>
      rw [two, length y]
      cases l with
      | some j =>
          rw [proceed_locked_recast (.inl ⟨_, rfl⟩), proceed_locked_recast (.inl ⟨_, rfl⟩), ← two]
          exact .mk beside (.deciding idle)
      | none =>
          obtain ⟨d, same | same⟩ := proceed_engage_recast (b := b) idle r
          · rw [same, same, ← two, ← length]
            exact .mk beside .starting
          · rw [same, same, ← two]
            exact .mk beside .answered
  | @starting _ n y killed killed' =>
      obtain ⟨d, ⟨n', same⟩ | ⟨a, same⟩⟩ := proceed_starting_recast (b := b) c r n failure
      · rw [two, length y, same, same, ← two, ← length]
        exact .mk beside .starting
      · rw [two, length y, same, same, ← two]
        exact .mk beside .answered
  | @answered _ a y l killed killed' =>
      rw [two, length y, proceed_of_ended callers_recast (.inl ⟨_, rfl⟩),
        proceed_of_ended callers_recast (.inl ⟨_, rfl⟩), ← two]
      exact .mk beside .answered

/-- As long as the stop has no answer, the forced request has none. -/
theorem Twins.stops_unanswered (h : Twins c₀ (Stops r) c d) (a : Answer) :
    c.stage? c₀.callers.length ≠ some (.answered a) ∧
      d.stage? c₀.callers.length ≠ some (.answered a) := by
  obtain ⟨beside, paired⟩ := h
  rw [← beside.1]
  cases paired <;> simp [stage?, recast]

/-- Both are answered alike, and then they agree in all but their callers. -/
theorem Twins.restarts_answered (h : Twins c₀ (Restarts r c₀.callers.length) c d) (a : Answer) :
    (c.stage? c₀.callers.length = some (.answered a) ↔
      d.stage? (c₀.callers.length + 1) = some (.answered a)) ∧
    (c.stage? c₀.callers.length = some (.answered a) →
      c.upTo c₀.callers.length = d.upTo c₀.callers.length) := by
  obtain ⟨beside, paired⟩ := h
  rw [← beside.1] at paired ⊢
  cases paired <;> simp [stage?, recast, upTo]

/-! ## Whole calls -/

variable {beside : Event → Bool} {k' : Nat} {world world' : List Event} {c'' d' : Coordinator}

theorem GoesOn.trans (h : GoesOn b beside failure k c world c')
    (h' : GoesOn b beside failure k c' world' c'') :
    GoesOn b beside failure k c (world ++ world') c'' := by
  induction h with
  | refl c => exact h'
  | own _ ih => exact .own (ih h')
  | beside he _ ih => exact .beside he (ih h')

/-- **Lockstep**: what relates two coordinators after every step of both callers and after everything
beside them relates them after whole calls. -/
theorem GoesOn.lockstep {S : Coordinator → Coordinator → Prop}
    (own : ∀ c d, S c d →
      S (c.proceed b k { launch := failure }) (d.proceed b k' { launch := failure }))
    (world' : ∀ c d e, beside e = true → S c d → S (e.apply b c) (e.apply b d))
    (h : GoesOn b beside failure k c world c') (hr : S c d) :
    ∃ d', GoesOn b beside failure k' d world d' ∧ S c' d' := by
  induction h generalizing d with
  | refl c => exact ⟨d, .refl d, hr⟩
  | own _ ih =>
      obtain ⟨d', hd, hr'⟩ := ih (own _ d hr)
      exact ⟨d', .own hd, hr'⟩
  | beside he _ ih =>
      obtain ⟨d', hd, hr'⟩ := ih (world' _ d _ he hr)
      exact ⟨d', .beside he hd, hr'⟩

/-- From the forced request to the stop and the request behind it. -/
theorem Twins.forth {a : Answer} (hg : GoesOn b c₀.isBeside failure c₀.callers.length c world c')
    (h : Twins c₀ (Stops r) c d) (answered : c'.stage? c₀.callers.length = some (.answered a)) :
    ∃ w w' d₁ d₂, world = w ++ w' ∧
      GoesOn b c₀.isBeside failure c₀.callers.length d w d₁ ∧
      d₁.callers.length = c₀.callers.length + 1 ∧
      (∃ any, d₁.stage? c₀.callers.length = some (.answered (.stopped any))) ∧
      GoesOn b c₀.isBeside failure (c₀.callers.length + 1) (d₁.call (.invoke (r.withForce false)))
        w' d₂ ∧
      Twins c₀ (Restarts r c₀.callers.length) c' d₂ := by
  -- From the answer to the stop on, both go in step.
  have paused : ∀ {c d c' : Coordinator} {world : List Event}, Twins c₀ (Pauses r) c d →
      GoesOn b c₀.isBeside failure c₀.callers.length c world c' →
      ∃ d₂, GoesOn b c₀.isBeside failure (c₀.callers.length + 1)
          (d.call (.invoke (r.withForce false))) world d₂ ∧
        Twins c₀ (Restarts r c₀.callers.length) c' d₂ :=
    fun hp hg => hg.lockstep (fun _ _ h => h.restarts_own)
      (fun _ _ _ he h => h.beside (restarts_steady r _) he) hp.call.1
  induction hg generalizing d with
  | refl c => exact absurd answered (h.stops_unanswered a).1
  | @own c c' world rest ih =>
      rcases h.stops_own b failure with h' | hp | hp
      · obtain ⟨w, w', d₁, d₂, hw, first, more⟩ := ih h' answered
        exact ⟨w, w', d₁, d₂, hw, .own first, more⟩
      · obtain ⟨d₂, second, twins⟩ := paused hp rest
        exact ⟨[], world, _, d₂, rfl, .own (.refl _), hp.call.2.1, hp.call.2.2, second, twins⟩
      · obtain ⟨d₂, second, twins⟩ := paused hp (.own rest)
        exact ⟨[], world, _, d₂, rfl, .own (.refl _), hp.call.2.1, hp.call.2.2, second, twins⟩
  | @beside e c c' world he rest ih =>
      obtain ⟨w, w', d₁, d₂, rfl, first, more⟩ := ih (h.beside (stops_steady r) he) answered
      exact ⟨e :: w, w', d₁, d₂, rfl, .beside he first, more⟩

/-- From the stop to the forced request. -/
theorem Twins.back (hg : GoesOn b c₀.isBeside failure c₀.callers.length d world d')
    (h : Twins c₀ (Stops r) c d ∨ Twins c₀ (Pauses r) c d) :
    ∃ c', GoesOn b c₀.isBeside failure c₀.callers.length c world c' ∧
      (Twins c₀ (Stops r) c' d' ∨ Twins c₀ (Pauses r) c' d') := by
  induction hg generalizing c with
  | refl d => exact ⟨c, .refl c, h⟩
  | own _ ih =>
      rcases h with h | h
      · rcases h.stops_own b failure with h' | h' | h'
        · obtain ⟨c', hc, h''⟩ := ih (.inl h')
          exact ⟨c', .own hc, h''⟩
        · obtain ⟨c', hc, h''⟩ := ih (.inr h')
          exact ⟨c', .own hc, h''⟩
        · -- The stop has been answered by a step that the request does not take.
          exact ih (.inr h')
      · exact ih (.inr (by rwa [h.pauses_own]))
  | beside he _ ih =>
      obtain ⟨c', hc, h'⟩ := ih (h.imp (·.beside (stops_steady r) he) (·.beside (pauses_steady r) he))
      exact ⟨c', .beside he hc, h'⟩

/-- A forced request and a stop come to the same coordinator. -/
theorem twins_call (c : Coordinator) (r : TaskRequest) :
    Twins c (Stops r) (c.call (.invoke (r.withForce true))) (c.call .stop) := by
  refine .mk (c := c) (L := c.callers) ⟨rfl, fun k hk => ?_⟩ .deciding
  obtain ⟨s, hs, asking⟩ := (Option.any_eq_true _ _).mp hk
  obtain ⟨killed, hkilled⟩ := stage?_eq_some.mp hs
  exact ⟨_, hkilled, .inl asking⟩

/-- **Preemption is a stop and then a start.** A coordinator may be in any state, drivers may have been
lost, and sinks may break down.

Nobody else invokes or stops meanwhile. What a forced request comes to beside a world of
drivers, losses, the probe and those who ask for the tool's `check`, the same request unforced
comes to behind a stop, beside the same world, and the other way round: the same answer, and
with it the number of the task that was started or why there is none; and the same coordinator
but for the callers themselves, hence the same state, the same tasks with their drivers and
reports, and the same calls of sinks. -/
theorem preemption_is_stop_then_start (b : Breakdown) (c : Coordinator) (r : TaskRequest)
    (failure : Option LaunchError) (world : List Event) (a : Answer) (x : Coordinator) :
    (∃ c', Answers b c.isBeside failure (.invoke (r.withForce true)) c world a c' ∧
      c'.upTo c.callers.length = x) ↔
    ∃ w w' any c₁ c₂, world = w ++ w' ∧
      Answers b c.isBeside failure .stop c w (.stopped any) c₁ ∧
      Answers b c.isBeside failure (.invoke (r.withForce false)) c₁ w' a c₂ ∧
      c₂.upTo c.callers.length = x := by
  constructor
  · rintro ⟨c', ⟨goes, answered⟩, rfl⟩
    obtain ⟨w, w', c₁, c₂, rfl, first, length, ⟨any, stopped⟩, second, twins⟩ :=
      Twins.forth goes (twins_call c r) answered
    obtain ⟨same, agree⟩ := twins.restarts_answered a
    refine ⟨w, w', any, c₁, c₂, rfl, ⟨first, stopped⟩, ⟨?_, ?_⟩, (agree answered).symm⟩
    · rwa [length]
    · rw [length]
      exact same.mp answered
  · rintro ⟨w, w', any, c₁, c₂, rfl, ⟨first, stopped⟩, ⟨second, answered⟩, rfl⟩
    obtain ⟨c', goes, twins | twins⟩ := Twins.back first (.inl (twins_call c r))
    · exact absurd stopped (twins.stops_unanswered _).2
    · obtain ⟨called, length, -⟩ := twins.call
      rw [length] at second answered
      obtain ⟨c'', more, twins'⟩ := second.lockstep
        (S := fun d c' => Twins c (Restarts r c.callers.length) c' d)
        (fun _ _ h => h.restarts_own) (fun _ _ _ he h => h.beside (restarts_steady r _) he) called
      obtain ⟨same, agree⟩ := twins'.restarts_answered a
      exact ⟨c'', ⟨goes.trans more, same.mpr answered⟩, agree (same.mpr answered)⟩

/-- A coordinator whose task runs. -/
def busy : Coordinator :=
  run .never (new cargo) [.call (.invoke { command := "build", workingDirectory := "/w" }),
    .proceed 0 {}, .proceed 0 {}, .proceed 0 {}]

/-- The driver of its task takes notice of a kill and of the end of the process, and leaves. -/
def leaving : List Event :=
  let offer (o : Offer) : Event := .act (.drive 0 o (.ofMicros 0))
  [offer {}, offer { exit := .exited none }, offer { arrival := .ended }, offer {}, offer {}, offer {}]

/-- A forced request makes the task that runs end, and starts its own. -/
example :
    let demand : Demand := .invoke { command := "test", workingDirectory := "/w", force := true }
    let go : Event := .act (.proceed 1 {})
    Answers .never busy.isBeside none demand busy leaving (.started 2 1)
      (play .never (busy.call demand) ([go, go] ++ leaving ++ [go, go, go, go, go])) := by
  refine ⟨.own (.own ?_), by decide⟩
  refine .beside rfl (.beside rfl (.beside rfl (.beside rfl (.beside rfl (.beside rfl ?_)))))
  exact .own (.own (.own (.own (.own (.refl _)))))

end BuildRunner.Coordinator
