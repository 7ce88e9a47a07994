import BuildRunner.Proofs.Coordinator.Actor

set_option autoImplicit false

/-! # The steps of one caller

What a caller does is given by its stage. The equations say it stage by stage; the record of a caller
that starts a request is followed up to its answer (`callers_engage`, `callers_start`).
-/

namespace BuildRunner.Coordinator

variable {b : Breakdown} {c : Coordinator} {k : Nat} {s : Stage} {killed : List TaskId} {p : Purpose}
  {h : TaskHandle} {r : TaskRequest}

/-! ## By stage -/

/-- A caller that looks at the state or changes it waits for the lock. -/
theorem proceed_of_locked (hk : c.callers[k]? = some ⟨s, killed⟩) (locked : c.lock ≠ none)
    (waits : (∃ p, s = .deciding p) ∨ ∃ p h, s = .clearing p h) (o : Obstacles) :
    c.proceed b k o = c := by
  have hl : c.isLocked = true := by simpa [isLocked, Option.isSome_iff_ne_none] using locked
  rcases waits with ⟨p, rfl⟩ | ⟨p, h, rfl⟩ <;> simp [proceed, hk, hl]

theorem proceed_of_deciding (hk : c.callers[k]? = some ⟨.deciding p, killed⟩) (free : c.lock = none)
    (o : Obstacles) : c.proceed b k o = c.decide b k p := by
  simp [proceed, hk, isLocked, free]

/-- A stop, or a request that is forced, aims at the running task. -/
theorem decide_of_running (running : c.state = .running h)
    (forced : ∀ r, p = .invoke r → r.force = true) : c.decide b k p = c.setStage k (.killing p h) := by
  cases p with
  | stop => simp [decide, running, TaskState.current?]
  | invoke r => simp [decide, running, TaskState.decide, forced r rfl]

/-- Any request starts its task in an idle state. -/
theorem decide_of_idle (idle : c.state = .idle) : c.decide b k (.invoke r) = c.engage b k r := by
  simp [decide, idle, TaskState.decide]

theorem proceed_of_awaiting (hk : c.callers[k]? = some ⟨.awaiting p h, killed⟩) (o : Obstacles) :
    c.proceed b k o = if c.isOver h.line then c.setStage k (.clearing p h) else c := by
  simp [proceed, hk]

theorem proceed_of_clearing (hk : c.callers[k]? = some ⟨.clearing p h, killed⟩)
    (free : c.lock = none) (o : Obstacles) :
    c.proceed b k o = { c with state := c.state.finish h.id }.setStage k (afterClearing p) := by
  simp [proceed, hk, isLocked, free]

theorem proceed_of_starting {n : Starting} (hk : c.callers[k]? = some ⟨.starting r n, killed⟩)
    (o : Obstacles) : c.proceed b k o = c.start b k r o.launch n := by
  simp [proceed, hk]

theorem engage_eq : c.engage b k r =
    if b c.calls .clear then
      ({ c with calls := .clear :: c.calls, lock := none } : Coordinator).setStage k
        (.answered .broken)
    else
      ({ c with calls := .clear :: c.calls, lock := some k } : Coordinator).setStage k
        (.starting r .announcing) := by
  unfold engage emit
  cases b c.calls .clear <;> rfl

theorem start_announcing (failure : Option LaunchError) : c.start b k r failure .announcing =
    if b c.calls (.text (c.tool.announcement r)) then
      ({ c with calls := .text (c.tool.announcement r) :: c.calls, lock := none } :
        Coordinator).setStage k (.answered .broken)
    else
      ({ c with calls := .text (c.tool.announcement r) :: c.calls } : Coordinator).setStage k
        (.starting r .launching) := by
  unfold start emit
  cases b c.calls (.text (c.tool.announcement r)) <;> rfl

theorem start_notifying (failure : Option LaunchError) (e : LaunchError) :
    c.start b k r failure (.notifying e) =
      ({ c with calls := .notify (.toolNotAvailable c.tool.program) :: c.calls, lock := none } :
        Coordinator).setStage k (.answered
          (if b c.calls (.notify (.toolNotAvailable c.tool.program)) then .broken else .failed e)) := by
  unfold start emit
  cases b c.calls (.notify (.toolNotAvailable c.tool.program)) <;> rfl

/-- A caller whose call has ended does nothing more. -/
theorem proceed_of_ended (hk : c.callers[k]? = some ⟨s, killed⟩)
    (ended : (∃ a, s = .answered a) ∨ ∃ reason, s = .unsignalled reason) (o : Obstacles) :
    c.proceed b k o = c := by
  rcases ended with ⟨a, rfl⟩ | ⟨reason, rfl⟩ <;> simp [proceed, hk]

/-! ## The record of a caller -/

theorem callers_setStage (hk : c.callers[k]? = some ⟨s, killed⟩) (s' : Stage) :
    (c.setStage k s').callers[k]? = some ⟨s', killed⟩ := by
  simp [setStage, hk]

/-- A caller begins its start, unless a sink breaks down. -/
theorem callers_engage (hk : c.callers[k]? = some ⟨s, killed⟩) :
    (c.engage b k r).callers[k]? = some ⟨.starting r .announcing, killed⟩ ∨
      (c.engage b k r).callers[k]? = some ⟨.answered .broken, killed⟩ := by
  rw [engage_eq]
  split
  · exact .inr (callers_setStage (c := { c with calls := _, lock := _ }) hk _)
  · exact .inl (callers_setStage (c := { c with calls := _, lock := _ }) hk _)

inductive Starting.Leads : Starting → Starting → Prop
  | announced : Leads .announcing .launching
  | failed (e : LaunchError) : Leads .launching (.notifying e)

/-- A start goes on to its next stage, or is answered; a request that is started is not dropped. -/
theorem callers_start {n : Starting} (failure : Option LaunchError)
    (hk : c.callers[k]? = some ⟨.starting r n, killed⟩) :
    (∃ n', Starting.Leads n n' ∧
      (c.start b k r failure n).callers[k]? = some ⟨.starting r n', killed⟩) ∨
    ∃ a, a ≠ .dropped ∧ (c.start b k r failure n).callers[k]? = some ⟨.answered a, killed⟩ := by
  cases n with
  | announcing =>
      rw [start_announcing]
      split
      · exact .inr ⟨.broken, nofun, callers_setStage (c := { c with calls := _, lock := _ }) hk _⟩
      · exact .inl ⟨.launching, .announced, callers_setStage (c := { c with calls := _ }) hk _⟩
  | launching =>
      cases failure with
      | none =>
          exact .inr ⟨.started c.nextId c.tasks.length, nofun,
            callers_setStage (c := { c.register r with lock := _ }) hk _⟩
      | some e => exact .inl ⟨.notifying e, .failed e, callers_setStage hk _⟩
  | notifying e =>
      rw [start_notifying]
      refine .inr ⟨_, ?_, callers_setStage (c := { c with calls := _, lock := _ }) hk _⟩
      split <;> nofun

end BuildRunner.Coordinator
