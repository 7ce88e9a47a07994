import BuildRunner.Process.Run

set_option autoImplicit false

/-! # What one turn of a run can do

`Run.Turned` lists what a turn can do, each case with what was offered; `turn_turned` says that
there is nothing else. A turn that delivers a line leaves the run where it is. A turn that ends a
run decides its result there and then: whether the process counts as killed is what this turn is
told, and not what the run has noticed before.
-/

namespace BuildRunner.Run

/-- **What a turn can do**, with the line that it delivers. A run that reads looks for a kill
first, and goes on to its streams only when the kill is noticed. -/
inductive Turned (o : Offer) : Run → Run → Option OutputLine → Prop
  | notice (killed : o.killed = true) : Turned o (.reading false) (.reading true) none
  | read {noticed : Bool} {l : OutputLine} (heeded : o.killed = true → noticed = true)
      (arrival : o.arrival = .line l) : Turned o (.reading noticed) (.reading noticed) (some l)
  | close {noticed : Bool} (heeded : o.killed = true → noticed = true)
      (arrival : o.arrival = .ended) :
      Turned o (.reading noticed) (awaitExit o.killed o.exit) none
  | exit {noticed : Bool} {code : ExitCode} (heeded : o.killed = true → noticed = true)
      (arrival : o.arrival = .nothing) (exit : o.exit = .exited code) :
      Turned o (.reading noticed) (.draining code) none
  | lose {noticed : Bool} (heeded : o.killed = true → noticed = true)
      (arrival : o.arrival = .nothing) (exit : o.exit = .lost) :
      Turned o (.reading noticed) (.ended .waitFailed) none
  | idle {noticed : Bool} (heeded : o.killed = true → noticed = true)
      (arrival : o.arrival = .nothing) (exit : o.exit = .running) :
      Turned o (.reading noticed) (.reading noticed) none
  | wait : Turned o .waiting (awaitExit o.killed o.exit) none
  | drain {code : ExitCode} {l : OutputLine} (arrival : o.arrival = .line l) :
      Turned o (.draining code) (.draining code) (some l)
  | drained {code : ExitCode} (arrival : o.arrival = .ended) :
      Turned o (.draining code) (.ended (resultOf o.killed code)) none
  | late {code : ExitCode} (arrival : o.arrival = .nothing) (late : o.isLate = true) :
      Turned o (.draining code) (.ended (resultOf o.killed code)) none
  | linger {code : ExitCode} (arrival : o.arrival = .nothing) (late : o.isLate = false) :
      Turned o (.draining code) (.draining code) none
  | rest {x : RunResult} : Turned o (.ended x) (.ended x) none

variable {r r' : Run} {o : Offer} {l : OutputLine} {x : RunResult}

theorem turn_turned (r : Run) (o : Offer) : Turned o r (r.turn o).1 (r.turn o).2 := by
  cases r with
  | reading noticed =>
      by_cases hk : o.killed = true ∧ (!noticed) = true
      · obtain rfl : noticed = false := by simpa using hk.2
        simpa [turn, hk.1] using Turned.notice hk.1
      · have heeded : o.killed = true → noticed = true := by simpa using hk
        simp only [turn, if_neg hk]
        cases ha : o.arrival with
        | line l => exact .read heeded ha
        | ended => exact .close heeded ha
        | nothing =>
            cases he : o.exit with
            | running => exact .idle heeded ha he
            | exited code => exact .exit heeded ha he
            | lost => exact .lose heeded ha he
  | waiting => exact .wait
  | draining code =>
      simp only [turn]
      cases ha : o.arrival with
      | line l => exact .drain ha
      | ended => exact .drained ha
      | nothing =>
          cases hl : o.isLate with
          | true => exact .late ha hl
          | false => exact .linger ha hl
  | ended x => exact .rest

/-- A line is delivered to a run that has not ended, and leaves it where it is. -/
theorem turn_delivered (h : r.turn o = (r', some l)) : r' = r ∧ r.result? = none := by
  have turned := turn_turned r o
  rw [h] at turned
  cases turned with
  | read _ _ | drain _ => exact ⟨rfl, rfl⟩

/-- A line that is delivered is the one that was offered. -/
theorem arrival_of_delivered (h : (r.turn o).2 = some l) : o.arrival = .line l := by
  have turned := turn_turned r o
  revert turned
  generalize (r.turn o).1 = r'
  rw [h]
  intro turned
  cases turned with
  | read _ arrival | drain arrival => exact arrival

theorem awaitExit_ne (killed : Bool) (news : ExitNews) :
    (∀ noticed, awaitExit killed news ≠ .reading noticed) ∧
      ∀ code, awaitExit killed news ≠ .draining code := by
  cases news <;> simp [awaitExit]

theorem result_awaitExit {killed : Bool} {news : ExitNews}
    (h : (awaitExit killed news).result? = some x) :
    news = .lost ∧ x = .waitFailed ∨ ∃ code, news = .exited code ∧ x = resultOf killed code := by
  cases news with
  | running => cases h
  | exited code => exact .inr ⟨code, rfl, (Option.some.inj h).symm⟩
  | lost => exact .inl ⟨rfl, (Option.some.inj h).symm⟩

/-- **The last turn of a run** finds no line, and decides the result there and then. -/
theorem Turned.ends {l? : Option OutputLine} (turned : Turned o r r' l?) (hr : r.result? = none)
    (h : r'.result? = some x) :
    (r = .waiting ∨ ∀ l, o.arrival ≠ .line l) ∧
      (o.exit = .lost ∧ x = .waitFailed ∨
        ∃ code, (o.exit = .exited code ∨ r = .draining code) ∧ x = resultOf o.killed code) := by
  have awaited : (awaitExit o.killed o.exit).result? = some x → o.exit = .lost ∧ x = .waitFailed ∨
      ∃ code, (o.exit = .exited code ∨ r = .draining code) ∧ x = resultOf o.killed code :=
    fun h => (result_awaitExit h).imp_right fun ⟨code, news, hx⟩ => ⟨code, .inl news, hx⟩
  cases turned with
  | close _ arrival => exact ⟨.inr fun l => by rw [arrival]; exact nofun, awaited h⟩
  | wait => exact ⟨.inl rfl, awaited h⟩
  | lose _ arrival news =>
      exact ⟨.inr fun l => by rw [arrival]; exact nofun, .inl ⟨news, (Option.some.inj h).symm⟩⟩
  | drained arrival | late arrival _ =>
      exact ⟨.inr fun l => by rw [arrival]; exact nofun,
        .inr ⟨_, .inr rfl, (Option.some.inj h).symm⟩⟩
  | rest => cases hr
  | _ => cases h

/-- **The result of a run that ends** is decided in its last turn. -/
theorem result_turn (hr : r.result? = none) (h : (r.turn o).1.result? = some x) :
    x = .waitFailed ∨ ∃ code, x = resultOf o.killed code :=
  ((turn_turned r o).ends hr h).2.imp And.right fun ⟨code, _, hx⟩ => ⟨code, hx⟩

end BuildRunner.Run
