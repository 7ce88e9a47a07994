import BuildRunner.Proofs.Coordinator.Probe
import BuildRunner.Proofs.Coordinator.SingleFlight
import BuildRunner.Session.Basic

set_option autoImplicit false

/-! # What is typed and what is run

A typed line that asks for a task becomes a demand (`read_line`), and what is started for the demand
is what it asks for (`isRun_of_started`, `isRun_of_checking`). So every command but `check` is run with
the arguments that were typed behind it (`typed_is_run`). The arguments behind `check` are lost: its
demand has no room for them (`typed_check_loses`).
-/

namespace BuildRunner

open Coordinator (run new Action IsRun launches cargo)

/-- The commands that end a task or the session, and start nothing. -/
def Typed.endings : List String := ["stop", "quit", "exit"]

def Typed.demand (dir : String) (t : Typed) : Demand :=
  if t.command = "check" then .check dir none t.force
  else .invoke { command := t.command, args := t.args, workingDirectory := dir, force := t.force }

namespace Session

variable {text : String} {t : Typed}

/-- A line that asks for a task is carried out by the next caller. -/
theorem read_line (typed : Typed.parse text = some t) (asks : t.command ∉ Typed.endings) (dir : String)
    (k : Nat) : read dir k (.line text) = ⟨.obeying k, some (t.demand dir), []⟩ := by
  have others : t.command ≠ "stop" ∧ t.command ≠ "quit" ∧ t.command ≠ "exit" := by
    simpa [Typed.endings] using asks
  have leaves : ¬ (t.command = "quit" ∨ t.command = "exit") := not_or.mpr others.2
  simp only [read, typed, obey, if_neg leaves, if_neg others.1, Typed.demand]
  split <;> rfl

/-- The caller of a demand begins in its stage. -/
theorem stage?_call (c : Coordinator) (d : Demand) : (c.call d).stage? c.callers.length = some d.stage := by
  simp [Coordinator.stage?, Coordinator.call]

/-- **What is typed is what is run**, in every state `c` of the coordinator, whatever is done there
after a line was typed.

A line that asks for a task makes one demand. If a task is started for it, then a process was launched
for it in the directory of the session, and the command line of the task is that of this process. It
is the typed command with all of the typed arguments, in order and unchanged, behind the flags for
JSON if the command understands them. With `check` it is what the settings and the probe say instead,
whatever was typed behind it. -/
theorem typed_is_run (b : Breakdown) (c : Coordinator) (as : List Action) (dir text : String)
    (t : Typed) (typed : Typed.parse text = some t) (asks : t.command ∉ Typed.endings) :
    let k := c.callers.length
    ∃ d, read dir k (.line text) = ⟨.obeying k, some d, []⟩ ∧
      ∀ id line, (run b (c.call d) as).stage? k = some (.answered (.started id line)) →
        ∃ l, IsRun b k line l (c.call d) as ∧ l.program = c.tool.program ∧ l.workingDirectory = dir ∧
          (t.command ≠ "check" → l.arguments =
            t.command :: ((if reportsJson t.command then messageFormatFlags else []) ++ t.args)) ∧
          (t.command = "check" → ∃ s, (run b (c.call d) as).probe = .settled s ∧
            let check := s.commandFor c.tool.checkTarget
            l.arguments = check.1 :: augment check.1 check.2) := by
  intro k
  refine ⟨t.demand dir, read_line typed asks dir k, fun id line told => ?_⟩
  have begins := stage?_call c (t.demand dir)
  by_cases check : t.command = "check"
  · have asking : (c.call (t.demand dir)).stage? k = some (.probing dir (.check none t.force)) := by
      rw [begins, Typed.demand, if_pos check]
      rfl
    obtain ⟨s, settled, runs⟩ := Coordinator.isRun_of_checking asking told
    exact ⟨_, runs, rfl, rfl, fun other => absurd check other, fun _ => ⟨s, settled, rfl⟩⟩
  · have deciding : (c.call (t.demand dir)).stage? k = some (.deciding (.invoke {
        command := t.command, args := t.args, workingDirectory := dir, force := t.force })) := by
      rw [begins, Typed.demand, if_neg check]
      rfl
    have open' : (c.call (t.demand dir)).stage? k ≠ some (.answered (.started id line)) := by
      rw [deciding]
      nofun
    have runs := Coordinator.isRun_of_started ⟨_, deciding, .inl rfl⟩ open' told
    exact ⟨_, runs, rfl, rfl, fun _ => rfl, fun same => absurd same check⟩

def building : Coordinator :=
  run .never (new cargo) [.call (.invoke { command := "build", workingDirectory := "/w" }),
    .proceed 0 {}, .proceed 0 {}, .proceed 0 {}]

/-- It makes way for a caller, which then starts its own task. -/
def makingWay : List Action :=
  let go : Action := .proceed 1 {}
  let offer (o : Offer) : Action := .drive 0 o (.ofMicros 0)
  [go, go, offer {}, offer { exit := .exited none }, offer { arrival := .ended }, offer {}, offer {},
    offer {}, go, go, go, go, go]

/-- Tests are typed while a build is running, which has to make way. -/
theorem typed_is_run_makingWay :
    Typed.parse "!test  --release -- --nocapture" =
        some ⟨true, "test", ["--release", "--", "--nocapture"]⟩ ∧
      ∃ l, IsRun .never 1 1 l (building.call (.invoke {
          command := "test", args := ["--release", "--", "--nocapture"], workingDirectory := "/w"
          force := true })) makingWay ∧
        l.arguments = ["test", "--message-format", "json", "--release", "--", "--nocapture"] := by
  have typed : Typed.parse "!test  --release -- --nocapture" =
      some ⟨true, "test", ["--release", "--", "--nocapture"]⟩ := by decide
  refine ⟨typed, ?_⟩
  obtain ⟨d, reads, runs⟩ := typed_is_run .never building makingWay "/w" _ _ typed (by decide)
  rw [read_line typed (by decide)] at reads
  obtain rfl : Typed.demand "/w" _ = d := Option.some.inj (congrArg Reaction.demand reads)
  obtain ⟨l, isRun, -, -, arguments, -⟩ := runs 2 1 (by decide)
  exact ⟨l, isRun, arguments (by decide)⟩

/-- **What is typed behind `check` is lost**: `check --lib` checks everything. -/
theorem typed_check_loses :
    let c := (new cargo).call (.check "/w" none false)
    let as : List Action := [.proceed 0 {}, .follow { exit := .exited (some 0) },
      .follow { arrival := .ended }, .proceed 0 {}, .proceed 0 {}, .proceed 0 {}, .proceed 0 {}]
    Typed.parse "check --lib" = some ⟨false, "check", ["--lib"]⟩ ∧
      (read "/w" 0 (.line "check --lib")).demand = some (.check "/w" none false) ∧
      (run .never c as).stage? 0 = some (.answered (.started 1 0)) ∧
      (run .never c as).tasks.map (·.handle.commandLine) = ["cargo check --message-format json"] ∧
      (launches .never c as).map (·.arguments) =
        [["check", "--help"], ["check", "--message-format", "json"]] ∧
      ¬ ["--lib"] <:+ ["check", "--message-format", "json"] := by
  decide

end Session
end BuildRunner
