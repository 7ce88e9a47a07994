import BuildRunner.Proofs.Coordinator.Errand
import BuildRunner.Proofs.Session.Play
import BuildRunner.Session.Opening

set_option autoImplicit false

/-! # The status of a session with one task

A session that is asked for one task runs one errand (`OnErrand`), and when the errand is over it ends
with a status that follows from the fate of the process (`OnErrand.status`). It never gets stuck: from
every moment on, some steps lead to its end once the fate is known (`OnErrand.exists_end`).

`exit_status_tells` says what this means for the program with its arguments, which may end before a
session begins.
-/

namespace BuildRunner

open Coordinator (Action new step run Errand)
open Host (Files Surroundings)

namespace Sitting

def status? (s : Sitting) : Option Nat :=
  match s.stage with
  | .finished n => some n
  | _ => none

theorem status?_eq_some {s : Sitting} {n : Nat} : s.status? = some n ↔ s.stage = .finished n := by
  unfold status?
  cases s.stage <;> simp

/-- Whatever a step tells of the exit of a task's process is **its fate**. -/
def Step.tells (fate : ExitNews) : Step → Bool
  | .act (.drive _ o _) => o.tells fate
  | _ => true

def Step.isInterrupt : Step → Bool
  | .notice .interrupt => true
  | _ => false

/-- A step of a session that **nobody interrupts**, and whose process has a fate. -/
structure Step.Calm (fate : ExitNews) (x : Step) : Prop where
  tells : x.tells fate = true
  uninterrupted : x.isInterrupt = false

instance (fate : ExitNews) (x : Step) : Decidable (x.Calm fate) :=
  decidable_of_iff (x.tells fate = true ∧ x.isInterrupt = false)
    ⟨fun h => ⟨h.1, h.2⟩, fun h => ⟨h.tells, h.uninterrupted⟩⟩

variable {fate : ExitNews} {s s' : Sitting} {x : Step} {xs : List Step} {n : Nat}

/-- A session with a single task is in a stage, and its coordinator is as it should be there. -/
def IsWaiting (c : Coordinator) : Session.Stage → Prop
  | .starting k => k = 0 ∧ ∃ st, c.stage? 0 = some st
  | .running line => line = 0 ∧ c.tasks ≠ []
  | .finished n =>
    c.tasks = [] ∧ n = Session.failure ∨
      ∃ t r, c.tasks = [t] ∧ t.driver = .done r ∧ n = Session.status r
  | _ => False

/-- **What holds of a session with a single task**, at every moment. -/
structure OnErrand (fate : ExitNews) (s : Sitting) : Prop where
  serial : s.Serial
  errand : s.coordinator.Errand fate
  stage : IsWaiting s.coordinator s.stage

/-! ## Every moment -/

/-- An only task that has its result keeps it when nobody goes on. -/
theorem done_of_serial {c : Coordinator} {t : Task} {r : TicketResult} (hc : c.Serial none)
    (tasks : c.tasks = [t]) (done : t.driver = .done r) (b : Breakdown) (a : Action) :
    ∃ t', (step b c a).tasks = [t'] ∧ t'.driver = .done r := by
  have one : (step b c a).tasks.length = 1 := by rw [hc.length_step, tasks]; rfl
  obtain ⟨t', tasks'⟩ := List.length_eq_one_iff.mp one
  have ht' : (step b c a).tasks[0]? = some t' := by rw [tasks']; rfl
  refine ⟨t', tasks', ?_⟩
  rcases (Coordinator.step_move b c a).task ht' with ⟨t₀, old, same⟩ | ⟨fresh, -⟩
  · rw [tasks] at old
    obtain rfl : t = t₀ := Option.some.inj old
    rcases same with rfl | change
    · exact done
    · exact change.done done
  · rw [tasks] at fresh
    cases fresh

/-- A step in the coordinator leaves a session with its errand where it is. -/
theorem OnErrand.act (hs : s.OnErrand fate) {a : Action} (nobody : ∀ d, a ≠ .call d)
    (tells : (Step.act a).tells fate = true) :
    OnErrand fate { s with coordinator := step .never s.coordinator a } := by
  have errand : (step .never s.coordinator a).Errand fate := by
    refine hs.errand.step hs.serial nobody fun i o elapsed drives => ?_
    subst drives
    exact tells
  refine ⟨hs.serial.moved (.act nobody), errand, ?_⟩
  have serial : s.coordinator.Serial s.stage.caller? := hs.serial
  have waiting := hs.stage
  dsimp only
  -- No step in the coordinator changes the stage; what is to be kept is what the stage says of it.
  cases stage : s.stage with
  | starting k =>
      rw [stage] at waiting
      obtain ⟨first, st, hk⟩ := waiting
      exact ⟨first, Coordinator.step_stage?_some hk .never a⟩
  | running line =>
      rw [stage] at waiting
      obtain ⟨first, launched⟩ := waiting
      refine ⟨first, fun none' => launched ?_⟩
      have grows := (Coordinator.step_move .never s.coordinator a).length_le
      rw [none'] at grows
      exact List.length_eq_zero_iff.mp (Nat.le_zero.mp grows)
  | finished n =>
      rw [stage] at waiting serial
      rcases waiting with ⟨none', failed⟩ | ⟨t, r, tasks, done, status⟩
      · refine .inl ⟨List.length_eq_zero_iff.mp ?_, failed⟩
        rw [Coordinator.Serial.length_step serial, none']
        rfl
      · obtain ⟨t', tasks', done'⟩ := done_of_serial serial tasks done .never a
        exact .inr ⟨t', r, tasks', done', status⟩
  | interrupting k | reading | obeying k | stopping k | leaving k =>
      rw [stage] at waiting
      exact waiting

/-- A session with its errand **goes on** when its call has ended, and ends when its task has a result. -/
theorem OnErrand.goOn (hs : s.OnErrand fate) {time : String} {r : Session.Reaction}
    (goes : Session.goOn time s.coordinator s.stage = some r) : (s.react r).OnErrand fate := by
  obtain ⟨silent, -, -⟩ := Session.goOn_cases goes
  have same := react_silent (s := s) silent
  refine ⟨hs.serial.moved (b := .never) (.goOn goes), same ▸ hs.errand, ?_⟩
  rw [same]
  show IsWaiting s.coordinator r.stage
  have waiting := hs.stage
  cases stage : s.stage with
  | starting k =>
      rw [stage] at goes waiting
      obtain ⟨rfl, -⟩ := waiting
      obtain ⟨e, ended, rfl⟩ := Option.map_eq_some_iff.mp goes
      cases hs.errand with
      -- No task was started, so the call has ended without one.
      | before only tasks untold =>
          split
          · rename_i id line
            refine absurd ?_ (untold id line)
            unfold Session.ending? at ended
            split at ended
            · rename_i told
              rw [told]
              cases ended
              rfl
            · cases ended
            · cases ended
          · exact .inl ⟨tasks, rfl⟩
      | started id t only tasks told meets =>
          obtain rfl : .ok (.started id 0) = e := by simpa [Session.ending?, told] using ended
          exact ⟨rfl, by simp [tasks]⟩
  | running line =>
      rw [stage] at goes waiting
      obtain ⟨rfl, launched⟩ := waiting
      obtain ⟨result, found, rfl⟩ := Option.map_eq_some_iff.mp goes
      cases hs.errand with
      | before only tasks untold => exact absurd tasks launched
      | started id t only tasks told meets =>
          refine .inr ⟨t, result, tasks, ?_, rfl⟩
          have found : t.result? = some result := by simpa [Session.result?, tasks] using found
          unfold Task.result? at found
          split at found
          · rename_i done
            rw [done, Option.some.inj found]
          · cases found
  | finished n | reading =>
      rw [stage] at goes
      cases goes
  | interrupting k | obeying k | stopping k | leaving k =>
      rw [stage] at waiting
      exact waiting.elim

theorem OnErrand.moved (hs : s.OnErrand fate) (moved : Moved .never s x s') (calm : x.Calm fate) :
    s'.OnErrand fate := by
  cases moved with
  | rest => exact hs
  | act nobody => exact hs.act nobody calm.tells
  | goOn goes => exact hs.goOn goes
  | notice noticed =>
      rcases Session.notice_cases noticed with ⟨reads, -⟩ | ⟨-, rfl, -⟩
      · have waiting := hs.stage
        rw [reads] at waiting
        exact waiting.elim
      · have quiet := calm.uninterrupted
        cases quiet

theorem onErrand_begin {w : CommandLine.Work} (single : w ≠ .interactive) (tool : Tool) (dir : String)
    (fate : ExitNews) : (begin tool dir w).OnErrand fate := by
  obtain ⟨d, demands⟩ : ∃ d, Session.demandOf dir w = some d := by
    cases w with
    | task command args => exact ⟨_, rfl⟩
    | check library => exact ⟨_, rfl⟩
    | interactive => exact absurd rfl single
  have begins : begin tool dir w = ⟨dir, (new tool).call d, .starting 0⟩ := by
    rw [begin, Session.opening, demands]
    rfl
  refine ⟨serial_begin tool dir w, ?_, ?_⟩ <;> rw [begins]
  · exact Coordinator.errand_call tool d fate
  · exact ⟨rfl, d.stage, by simp [Coordinator.stage?, Coordinator.call, new]⟩

theorem OnErrand.play (hs : s.OnErrand fate) (calm : ∀ x ∈ xs, x.Calm fate) :
    (play .never s xs).OnErrand fate :=
  play_induction (fun _ _ _ moved calm hs => hs.moved moved calm) hs calm

/-- **The status** of a session with a single task follows from the fate of its process. -/
theorem OnErrand.status (hs : s.OnErrand fate) (isOver : s.stage = .finished n) :
    s.coordinator.tasks = [] ∧ n = Session.failure ∨
      s.coordinator.tasks ≠ [] ∧ (fate = .lost ∧ n = Session.failure ∨
        ∃ code, fate = .exited code ∧ n = Session.statusOf code) := by
  have waiting := hs.stage
  rw [isOver] at waiting
  rcases waiting with failed | ⟨t, r, tasks, done, rfl⟩
  · exact .inl failed
  · refine .inr ⟨by simp [tasks], ?_⟩
    cases hs.errand with
    | before only none' untold =>
        rw [none'] at tasks
        cases tasks
    | started id t' only tasks' told meets =>
        obtain rfl : t' = t := List.head_eq_of_cons_eq (tasks'.symm.trans tasks)
        have meets := meets.driver
        rw [done] at meets
        cases r with
        | failed e => exact .inl ⟨meets, rfl⟩
        | report x =>
            obtain ⟨code, elapsed, exited, told⟩ := meets
            exact .inr ⟨code, told, by rw [Session.status, exited]⟩

/-! ## Getting to the end -/

/-- A bound on the steps of a session with a single task that are **still to come**. -/
def rank (s : Sitting) : Nat :=
  let left := ((s.coordinator.tasks[0]?).map fun t => t.driver.rank).getD 8
  match s.stage with
  | .starting k => ((s.coordinator.stage? k).map (Stage.rank s.coordinator.probe)).getD 0 + left + 2
  | .running _ => left + 1
  | _ => 0

/-- A step in the coordinator that brings the only call nearer to its end brings the session nearer to
its own. -/
theorem rank_lt_of_call (stage : s.stage = .starting 0) {st : Stage}
    (hk : s.coordinator.stage? 0 = some st) (tasks : s.coordinator.tasks = []) {a : Action}
    {st' : Stage} (hk' : (step .never s.coordinator a).stage? 0 = some st')
    (nearer : st'.rank (step .never s.coordinator a).probe < st.rank s.coordinator.probe) :
    rank { s with coordinator := step .never s.coordinator a } < s.rank := by
  have left : (((step .never s.coordinator a).tasks[0]?).map fun t => t.driver.rank).getD 8 = 8 := by
    cases ht : (step .never s.coordinator a).tasks[0]? with
    | none => rfl
    | some t =>
        rcases (Coordinator.step_move .never s.coordinator a).task ht with
          ⟨t₀, old, -⟩ | ⟨-, k, r, -, rfl, -⟩
        · rw [tasks] at old
          cases old
        · rfl
  simp only [rank, stage, hk, hk', left, tasks, Option.map_some, Option.getD_some, List.getElem?_nil,
    Option.map_none, Option.getD_none]
  omega

/-- Whatever serves a call interrupts nobody and tells nothing of a task. -/
theorem calm_of_serves {a : Action} (serves : a.serves = true) (b : Breakdown) (s : Sitting) :
    (Step.act a).Calm fate ∧ s.apply b (.act a) = { s with coordinator := step b s.coordinator a } := by
  cases a with
  | proceed k o | follow o => exact ⟨⟨rfl, rfl⟩, rfl⟩
  | call d | drive line o elapsed => cases serves

/-- While its only task is being started, a session is led on: by a step that brings the call nearer to
its end, or by going on when the call has ended. -/
theorem OnErrand.exists_step_of_starting (hs : s.OnErrand fate) {k : Nat} (stage : s.stage = .starting k) :
    ∃ x, x.Calm fate ∧ (s.apply .never x).rank < s.rank := by
  have waiting := hs.stage
  have serial : s.coordinator.Serial s.stage.caller? := hs.serial
  rw [stage] at waiting serial
  obtain ⟨rfl, st, hk⟩ := waiting
  by_cases ended : st.isEnded = true
  · refine ⟨.goOn "", ⟨rfl, rfl⟩, ?_⟩
    obtain ⟨e, he⟩ := Option.isSome_iff_exists.mp (Session.ending?_isSome.mpr ⟨st, hk, ended⟩)
    simp only [apply, Session.goOn, stage, he, Option.map_some, Option.getD_some]
    split
    · simp only [rank, react, stage, Option.elim_none]
      omega
    · simp only [rank, react, stage]
      omega
  · cases hs.errand with
    | before only tasks untold =>
        obtain ⟨a, serves, st', hk', nearer⟩ :=
          Coordinator.Serial.getsOn serial tasks hk ((Bool.not_eq_true _).mp ended)
        obtain ⟨calm, acts⟩ := calm_of_serves serves .never s
        refine ⟨.act a, calm, ?_⟩
        rw [acts]
        exact rank_lt_of_call stage hk tasks hk' nearer
    | started id t only tasks told meets =>
        obtain rfl := Option.some.inj (hk.symm.trans told)
        exact absurd rfl ended

/-- While its only task is running, a session is led on by the driver, or by going on when the task has
its result. -/
theorem OnErrand.exists_step_of_running (hs : s.OnErrand fate) (known : fate ≠ .running) {line : Nat}
    (stage : s.stage = .running line) : ∃ x, x.Calm fate ∧ (s.apply .never x).rank < s.rank := by
  have waiting := hs.stage
  have serial : s.coordinator.Serial s.stage.caller? := hs.serial
  rw [stage] at waiting serial
  obtain ⟨rfl, launched⟩ := waiting
  cases hs.errand with
  | before only tasks untold => exact absurd tasks launched
  | started id t only tasks told meets =>
      have ht : s.coordinator.tasks[0]? = some t := by rw [tasks]; rfl
      cases result : t.result? with
      | some r =>
          refine ⟨.goOn "", ⟨rfl, rfl⟩, ?_⟩
          have found : Session.result? s.coordinator 0 = some r := by
            simp [Session.result?, ht, result]
          simp [apply, Session.goOn, stage, found, rank, react]
      | none =>
          have free : s.coordinator.lock = none :=
            Coordinator.Serial.free serial fun _ _ calls => by cases calls
          obtain ⟨t', tasks', less⟩ :=
            Coordinator.drive_rank ht meets known free result (.ofMicros 0)
          refine ⟨.act (.drive 0 (Run.lastOffer fate) (.ofMicros 0)), ⟨?_, rfl⟩, ?_⟩
          · exact decide_eq_true (.inr rfl)
          · simpa [apply, rank, stage, step, tasks', tasks] using less

/-- **Some step leads on** from every moment before the end. -/
theorem OnErrand.exists_step (hs : s.OnErrand fate) (known : fate ≠ .running)
    (open' : s.status? = none) : ∃ x, x.Calm fate ∧ (s.apply .never x).rank < s.rank := by
  have waiting := hs.stage
  cases stage : s.stage with
  | starting k => exact hs.exists_step_of_starting stage
  | running line => exact hs.exists_step_of_running known stage
  | finished n => simp [status?, stage] at open'
  | interrupting k | reading | obeying k | stopping k | leaving k =>
      rw [stage] at waiting
      exact waiting.elim

/-- **A session with a single task can always come to its end** when the fate of its process is
known. -/
theorem OnErrand.exists_end (hs : s.OnErrand fate) (known : fate ≠ .running) :
    ∃ ys : List Step, (∀ y ∈ ys, y.Calm fate) ∧ (Sitting.play .never s ys).status?.isSome = true := by
  induction hn : s.rank using Nat.strongRecOn generalizing s with
  | ind n ih =>
      cases open' : s.status? with
      | some n => exact ⟨[], nofun, by rw [show Sitting.play .never s [] = s from rfl, open']; rfl⟩
      | none =>
          obtain ⟨x, calm, less⟩ := hs.exists_step known open'
          have next := hs.moved (apply_moved .never s x) calm
          obtain ⟨ys, calms, ends⟩ := ih _ (hn ▸ less) next rfl
          exact ⟨x :: ys, List.forall_mem_cons.mpr ⟨calm, calms⟩, ends⟩

end Sitting

/-! ## The program -/

theorem Host.Files.isDirectoryAt_eq_true {fs : Files} {dir : Option Host.Place} {path : String} :
    fs.isDirectoryAt dir path = true ↔
      ∃ p, fs.locate dir path = .ok p ∧ fs.isDirectory p = true := by
  unfold isDirectoryAt
  cases fs.locate dir path <;> simp

namespace Session

/-- **There is a directory to work in**: a path was named, or else the current directory is known and
has one, and what stands at this path is a directory. -/
def HasDirectory (fs : Files) (s : Surroundings) (a : CommandLine.Asked) : Prop :=
  ∃ path p, a.directory.or (s.directory.map Host.Place.path) = some path ∧
    fs.locate s.directory path = .ok p ∧ fs.isDirectory p = true

variable {time : String} {fs : Files} {s : Surroundings} {args : List String} {a : CommandLine.Asked}

theorem directory_eq_ok {dir : String} :
    directory fs s a = .ok dir ↔ path? s a = some dir ∧ fs.isDirectoryAt s.directory dir = true := by
  unfold directory
  cases path? s a with
  | none => simp
  | some path =>
      dsimp only
      by_cases there : fs.isDirectoryAt s.directory path = true
      · rw [if_pos there, Except.ok.injEq, Option.some.injEq]
        constructor
        · rintro rfl
          exact ⟨rfl, there⟩
        · exact fun h => h.1
      · rw [if_neg there]
        simp only [reduceCtorEq, Option.some.injEq, false_iff]
        rintro ⟨rfl, h⟩
        exact there h

theorem directory_isOk_iff : (∃ dir, directory fs s a = .ok dir) ↔ HasDirectory fs s a := by
  simp only [directory_eq_ok, Host.Files.isDirectoryAt_eq_true, HasDirectory, path?, exists_and_left]

/-- **The program with its arguments**, after some steps: the session that has begun, or the farewell
before it. -/
def sitting (time : String) (fs : Files) (s : Surroundings) (args : List String)
    (xs : List Sitting.Step) : Except Farewell Sitting :=
  (ofArgs time fs s args).map fun p => (Sitting.begin p.tool p.directory p.work).play .never xs

def exitStatus? (x : Except Farewell Sitting) : Option Nat :=
  match x with
  | .error f => some f.status
  | .ok s => s.status?

/-- Whether the process of a task **was launched**: exactly then there is a task. -/
def hasLaunched (x : Except Farewell Sitting) : Bool :=
  match x with
  | .error _ => false
  | .ok s => !s.coordinator.tasks.isEmpty

/-- A session begins exactly if the settings are loaded and there is a directory to work in. -/
theorem ofArgs_cases (asked : CommandLine.parse args = .ok a) (time : String) (fs : Files)
    (s : Surroundings) :
    (((∃ config, settings fs s a = .ok config) ∧ HasDirectory fs s a) ∧
      ∃ tool dir, ofArgs time fs s args = .ok ⟨a.work, tool, dir⟩) ∨
    (¬ ((∃ config, settings fs s a = .ok config) ∧ HasDirectory fs s a) ∧
      ∃ f, ofArgs time fs s args = .error f ∧ f.status = misuse) := by
  simp only [ofArgs, asked, prepare]
  rw [← directory_isOk_iff]
  cases settings fs s a with
  | error e => exact .inr ⟨by simp, _, rfl, rfl⟩
  | ok config =>
      cases directory fs s a with
      | error reason => exact .inr ⟨by simp, _, rfl, rfl⟩
      | ok dir => exact .inl ⟨⟨⟨config, rfl⟩, dir, rfl⟩, _, dir, rfl⟩

/-- The status of a process that has exited **is its code** where it can be, -/
theorem statusOf_some {code : Int} (h : 0 ≤ code ∧ code ≤ 255) : (statusOf (some code) : Int) = code := by
  rw [statusOf, if_pos h]
  omega

/-- and failure everywhere else; -/
theorem statusOf_of_other {code : ExitCode} (h : ∀ n, code = some n → ¬ (0 ≤ n ∧ n ≤ 255)) :
    statusOf code = failure := by
  cases code with
  | none => rfl
  | some n => rw [statusOf, if_neg (h n rfl)]

/-- so it is 0 for the code 0 only. -/
theorem statusOf_eq_zero_iff {code : ExitCode} : statusOf code = 0 ↔ code = some 0 := by
  constructor
  · intro zero
    by_cases inside : ∃ n : Int, code = some n ∧ 0 ≤ n ∧ n ≤ 255
    · obtain ⟨n, rfl, range⟩ := inside
      have same := statusOf_some range
      rw [zero] at same
      rw [← same]
      rfl
    · have failed := statusOf_of_other fun n told range => inside ⟨n, told, range⟩
      rw [zero] at failed
      cases failed
  · rintro rfl
    rfl

/-- **The status of a session with a single task** tells whether its process was launched and how it has
exited. -/
theorem status_tells {y : Sitting} {fate : ExitNews} {n : Nat} (hs : y.OnErrand fate)
    (isOver : y.stage = .finished n) :
    (n = 0 ↔ y.coordinator.tasks ≠ [] ∧ fate = .exited (some 0)) ∧
    (∀ code : Int, y.coordinator.tasks ≠ [] → fate = .exited (some code) → 1 ≤ code → code ≤ 255 →
      n = code) ∧
    ((y.coordinator.tasks ≠ [] → ∀ code : Int, fate = .exited (some code) →
      ¬ (0 ≤ code ∧ code ≤ 255)) → n = 1) := by
  rcases hs.status isOver with ⟨none', rfl⟩ | ⟨launched, ⟨rfl, rfl⟩ | ⟨code, rfl, rfl⟩⟩
  · exact ⟨⟨nofun, fun h => absurd none' h.1⟩, fun code h => absurd none' h, fun _ => rfl⟩
  · exact ⟨⟨nofun, fun h => nomatch h.2⟩, nofun, fun _ => rfl⟩
  · refine ⟨?_, fun n _ exited low high => ?_, fun other => ?_⟩
    · rw [statusOf_eq_zero_iff]
      exact ⟨fun zero => ⟨launched, congrArg ExitNews.exited zero⟩, fun h => ExitNews.exited.inj h.2⟩
    · rw [ExitNews.exited.inj exited]
      exact statusOf_some ⟨by omega, high⟩
    · exact statusOf_of_other fun n told => other launched n (congrArg ExitNews.exited told)

/-- The result of the task, if there is one, decides the status. -/
theorem status_of_result {y : Sitting} {fate : ExitNews} {n : Nat} {t : Task} (hs : y.OnErrand fate)
    (isOver : y.stage = .finished n) (ht : t ∈ y.coordinator.tasks) :
    ∃ r, t.result? = some r ∧ n = status r := by
  have waiting := hs.stage
  rw [isOver] at waiting
  rcases waiting with ⟨tasks, -⟩ | ⟨t', r, tasks, done, told⟩
  · rw [tasks] at ht
    cases ht
  · obtain rfl : t = t' := by simpa [tasks] using ht
    exact ⟨r, by rw [Task.result?, done], told⟩

/-- **The exit status tells the truth**, for every command line that asks for one task, all files and
settings, and however the process behaves, as long as nobody interrupts the program and nothing breaks
down.

The status is 0 exactly if the settings were loaded, there is a directory to work in, the process was
launched, and it has exited with 0. It is 2 if there are no settings or no directory, the code of the
process if that is between 1 and 255, and 1 in every other case. If there is a task, its result decides
the status. Once the fate of the process is known, the program can always come to its end. -/
theorem exit_status_tells (time : String) (fs : Files) (s : Surroundings) (args : List String)
    (a : CommandLine.Asked) (fate : ExitNews) (xs : List Sitting.Step)
    (asked : CommandLine.parse args = .ok a) (single : a.work ≠ .interactive)
    (calm : ∀ x ∈ xs, x.Calm fate) :
    let program := sitting time fs s args
    let loaded := ∃ config, settings fs s a = .ok config
    let placed := HasDirectory fs s a
    let launched := hasLaunched (program xs) = true
    (∀ n, exitStatus? (program xs) = some n →
      (n = 0 ↔ loaded ∧ placed ∧ launched ∧ fate = .exited (some 0)) ∧
      (¬ (loaded ∧ placed) → n = 2) ∧
      (∀ code : Int, loaded → placed → launched → fate = .exited (some code) → 1 ≤ code → code ≤ 255 →
        n = code) ∧
      (loaded → placed → (launched → ∀ code : Int, fate = .exited (some code) →
        ¬ (0 ≤ code ∧ code ≤ 255)) → n = 1)) ∧
    (∀ y n, program xs = .ok y → y.stage = .finished n → ∀ t ∈ y.coordinator.tasks,
      ∃ r, t.result? = some r ∧ n = status r) ∧
    (fate ≠ .running → ∃ ys : List Sitting.Step, (∀ y ∈ ys, y.Calm fate) ∧
      (exitStatus? (program (xs ++ ys))).isSome = true) := by
  intro program loaded placed launched
  -- Either a session begins, and all is about its errand, or the program has ended before with 2.
  rcases ofArgs_cases asked time fs s with ⟨ready, tool, dir, begins⟩ | ⟨unready, f, ends, two⟩
  · let y := (Sitting.begin tool dir a.work).play .never xs
    have begun : ∀ ys, program ys = .ok ((Sitting.begin tool dir a.work).play .never ys) := by
      intro ys
      simp only [program, sitting, begins]
      rfl
    have hs : y.OnErrand fate := (Sitting.onErrand_begin single tool dir fate).play calm
    have launched_iff : launched ↔ y.coordinator.tasks ≠ [] := by
      simp [launched, begun, hasLaunched, y]
    refine ⟨fun n told => ?_, fun y' n same isOver t ht => ?_, fun known => ?_⟩
    · have isOver : y.stage = .finished n := by
        rw [begun] at told
        exact Sitting.status?_eq_some.mp told
      obtain ⟨zero, own, failed⟩ := status_tells hs isOver
      rw [← launched_iff] at zero own failed
      exact ⟨zero.trans ⟨fun h => ⟨ready.1, ready.2, h⟩, fun h => h.2.2⟩, fun h => absurd ready h,
        fun code _ _ => own code, fun _ _ => failed⟩
    · obtain rfl : y = y' := Except.ok.inj ((begun xs).symm.trans same)
      exact status_of_result hs isOver ht
    · -- A play behind a play is one play, so the errand can be led to its end.
      obtain ⟨ys, calms, isOver⟩ := hs.exists_end known
      refine ⟨ys, calms, ?_⟩
      rw [begun, Sitting.play_append]
      exact isOver
  · have ended : ∀ ys, program ys = .error f := by
      intro ys
      simp only [program, sitting, ends]
      rfl
    refine ⟨fun n told => ?_, fun y n same => ?_, fun _ => ⟨[], nofun, ?_⟩⟩
    · rw [ended] at told
      obtain rfl : f.status = n := Option.some.inj told
      rw [two]
      exact ⟨⟨nofun, fun h => absurd ⟨h.1, h.2.1⟩ unready⟩, fun _ => rfl,
        fun _ h h' => absurd ⟨h, h'⟩ unready, fun h h' => absurd ⟨h, h'⟩ unready⟩
    · rw [ended] at same
      cases same
    · rw [ended]
      rfl

/-- A build that exits with 7. -/
def failingBuild : List Sitting.Step :=
  let go : Sitting.Step := .act (.proceed 0 {})
  let offer (o : Offer) : Sitting.Step := .act (.drive 0 o (.ofMicros 0))
  [go, go, go, .goOn "", offer { arrival := .line (.error "oops") }, offer { exit := .exited (some 7) },
    offer { arrival := .ended }, offer {}, offer {}, offer {}, offer {}, offer {}, offer {}, .goOn ""]

theorem exit_status_tells_failingBuild :
    let fs : Files := Files.install {} ["w"] .directory
    let s : Surroundings := ⟨some ["w"], [], some "/home/u/.config"⟩
    let a : CommandLine.Asked := { work := .task "build" ["--release"] }
    CommandLine.parse ["build", "--release"] = .ok a ∧ (∃ config, settings fs s a = .ok config) ∧
      HasDirectory fs s a ∧
      exitStatus? (sitting "" fs s ["build", "--release"] failingBuild) = some 7 := by
  intro fs s a
  have asked : CommandLine.parse ["build", "--release"] = .ok a := by rfl
  have loaded : ∃ config, settings fs s a = .ok config := ⟨{}, by rfl⟩
  have placed : HasDirectory fs s a := ⟨"/w", ["w"], by rfl, by rfl, by rfl⟩
  obtain ⟨truth, -, -⟩ := exit_status_tells "" fs s ["build", "--release"] a (.exited (some 7))
    failingBuild asked nofun (by decide)
  have ends : (exitStatus? (sitting "" fs s ["build", "--release"] failingBuild)).isSome = true := by
    decide +kernel
  obtain ⟨n, isOver⟩ := Option.isSome_iff_exists.mp ends
  have seven : (n : Int) = 7 :=
    (truth n isOver).2.2.1 7 loaded placed (by decide +kernel) rfl (by decide) (by decide)
  refine ⟨asked, loaded, placed, isOver.trans ?_⟩
  rw [show n = 7 by omega]

end Session
end BuildRunner
