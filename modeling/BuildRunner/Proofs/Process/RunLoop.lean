import BuildRunner.Host.Follow
import BuildRunner.Proofs.Process.Reading
import BuildRunner.Proofs.Process.Turn

set_option autoImplicit false

/-! # The run loop

A `Scene` is a run with all that happens around it: what is written on the streams and read of
them, the end of the process, the deadline, kills, and which stream is asked first. All this may
happen in any order between the turns of the run, and in any order of the two streams.

When the run ends, all that was read has been delivered, whatever has ended it. `run_accounts`
says this together with what a run comes to and how many turns it takes.
-/

namespace BuildRunner

structure Scene where
  output : Source
  errors : Source
  channels : Channels := {}
  exit : ExitNews := .running
  isLate : Bool := false
  killed : Bool := false
  run : Run := .start
  /-- The lines that have been delivered, the last one first. -/
  delivered : List OutputLine := []
  /-- How many turns of the reading loop something came of. -/
  turns : Nat := 0
  /-- How many of these turns noticed a kill. -/
  notices : Nat := 0

namespace Run

/-- Whether neither the process nor its output has ended as far as the run knows. -/
def isReading : Run → Bool
  | .reading _ => true
  | _ => false

/-- Whether something comes of a turn of the reading loop. -/
def loops (before after : Run) (l? : Option OutputLine) : Bool :=
  before.isReading && (l?.isSome || after ≠ before)

/-- Whether a kill is noticed in a turn. -/
def notices (before after : Run) : Bool := before = .reading false && after = .reading true

variable {r r' : Run} {o : Offer} {l? : Option OutputLine}

theorem isReading_awaitExit (killed : Bool) (news : ExitNews) :
    (awaitExit killed news).isReading = false := by
  cases news <;> rfl

/-- **A turn of the loop** that something comes of notices a kill, delivers a line or ends the
loop. -/
theorem Turned.pace (turned : Turned o r r' l?) :
    (loops r r' l?).toNat + r'.isReading.toNat ≤
      l?.toList.length + (notices r r').toNat + r.isReading.toNat := by
  cases turned with
  | @close noticed _ _ =>
      have once := Bool.toNat_le (loops (.reading noticed) (awaitExit o.killed o.exit) none)
      rw [isReading_awaitExit]
      exact Nat.le_trans once (Nat.le_add_left _ _)
  | wait => rw [isReading_awaitExit]; exact Nat.zero_le _
  | _ => simp [loops, notices, isReading]

/-- A run that reads was reading before, and knows of a kill if it knew or has just noticed. -/
theorem Turned.noticed (turned : Turned o r r' l?) {noticed : Bool} (h : r' = .reading noticed) :
    ∃ noticed', r = .reading noticed' ∧ noticed.toNat = noticed'.toNat + (notices r r').toNat := by
  cases turned with
  | close _ _ | wait => exact absurd h ((awaitExit_ne _ _).1 noticed)
  | notice _ =>
      obtain rfl := Run.reading.inj h
      exact ⟨false, rfl, rfl⟩
  | @read noticed' _ _ _ | @idle noticed' _ _ _ =>
      obtain rfl := Run.reading.inj h
      exact ⟨noticed', rfl, by cases noticed' <;> rfl⟩
  | _ => cases h

end Run

namespace Scene

inductive Event where
  /-- So many more bytes of a stream can be read, and are. -/
  | read (side : Side) (n : Nat)
  /-- A stream ends. It ends cleanly only when all that is written on it has been read. -/
  | close (side : Side) (e : Line.Ending)
  /-- One of the streams will be asked first. -/
  | prefer (errorsFirst : Bool)
  /-- The process ends, or its end can no longer be learnt. -/
  | exit (news : ExitNews)
  /-- The time for reading after the end of the process is over. -/
  | late
  | kill
  /-- The run takes a turn. -/
  | turn

def source (s : Scene) : Side → Source
  | .output => s.output
  | .errors => s.errors

def onStream (s : Scene) (src : Source) (f : Channel → Channel) : Side → Scene
  | .output => { s with output := src, channels := s.channels.change f .output }
  | .errors => { s with errors := src, channels := s.channels.change f .errors }

def offer (s : Scene) : Offer where
  killed := s.killed
  arrival := s.channels.next.1
  exit := s.exit
  isLate := s.isLate

/-- The scene after a turn that took the run to `run` and delivered a line, or none. -/
def afterTurn (s : Scene) (run : Run) (l? : Option OutputLine) : Scene :=
  { s with
    run := run
    channels := if l?.isSome then s.channels.next.2 else s.channels
    delivered := l?.toList ++ s.delivered
    turns := s.turns + (Run.loops s.run run l?).toNat
    notices := s.notices + (Run.notices s.run run).toNat }

def turn (s : Scene) : Scene := s.afterTurn (s.run.turn s.offer).1 (s.run.turn s.offer).2

/-- The scene after something has happened. A stream that has ended stays so, and the end of a
process is learnt once. -/
def step (s : Scene) : Event → Scene
  | .read side n =>
    let src := s.source side
    if src.ending = none then s.onStream (src.advance n) (·.feed (src.unread.take n)) side else s
  | .close side e =>
    let src := s.source side
    if src.ending = none ∧ (e = .clean → src.unread = []) then
      s.onStream (src.finish e) (·.finish e) side
    else s
  | .prefer errorsFirst => { s with channels := { s.channels with errorsFirst := errorsFirst } }
  | .exit news => if s.exit = .running then { s with exit := news } else s
  | .late => { s with isLate := true }
  | .kill => { s with killed := true }
  | .turn => s.turn

def play (s : Scene) (es : List Event) : Scene := es.foldl step s

/-- The scene when a process begins that will write something on each stream. -/
def start (written : Side → List UInt8) : Scene where
  output := { unread := written .output }
  errors := { unread := written .errors }

def taken (s : Scene) (side : Side) : List String := s.delivered.reverse.filterMap (·.on? side)

variable {written : Side → List UInt8} {s : Scene} {l : OutputLine} {side side' : Side}
  {src : Source} {f : Channel → Channel} {e : Event}

theorem channels_afterTurn (f : Host.Follower) (h : Host.Machine) (run : Run) (delivered : Bool) :
    (f.afterTurn h run delivered).channels = if delivered then f.channels.next.2 else f.channels := by
  cases delivered <;> simp [Host.Follower.afterTurn, apply_ite Host.Follower.channels]

/-- **An execution takes the turns of the scene** around it. -/
theorem turn_execution {x : Host.Execution} {s : Scene}
    (offer : s.offer = x.follower.offer x.host x.killed)
    (channels : s.channels = x.follower.channels) (run : s.run = x.run)
    (delivered : s.delivered = x.delivered) :
    (x.turn none).2.run = s.turn.run ∧ (x.turn none).2.follower.channels = s.turn.channels ∧
      (x.turn none).2.delivered = s.turn.delivered := by
  simp [Host.Execution.turn, turn, afterTurn, offer, channels, run, delivered, channels_afterTurn]

/-! ## The streams -/

/-- Each stream is **kept**. -/
def Keeps (written : Side → List UInt8) (s : Scene) : Prop :=
  ∀ side, (s.source side).Kept (written side) (s.channels.on side) (s.taken side)

theorem source_onStream :
    (s.onStream src f side).source side' = if side' = side then src else s.source side' := by
  cases side <;> cases side' <;> rfl

theorem channels_onStream : (s.onStream src f side).channels = s.channels.change f side := by
  cases side <;> rfl

theorem Keeps.onStream (h : s.Keeps written)
    (kept : src.Kept (written side) (f (s.channels.on side)) (s.taken side)) :
    (s.onStream src f side).Keeps written := by
  intro side'
  have same : (s.onStream src f side).taken side' = s.taken side' := by cases side <;> rfl
  rw [source_onStream, channels_onStream, Channels.on_change, same]
  by_cases hs : side' = side
  · subst hs
    rwa [if_pos rfl, if_pos rfl]
  · rw [if_neg hs, if_neg hs]
    exact h side'

theorem source_afterTurn (run : Run) (l? : Option OutputLine) :
    (s.afterTurn run l?).source side = s.source side := by
  cases side <;> rfl

theorem taken_afterTurn (run : Run) (l? : Option OutputLine) :
    (s.afterTurn run l?).taken side = s.taken side ++ (l?.bind (·.on? side)).toList := by
  cases l? with
  | none => simp [taken, afterTurn]
  | some l => cases hl : l.on? side <;> simp [taken, afterTurn, hl]

theorem Keeps.turn (h : s.Keeps written) : s.turn.Keeps written := by
  intro side
  rw [Scene.turn, taken_afterTurn, source_afterTurn]
  cases hl : (s.run.turn s.offer).2 with
  | none => simpa [afterTurn] using h side
  | some l =>
      obtain ⟨side', text, ready, rfl, hready, rest⟩ :=
        Channels.next_line (Run.arrival_of_delivered hl)
      have kept := h side
      simp only [afterTurn, Option.isSome_some, if_true, rest side, Option.bind_some,
        OutputLine.on?_line]
      by_cases hs : side = side'
      · subst hs
        simpa using kept.take hready
      · simpa [hs] using kept

theorem Keeps.step (h : s.Keeps written) (e : Event) : (s.step e).Keeps written := by
  cases e with
  | read side n =>
      simp only [Scene.step]
      split
      · rename_i open'
        exact h.onStream ((h side).advance n open')
      · exact h
  | close side e =>
      simp only [Scene.step]
      split
      · rename_i open'
        exact h.onStream ((h side).finish open'.1 open'.2)
      · exact h
  | prefer errorsFirst => exact fun side => by cases side <;> exact h _
  | exit news => simp only [Scene.step]; split <;> exact h
  | late | kill => exact h
  | turn => exact h.turn

/-! ## What the run knows -/

/-- **What a run knows is so**: it waits only after the end of both streams, and drains only after
the end of the process. -/
structure Informed (s : Scene) : Prop where
  waiting : s.run = .waiting → s.channels.IsOver
  draining : ∀ code, s.run = .draining code → s.exit = .exited code

/-- **The pace of the loop**: a kill is noticed once, and every other turn that something comes of
delivers a line or ends the loop. -/
structure Paced (s : Scene) : Prop where
  reading : ∀ noticed, s.run = .reading noticed → s.notices = noticed.toNat
  notices : s.notices ≤ 1
  turns : s.turns + s.run.isReading.toNat ≤ s.delivered.length + s.notices + 1

theorem Informed.afterTurn (h : s.Informed) {run : Run} {l? : Option OutputLine}
    (turned : Run.Turned s.offer s.run run l?) : (s.afterTurn run l?).Informed := by
  have waiting := h.waiting
  have draining := h.draining
  generalize hr : s.run = r at turned waiting draining
  cases turned with
  | close _ arrival =>
      refine ⟨fun _ => Channels.next_ended arrival, fun code hd => ?_⟩
      exact absurd hd ((Run.awaitExit_ne _ _).2 code)
  | wait =>
      refine ⟨fun _ => waiting rfl, fun code hd => ?_⟩
      exact absurd hd ((Run.awaitExit_ne _ _).2 code)
  | exit _ _ exit => exact ⟨fun hw => (by cases hw), fun code hd => Run.draining.inj hd ▸ exit⟩
  | drain _ | linger _ _ => exact ⟨fun hw => (by cases hw), draining⟩
  | _ => exact ⟨fun hw => (by cases hw), fun code hd => (by cases hd)⟩

theorem Paced.afterTurn (h : s.Paced) {run : Run} {l? : Option OutputLine}
    (turned : Run.Turned s.offer s.run run l?) : (s.afterTurn run l?).Paced where
  reading noticed hr := by
    obtain ⟨noticed', before, same⟩ := turned.noticed hr
    rw [same, ← h.reading noticed' before]
    rfl
  notices := by
    show s.notices + (Run.notices s.run run).toNat ≤ 1
    cases hn : Run.notices s.run run with
    | false => simpa using h.notices
    | true =>
        have before : s.run = .reading false := by simp_all [Run.notices]
        rw [h.reading false before]
        exact Nat.le_refl 1
  turns := by
    have turns := h.turns
    have pace := turned.pace
    show s.turns + (Run.loops s.run run l?).toNat + run.isReading.toNat ≤
      (l?.toList ++ s.delivered).length + (s.notices + (Run.notices s.run run).toNat) + 1
    rw [List.length_append]
    omega

/-! ## Every order of events -/

structure Sound (written : Side → List UInt8) (s : Scene) : Prop where
  keeps : s.Keeps written
  informed : s.Informed
  paced : s.Paced

theorem sound_start (written : Side → List UInt8) : (start written).Sound written where
  keeps side := by cases side <;> exact .start _
  informed := ⟨fun h => (by cases h), fun _ h => (by cases h)⟩
  paced := ⟨fun _ h => Run.reading.inj h ▸ rfl, Nat.zero_le 1, Nat.le_refl 1⟩

/-- The streams of a run that waits for the end of its process have ended. -/
theorem Sound.not_waiting (h : s.Sound written) (open' : (s.source side).ending = none) :
    s.run ≠ .waiting := by
  intro hw
  have isOpen := (h.keeps side).isOpen
  rw [(h.informed.waiting hw side).1, open'] at isOpen
  cases isOpen

theorem Informed.onStream (h : s.Informed) (hw : s.run ≠ .waiting) :
    (s.onStream src f side).Informed := by
  cases side <;> exact ⟨fun hw' => absurd hw' hw, h.draining⟩

theorem Paced.onStream (h : s.Paced) : (s.onStream src f side).Paced := by
  cases side <;> exact ⟨h.reading, h.notices, h.turns⟩

theorem Sound.informed_step (h : s.Sound written) (e : Event) : (s.step e).Informed := by
  have informed := h.informed
  cases e with
  | read side n =>
      simp only [Scene.step]
      split
      · rename_i open'
        exact informed.onStream (h.not_waiting open')
      · exact informed
  | close side e =>
      simp only [Scene.step]
      split
      · rename_i open'
        exact informed.onStream (h.not_waiting open'.1)
      · exact informed
  | prefer errorsFirst =>
      refine ⟨fun hw side => ?_, informed.draining⟩
      have ended := informed.waiting hw side
      cases side <;> exact ended
  | exit news =>
      simp only [Scene.step]
      split
      · rename_i running
        refine ⟨informed.waiting, fun code hd => ?_⟩
        exact absurd (informed.draining code hd) (by rw [running]; exact nofun)
      · exact informed
  | late | kill => exact ⟨informed.waiting, informed.draining⟩
  | turn => exact informed.afterTurn (Run.turn_turned _ _)

theorem Paced.step (h : s.Paced) (e : Event) : (s.step e).Paced := by
  cases e with
  | read side n | close side e =>
      simp only [Scene.step]
      split
      · exact h.onStream
      · exact h
  | exit news =>
      simp only [Scene.step]
      split
      · exact ⟨h.reading, h.notices, h.turns⟩
      · exact h
  | prefer _ | late | kill => exact ⟨h.reading, h.notices, h.turns⟩
  | turn => exact h.afterTurn (Run.turn_turned _ _)

theorem Sound.step (h : s.Sound written) (e : Event) : (s.step e).Sound written :=
  ⟨h.keeps.step e, h.informed_step e, h.paced.step e⟩

theorem Sound.play (h : s.Sound written) (es : List Event) : (s.play es).Sound written := by
  induction es generalizing s with
  | nil => exact h
  | cons e es ih => exact ih (h.step e)

/-! ## The end of a run -/

/-- When a run ends, no line is ready. -/
theorem Sound.taken_of_end (h : s.Sound written) (hr : s.run.result? = none) {x : RunResult}
    (hx : s.turn.run.result? = some x) (side : Side) : s.turn.taken side = (s.source side).lines := by
  have ends := (Run.turn_turned s.run s.offer).ends hr hx
  have nothing : ∀ side, (s.channels.on side).reader.ready = [] := by
    rcases ends.1 with waiting | found
    · exact fun side => (h.informed.waiting waiting side).2
    · exact Channels.ready_of_next found
  have silent : (s.run.turn s.offer).2 = none := by
    cases hl : (s.run.turn s.offer).2 with
    | none => rfl
    | some l =>
        obtain ⟨_, _, _, -, hready, -⟩ := Channels.next_line (Run.arrival_of_delivered hl)
        rw [nothing] at hready
        cases hready
  have lines := (h.keeps side).lines
  rw [nothing side, List.append_nil] at lines
  rw [turn, taken_afterTurn, silent, ← lines]
  exact List.append_nil _

/-- A line that can be read is delivered in the next turn, or in the one after it if the next one
notices a kill. -/
theorem delivered_of_ready (h : s.Sound written) (hr : s.run.result? = none)
    (ready : s.channels.next.1 = .line l) :
    s.turn.delivered = l :: s.delivered ∨
      s.killed = true ∧ s.turn.channels = s.channels ∧ s.turn.turn.delivered = l :: s.delivered := by
  cases hrun : s.run with
  | reading noticed =>
      by_cases unheeded : s.killed = true ∧ noticed = false
      · right
        have notice : s.turn = s.afterTurn (.reading true) none := by
          simp [turn, hrun, Run.turn, offer, unheeded]
        refine ⟨unheeded.1, by rw [notice]; rfl, ?_⟩
        rw [notice]
        simp [turn, afterTurn, Run.turn, offer, ready]
      · left
        simp [turn, afterTurn, hrun, Run.turn, offer, unheeded, ready]
  | waiting =>
      -- The streams of a run that waits are over, so there is no line.
      obtain ⟨side, _, _, -, hready, -⟩ := Channels.next_line ready
      rw [(h.informed.waiting hrun side).2] at hready
      cases hready
  | draining code =>
      left
      simp [turn, afterTurn, hrun, Run.turn, offer, ready]
  | ended x => rw [hrun] at hr; cases hr

/-- **The run loop loses, repeats and reorders nothing**, whatever is written on the two streams and
whatever happens in which order.

At any time the lines of a stream that have been delivered are the first ones of those that are
written on it, in their order, each of them once. A kill takes at most one turn of the loop, after
which the line that could be read before is delivered. Every other turn of the loop that something
comes of delivers a line, up to the one that ends it.

When the run ends, all lines of what was read are delivered, killed or not; if a stream has ended
cleanly, then these are all that were written on it, with the fragment behind the last line feed.
The run comes to a cancelled task if it is killed by then, and otherwise to the status with which the
process has exited. -/
theorem run_accounts (written : Side → List UInt8) (es : List Event) :
    let s := (start written).play es
    (∀ side, s.taken side <+: Line.split .clean (written side)) ∧
    s.notices ≤ 1 ∧ s.turns ≤ s.delivered.length + 2 ∧
    (∀ l, s.run.result? = none → s.channels.next.1 = .line l →
      s.turn.delivered = l :: s.delivered ∨
        s.killed = true ∧ s.turn.channels = s.channels ∧
          s.turn.turn.delivered = l :: s.delivered) ∧
    (∀ x, s.run.result? = none → s.turn.run.result? = some x →
      (∀ side, s.turn.taken side = (s.source side).lines) ∧
      (∀ side, (s.source side).ending = some .clean →
        s.turn.taken side = Line.split .clean (written side)) ∧
      (s.exit = .lost ∧ x = .waitFailed ∨
        ∃ code, s.exit = .exited code ∧
          x = .outcome (if s.killed then .cancelled else .exited code))) := by
  intro s
  have h : s.Sound written := (sound_start written).play es
  refine ⟨fun side => (h.keeps side).prefix_taken, h.paced.notices, ?_,
    fun l hr ready => delivered_of_ready h hr ready, fun x hr hx => ⟨?_, ?_, ?_⟩⟩
  · have turns := h.paced.turns
    have notices := h.paced.notices
    omega
  · exact h.taken_of_end hr hx
  · intro side clean
    rw [h.taken_of_end hr hx side, (h.keeps side).lines_of_clean clean]
  · have ends := (Run.turn_turned s.run s.offer).ends hr hx
    refine ends.2.imp_right fun ⟨code, known, hx⟩ => ⟨code, ?_, hx⟩
    exact known.elim id (h.informed.draining code)

/-- A process that writes a line and a fragment, and a line on its standard error. -/
def chatter : Side → List UInt8
  | .output => [111, 107, 10, 98, 121, 101]
  | .errors => [104, 109, 13, 10]

/-- It is killed while a line can be read. -/
def interrupted : List Event :=
  [.read .output 4, .turn, .read .errors 4, .kill]

/-- It has exited and is killed once more, and its streams end. -/
def exited : List Event :=
  [.turn, .turn, .exit (.exited none), .turn, .kill, .read .output 2, .close .errors .clean,
    .close .output .clean, .turn]

/-- The kill delays a line by one turn. All that is written is delivered, and the run is
cancelled. -/
theorem run_accounts_chatter :
    (let s := (start chatter).play interrupted;
      s.turn.delivered = .error "hm" :: s.delivered ∨
        s.killed = true ∧ s.turn.channels = s.channels ∧
          s.turn.turn.delivered = .error "hm" :: s.delivered) ∧
    (let s := (start chatter).play (interrupted ++ exited);
      s.turn.run.result? = some (.outcome .cancelled) ∧
        s.turn.taken .output = Line.split .clean (chatter .output)) := by
  constructor
  · exact (run_accounts chatter interrupted).2.2.2.1 _ (by decide) (by decide)
  · have ends := (run_accounts chatter (interrupted ++ exited)).2.2.2.2 (.outcome .cancelled)
    exact ⟨by decide, (ends (by decide) (by decide)).2.1 .output (by decide)⟩

end Scene
end BuildRunner
