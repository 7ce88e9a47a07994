import BuildRunner.Process.Output
import BuildRunner.Proofs.Text.Line

set_option autoImplicit false

/-! # What is read of the streams of a process

A `Source` says of one stream what its writers write, how much of it was read, and how it has
ended. `Source.Kept` ties it to the channel on which its lines arrive: the lines that were taken and
those that are ready are the lines of what was read. Reading, the end of the stream and taking a
line keep this, so no line is lost, none comes twice, and the order stays.
-/

namespace BuildRunner

inductive Side where
  | output
  | errors
deriving DecidableEq

def Side.line : Side → String → OutputLine
  | .output => .output
  | .errors => .error

def OutputLine.on? : Side → OutputLine → Option String
  | .output, .output s | .errors, .error s => some s
  | _, _ => none

theorem OutputLine.on?_line (side side' : Side) (s : String) :
    (side.line s).on? side' = if side' = side then some s else none := by
  cases side <;> cases side' <;> rfl

/-! ## Channels -/

namespace Channel

variable {ch ch' : Channel} {s : String}

def without (ch : Channel) (ready : List String) : Channel :=
  { ch with reader := { ch.reader with ready := ready } }

theorem pop?_eq_some (h : ch.pop? = some (s, ch')) :
    ∃ ready, ch.reader.ready = s :: ready ∧ ch' = ch.without ready := by
  unfold pop? at h
  split at h
  · cases h
  · rename_i l ls hready
    obtain ⟨rfl, rfl⟩ := Prod.mk.inj (Option.some.inj h)
    exact ⟨ls, hready, rfl⟩

theorem pop?_eq_none (h : ch.pop? = none) : ch.reader.ready = [] := by
  unfold pop? at h
  split at h
  · assumption
  · cases h

end Channel

namespace Channels

def on (c : Channels) : Side → Channel
  | .output => c.output
  | .errors => c.errors

def change (c : Channels) (f : Channel → Channel) : Side → Channels
  | .output => { c with output := f c.output }
  | .errors => { c with errors := f c.errors }

/-- **A line is taken**: the first one of its channel. The other channel stays as it is. -/
def Takes (c : Channels) (l : OutputLine) (c' : Channels) : Prop :=
  ∃ side s ready, l = side.line s ∧ (c.on side).reader.ready = s :: ready ∧
    ∀ side', c'.on side' = if side' = side then (c.on side).without ready else c.on side'

/-- There is nothing to take, and nothing can come. -/
def IsOver (c : Channels) : Prop :=
  ∀ side, (c.on side).isOpen = false ∧ (c.on side).reader.ready = []

variable {c c' : Channels} {l : OutputLine} {side side' : Side} {f : Channel → Channel}

theorem on_change :
    (c.change f side).on side' = if side' = side then f (c.on side) else c.on side' := by
  cases side <;> cases side' <;> rfl

theorem popOutput?_takes (h : c.popOutput? = some (l, c')) : c.Takes l c' := by
  obtain ⟨⟨s, rest⟩, hpop, heq⟩ := Option.map_eq_some_iff.mp h
  obtain ⟨rfl, rfl⟩ := Prod.mk.inj heq
  obtain ⟨ready, hready, rfl⟩ := Channel.pop?_eq_some hpop
  exact ⟨.output, s, ready, rfl, hready, fun side' => by cases side' <;> rfl⟩

theorem popError?_takes (h : c.popError? = some (l, c')) : c.Takes l c' := by
  obtain ⟨⟨s, rest⟩, hpop, heq⟩ := Option.map_eq_some_iff.mp h
  obtain ⟨rfl, rfl⟩ := Prod.mk.inj heq
  obtain ⟨ready, hready, rfl⟩ := Channel.pop?_eq_some hpop
  exact ⟨.errors, s, ready, rfl, hready, fun side' => by cases side' <;> rfl⟩

/-- Whichever stream is asked first, a line is taken. -/
theorem pop?_takes (h : c.pop? = some (l, c')) : c.Takes l c' := by
  unfold pop? at h
  split at h <;> rcases Option.or_eq_some_iff.mp h with h | ⟨-, h⟩
  · exact popError?_takes h
  · exact popOutput?_takes h
  · exact popOutput?_takes h
  · exact popError?_takes h

theorem pop?_eq_none (h : c.pop? = none) (side : Side) : (c.on side).reader.ready = [] := by
  have both : c.popOutput? = none ∧ c.popError? = none := by
    unfold pop? at h
    split at h <;> simp_all
  cases side with
  | output => exact Channel.pop?_eq_none (Option.map_eq_none_iff.mp both.1)
  | errors => exact Channel.pop?_eq_none (Option.map_eq_none_iff.mp both.2)

theorem next_line (h : c.next.1 = .line l) : c.Takes l c.next.2 := by
  unfold next at h ⊢
  split at h
  · rename_i hpop
    exact Arrival.line.inj h ▸ pop?_takes hpop
  · split at h <;> cases h

/-- If no line is found, then none is ready. -/
theorem ready_of_next (h : ∀ l, c.next.1 ≠ .line l) (side : Side) :
    (c.on side).reader.ready = [] := by
  cases hpop : c.pop? with
  | none => exact pop?_eq_none hpop side
  | some x => exact absurd (by simp [next, hpop]) (h x.1)

theorem next_ended (h : c.next.1 = .ended) : c.IsOver := by
  intro side
  refine ⟨?_, ready_of_next (fun l hl => by rw [h] at hl; cases hl) side⟩
  unfold next at h
  split at h
  · cases h
  · split at h
    · cases h
    · rename_i shut
      cases side <;> simp_all [on]

end Channels

/-! ## Sources -/

/-- **What is written on a stream**: what was read of it, what was not, and how it has ended. -/
structure Source where
  read : List UInt8 := []
  unread : List UInt8
  ending : Option Line.Ending := none

namespace Source

/-- The lines of what was read. The last one can be told only from a clean end. -/
def lines (src : Source) : List String := Line.split (src.ending.getD .broken) src.read

theorem lines_of_open {src : Source} (h : src.ending = none) :
    src.lines = (Line.pieces src.read).1.map Line.ofPiece := by
  rw [lines, h, Option.getD_none, Line.split_broken]

def advance (src : Source) (n : Nat) : Source :=
  { src with read := src.read ++ src.unread.take n, unread := src.unread.drop n }

def finish (src : Source) (e : Line.Ending) : Source := { src with ending := some e }

/-- **Nothing is lost, repeated or put out of order**: what was `taken` from the channel and what
is ready there are the lines of what was read. -/
structure Kept (written : List UInt8) (src : Source) (ch : Channel) (taken : List String) :
    Prop where
  written : src.read ++ src.unread = written
  isOpen : ch.isOpen = src.ending.isNone
  lines : taken ++ ch.reader.ready = src.lines
  rest : src.ending = none → ch.reader.rest = (Line.pieces src.read).2
  whole : src.ending = some .clean → src.unread = []

namespace Kept

variable {written : List UInt8} {src : Source} {ch : Channel} {taken : List String}

theorem start (written : List UInt8) : Kept written { unread := written } {} [] where
  written := rfl
  isOpen := rfl
  lines := rfl
  rest _ := rfl
  whole h := by cases h

theorem advance (h : Kept written src ch taken) (n : Nat) (open' : src.ending = none) :
    Kept written (src.advance n) (ch.feed (src.unread.take n)) taken where
  written := by
    rw [Source.advance, List.append_assoc, List.take_append_drop, h.written]
  isOpen := h.isOpen
  lines := by
    -- The rest of what was read before belongs to the chunk, on both sides.
    have after : (src.advance n).lines =
        (Line.pieces (src.read ++ src.unread.take n)).1.map Line.ofPiece := lines_of_open open'
    rw [after, Line.pieces_append, List.map_append, ← lines_of_open open', ← h.lines,
      ← h.rest open', List.append_assoc]
    rfl
  rest _ := by
    rw [Source.advance, Line.pieces_append, ← h.rest open']
    rfl
  whole hw := by simp [Source.advance, open'] at hw

theorem finish (h : Kept written src ch taken) {e : Line.Ending} (open' : src.ending = none)
    (whole : e = .clean → src.unread = []) :
    Kept written (src.finish e) (ch.finish e) taken := by
  have shut : ch.finish e = ⟨ch.reader.finish e, false⟩ := by
    rw [Channel.finish, if_pos (by rw [h.isOpen, open']; rfl)]
  refine ⟨h.written, by rw [shut]; rfl, ?_, fun hn => (by cases hn), fun hw => ?_⟩
  · have after : (src.finish e).lines =
        (Line.pieces src.read).1.map Line.ofPiece ++ Line.ofRest e (Line.pieces src.read).2 := rfl
    rw [after, ← lines_of_open open', ← h.lines, ← h.rest open', shut, List.append_assoc]
    rfl
  · exact whole (Option.some.inj hw)

theorem take {s : String} {ready : List String} (h : Kept written src ch taken)
    (hready : ch.reader.ready = s :: ready) :
    Kept written src (ch.without ready) (taken ++ [s]) where
  written := h.written
  isOpen := h.isOpen
  lines := by
    rw [← h.lines, hready]
    simp [Channel.without]
  rest := h.rest
  whole := h.whole

/-- The lines of what was read are the first ones of all that are written. -/
theorem prefix_lines (h : Kept written src ch taken) : src.lines <+: Line.split .clean written := by
  rw [← h.written, Source.lines]
  cases he : src.ending with
  | none => exact Line.prefix_split _ _
  | some e =>
      cases e with
      | broken => exact Line.prefix_split _ _
      | clean => rw [h.whole he, List.append_nil]; exact List.prefix_refl _

theorem prefix_taken (h : Kept written src ch taken) : taken <+: Line.split .clean written :=
  (h.lines ▸ List.prefix_append _ _ : taken <+: src.lines).trans h.prefix_lines

/-- A stream that has ended cleanly has no other lines. -/
theorem lines_of_clean (h : Kept written src ch taken) (he : src.ending = some .clean) :
    src.lines = Line.split .clean written := by
  rw [← h.written, Source.lines, h.whole he, he, List.append_nil]
  rfl

end Kept
end Source
end BuildRunner
