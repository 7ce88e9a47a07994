import BuildRunner.Proofs.Diagnostic.Numbering
import BuildRunner.Proofs.Json.Opening
import BuildRunner.Proofs.Process.Reading
import BuildRunner.Task.Routing

set_option autoImplicit false

/-! # What becomes of the lines of a process

`readings` are the results of reading the events among the lines of the standard output. They
depend on these lines alone, and so do the diagnostics that are `found` and the counts that a task
keeps: `Routing.Counts` says so of any lines that were routed, in whichever order the two streams
have come. What is written is an interleaving of the standard error and of the lines of the standard
output that do not look like events, and no text of an object is among the latter.
-/

namespace BuildRunner

/-! ## What is written and found -/

/-- What a line leaves in the text sink. A line of the standard output leaves nothing if the first
character that is not blank is a brace. -/
def OutputLine.plain? : OutputLine → Option String
  | .error s => some s
  | .output s => if s.toList.find? (fun c => !Blank.isBlank c) = some '\x7b' then none else some s

def Routed.plain? : Routed → Option String
  | .text s => some s
  | _ => none

theorem head?_trimStart (cs : List Char) :
    (Blank.trimStart cs).head? = cs.find? (fun c => !Blank.isBlank c) := by
  induction cs with
  | nil => rfl
  | cons c cs ih =>
      rw [Blank.trimStart, List.dropWhile_cons, List.find?_cons]
      cases h : Blank.isBlank c
      · rfl
      · exact ih

theorem Routing.route_plain {g g' : Routing} {l : OutputLine} {x : Routed}
    (h : g.route l = (x, g')) : x.plain? = l.plain? := by
  cases l with
  | error s =>
      obtain ⟨rfl, rfl⟩ := Prod.mk.inj h
      rfl
  | output s =>
      simp only [route, routeOutput, looksLikeEvent, head?_trimStart, eventStart] at h
      simp only [OutputLine.plain?]
      split at h
      · rename_i he
        rw [if_pos (of_decide_eq_true he)]
        split at h <;> obtain ⟨rfl, rfl⟩ := Prod.mk.inj h <;> rfl
      · rename_i he
        rw [if_neg fun hn => he (decide_eq_true hn)]
        obtain ⟨rfl, rfl⟩ := Prod.mk.inj h
        rfl

def Routed.found : Routed → List Diagnostic
  | .diagnostics ds => ds
  | _ => []

theorem Routing.route_diagnostics {g g' : Routing} {l : OutputLine} {x : Routed}
    (h : g.route l = (x, g')) : g'.diagnostics = g.diagnostics + x.found.length := by
  cases l with
  | error s =>
      obtain ⟨rfl, rfl⟩ := Prod.mk.inj h
      rfl
  | output s =>
      simp only [route, routeOutput] at h
      split at h
      · split at h <;> obtain ⟨rfl, rfl⟩ := Prod.mk.inj h <;> rfl
      · obtain ⟨rfl, rfl⟩ := Prod.mk.inj h
        rfl

namespace Routing

/-! ## The standard output alone -/

/-- The results of reading the events among the lines of a standard output. -/
def readings (lines : List String) : List (Except Malformed (List Diagnostic)) :=
  (Numbering.ofLines {} (lines.filter looksLikeEvent)).map (·.1)

def found (lines : List String) : List Diagnostic :=
  (readings lines).flatMap fun x => x.toOption.getD []

/-- How many lines of a standard output are events. -/
def accepted (lines : List String) : Nat := (readings lines).countP (·.isOk)

/-- How many lines of a standard output look like events and are none. -/
def malformed (lines : List String) : Nat := (readings lines).countP (!·.isOk)

/-- The lines of a standard output that do not look like events. -/
def plain (lines : List String) : List String := lines.filter (!looksLikeEvent ·)

/-- **Every line is accounted for**: it is plain, or an event, or malformed. -/
theorem length_eq (lines : List String) :
    lines.length = (plain lines).length + accepted lines + malformed lines := by
  have split := List.length_eq_countP_add_countP looksLikeEvent (l := lines)
  have read := List.length_eq_countP_add_countP (·.isOk) (l := readings lines)
  have events : (readings lines).length = (lines.filter looksLikeEvent).length := by
    rw [readings, List.length_map, Numbering.length_ofLines]
  simp only [plain, accepted, malformed, List.countP_eq_length_filter, decide_not,
    Bool.decide_eq_true] at *
  omega

/-- **The text of an object looks like an event**, so it is not plain. -/
theorem looksLikeEvent_of_object {line : String} {v : Json} (h : Json.readText line = .ok v)
    (hv : v.isObject = true) : looksLikeEvent line = true := by
  have brace := Json.brace_of_readText h hv
  revert brace
  -- Every space of a JSON text is blank, and a brace is neither.
  simp only [looksLikeEvent, head?_trimStart, eventStart, decide_eq_true_eq]
  induction line.toList with
  | nil => exact id
  | cons c cs ih =>
      intro brace
      rw [List.dropWhile_cons] at brace
      split at brace
      · rename_i space
        have blank : Blank.isBlank c = true := by
          simp only [Json.isSpace, Bool.or_eq_true, decide_eq_true_eq] at space
          rcases space with ((rfl | rfl) | rfl) | rfl <;> rfl
        simpa [List.find?_cons, blank] using ih brace
      · obtain rfl := Option.some.inj brace
        rfl

/-! ## One line after another -/

def numberingAfter (lines : List String) : Numbering :=
  (lines.filter looksLikeEvent).foldl (fun n line => (n.ofLine line).2) {}

theorem ofLines_concat (n : Numbering) (lines : List String) (line : String) :
    n.ofLines (lines ++ [line]) =
      n.ofLines lines ++ [(lines.foldl (fun n line => (n.ofLine line).2) n).ofLine line] := by
  induction lines generalizing n with
  | nil => rfl
  | cons x lines ih => simp [Numbering.ofLines, ih]

variable {g g' : Routing} {lines : List String} {line : String} {x : Routed}

/-- An event is read with the numbering after the events before it. -/
theorem readings_event (lines : List String) (h : looksLikeEvent line = true) :
    readings (lines ++ [line]) = readings lines ++ [((numberingAfter lines).ofLine line).1] := by
  simp [readings, numberingAfter, h, ofLines_concat]

theorem numberingAfter_event (lines : List String) (h : looksLikeEvent line = true) :
    numberingAfter (lines ++ [line]) = ((numberingAfter lines).ofLine line).2 := by
  simp [numberingAfter, h]

/-- A plain line is not read. -/
theorem readings_plain (lines : List String) (h : looksLikeEvent line = false) :
    readings (lines ++ [line]) = readings lines := by
  simp [readings, h]

theorem numberingAfter_plain (lines : List String) (h : looksLikeEvent line = false) :
    numberingAfter (lines ++ [line]) = numberingAfter lines := by
  simp [numberingAfter, h]

/-- **What a task has counted** after the lines of a standard output. -/
structure Counts (lines : List String) (g : Routing) : Prop where
  numbering : g.numbering = numberingAfter lines
  diagnostics : g.diagnostics = (found lines).length
  malformedLines : g.malformedLines = malformed lines

theorem Counts.routeOutput (h : Counts lines g) (hr : g.routeOutput line = (x, g')) :
    Counts (lines ++ [line]) g' ∧ found (lines ++ [line]) = found lines ++ x.found := by
  have numbering := h.numbering
  have diagnostics := h.diagnostics
  have malformedLines := h.malformedLines
  unfold Routing.routeOutput at hr
  cases event : looksLikeEvent line with
  | false =>
      have same := readings_plain lines event
      simp only [event, Bool.false_eq_true, if_false] at hr
      obtain ⟨rfl, rfl⟩ := Prod.mk.inj hr
      refine ⟨⟨?_, ?_, ?_⟩, ?_⟩
      · rw [numberingAfter_plain lines event, numbering]
      · rw [found, same, diagnostics, found]
      · rw [malformed, same, malformedLines, malformed]
      · rw [found, same]
        exact (List.append_nil _).symm
  | true =>
      have more := readings_event lines event
      have next := numberingAfter_event lines event
      simp only [event, if_true] at hr
      rw [numbering] at hr
      -- The line is read with the numbering that the lines before it have left.
      split at hr
      · rename_i ds n read
        obtain ⟨rfl, rfl⟩ := Prod.mk.inj hr
        rw [read] at more next
        have found' : found (lines ++ [line]) = found lines ++ ds := by
          simp [found, more, Except.toOption]
        refine ⟨⟨next.symm, ?_, ?_⟩, found'⟩
        · rw [found', List.length_append, diagnostics]
        · simp [malformed, more, malformedLines, Except.isOk, Except.toBool]
      · rename_i e n read
        obtain ⟨rfl, rfl⟩ := Prod.mk.inj hr
        rw [read] at more next
        have found' : found (lines ++ [line]) = found lines := by
          simp [found, more, Except.toOption]
        refine ⟨⟨next.symm, ?_, ?_⟩, ?_⟩
        · rw [found', diagnostics]
        · simp [malformed, more, malformedLines, Except.isOk, Except.toBool]
        · rw [found']
          exact (List.append_nil _).symm

/-- **Routing a line** counts what it holds; a line of the standard error does not count. -/
theorem Counts.route {ls : List OutputLine} {l : OutputLine}
    (h : Counts (ls.filterMap (·.on? .output)) g) (hr : g.route l = (x, g')) :
    Counts ((ls ++ [l]).filterMap (·.on? .output)) g' ∧
      found ((ls ++ [l]).filterMap (·.on? .output)) =
        found (ls.filterMap (·.on? .output)) ++ x.found := by
  cases l with
  | error s =>
      obtain ⟨rfl, rfl⟩ := Prod.mk.inj hr
      simpa [OutputLine.on?, Routed.found] using h
  | output s => simpa [OutputLine.on?] using h.routeOutput hr

end Routing

def warningAbout (file : String) : OutputLine :=
  .output ("\x7b\"reason\":\"compiler-message\",\"message\":\x7b\"level\":\"warning\"," ++
    "\"spans\":[\x7b\"file_name\":\"" ++ file ++ "\"\x7d]\x7d\x7d")

/-! ## Interleavings -/

/-- **An interleaving** of two lists: the elements of both, each in their order. -/
inductive Interleaves {α : Type} : List α → List α → List α → Prop
  | nil : Interleaves [] [] []
  | left {x : α} {xs ys zs : List α} : Interleaves xs ys zs → Interleaves (x :: xs) ys (x :: zs)
  | right {y : α} {xs ys zs : List α} : Interleaves xs ys zs → Interleaves xs (y :: ys) (y :: zs)

/-- **What is written of lines** interleaves the standard error with the plain lines of the standard
output. -/
theorem interleaves_plain (lines : List OutputLine) :
    Interleaves (lines.filterMap (·.on? .errors)) (Routing.plain (lines.filterMap (·.on? .output)))
      (lines.filterMap OutputLine.plain?) := by
  induction lines with
  | nil => exact .nil
  | cons l lines ih =>
      cases l with
      | error s => exact .left ih
      | output s =>
          by_cases event : looksLikeEvent s = true
          · have none' : (OutputLine.output s).plain? = none := by
              simpa [looksLikeEvent, head?_trimStart, eventStart, OutputLine.plain?] using event
            simpa [OutputLine.on?, none', Routing.plain, event] using ih
          · have some' : (OutputLine.output s).plain? = some s := by
              simpa [looksLikeEvent, head?_trimStart, eventStart, OutputLine.plain?] using event
            simpa [OutputLine.on?, some', Routing.plain, event] using Interleaves.right ih

end BuildRunner
