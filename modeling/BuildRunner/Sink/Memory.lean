import BuildRunner.Diagnostic.Collected
import BuildRunner.Sink.Basic

set_option autoImplicit false

/-! # Sinks that remember

Sinks that keep what they are given: diagnostics by file, lines and notices in order.
-/

namespace BuildRunner

structure MemorySinks where
  collected : Collected := .empty
  lines : List String := []
  notices : List Notice := []
deriving Repr

namespace MemorySinks

def apply (m : MemorySinks) : SinkCall → MemorySinks
  | .clear => { m with collected := .empty }
  | .publish dir d => { m with collected := m.collected.publish dir d }
  | .text line => { m with lines := m.lines ++ [line] }
  | .notify n => { m with notices := m.notices ++ [n] }

/-- The sinks after calls, in their order. -/
def ofCalls (calls : List SinkCall) : MemorySinks := calls.foldl apply {}

end MemorySinks
end BuildRunner
