import EditorLink.Framing.Encoder
import EditorLink.Framing.Fault

/-!
# EditorLink — frames into a sink

A sink takes bytes a few at a time and may fail. Writing a frame repeats writes until all its bytes are
taken, and flushes the sink once.
-/

namespace EditorLink.Framing

/-- A sink with its limits, and what became of it. -/
structure Sink where
  /-- The most bytes that one write takes. -/
  perWrite : Option Nat := none
  /-- The most bytes that the sink holds; a write to a full sink fails. -/
  capacity : Option Nat := none
  /-- Whether each flush fails. -/
  flushFails : Bool := false
  written : Bytes := []
  flushes : Nat := 0
  deriving Repr, DecidableEq

namespace Sink

/-- How many more bytes the sink holds; nothing says that there is no limit. -/
def room (s : Sink) : Option Nat := s.capacity.map (· - s.written.length)

/-- How many bytes of `n` the next write takes. -/
def accepts (s : Sink) (n : Nat) : Nat :=
  min (min n (s.perWrite.getD n)) (s.room.getD n)

/-- Writes all bytes, a few at a time. -/
def writeAll (s : Sink) (bytes : Bytes) : Except Fault Unit × Sink :=
  if bytes.isEmpty then (.ok (), s)
  else if s.room == some 0 then (.error (.stream "sink full"), s)
  else if _ : s.accepts bytes.length = 0 then (.error (.stream "write zero"), s)
  else
    let n := s.accepts bytes.length
    writeAll { s with written := s.written ++ bytes.take n } (bytes.drop n)
termination_by bytes.length
decreasing_by
  have hle : s.accepts bytes.length ≤ bytes.length := by unfold accepts; omega
  simp only [List.length_drop]
  omega

def flush (s : Sink) : Except Fault Unit × Sink :=
  (if s.flushFails then .error (.stream "flush failed") else .ok (), { s with flushes := s.flushes + 1 })

def writeFrame (s : Sink) (frame : Bytes) : Except Fault Unit × Sink :=
  match s.writeAll frame with
  | (.error fault, s) => (.error fault, s)
  | (.ok (), s) => s.flush

end Sink
end EditorLink.Framing
