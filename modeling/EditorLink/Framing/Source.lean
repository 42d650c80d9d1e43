import EditorLink.Framing.Decoder

/-!
# EditorLink — frames out of a source

A source answers each read with what has arrived. A `FrameReader` asks its decoder for a frame and reads
on as long as bytes are missing.

* `Arrival` — bytes, the end of the stream, or a failure;
* `Source.read` — one read, of at most `readBytes` bytes;
* `FrameReader.next` — the next frame, the end, a fault, or that nothing more has arrived.
-/

namespace EditorLink.Framing

/-- How many bytes one read gives at most. -/
def readBytes : Nat := 8192

/-- What a source has for its reader. -/
inductive Arrival where
  | data (bytes : Bytes)
  | ended
  | failed (reason : String)
  deriving Repr, DecidableEq

/-- What has arrived and was not read. -/
abbrev Source := List Arrival

namespace Source

/-- A bound on the reads that a source can answer. -/
def size : Source → Nat
  | [] => 0
  | .data bytes :: rest => bytes.length + 1 + size rest
  | _ :: rest => size rest + 1

/-- One read. Nothing is answered while nothing has arrived; empty arrivals are passed over; the end of a
stream stays its end. -/
def read : Source → Option Arrival × Source
  | [] => (none, [])
  | .ended :: _ => (some .ended, [.ended])
  | .failed reason :: rest => (some (.failed reason), rest)
  | .data bytes :: rest =>
    if bytes.isEmpty then read rest
    else if bytes.length ≤ readBytes then (some (.data bytes), rest)
    else (some (.data (bytes.take readBytes)), .data (bytes.drop readBytes) :: rest)

/-- A read that gives bytes leaves less to read. -/
theorem size_read_lt {s s' : Source} {bytes : Bytes} (h : read s = (some (.data bytes), s')) :
    size s' < size s := by
  induction s with
  | nil => simp [read] at h
  | cons a rest ih =>
    cases a with
    | ended => simp [read] at h
    | failed reason => simp [read] at h
    | data bs =>
      rw [read] at h
      split at h
      · have := ih h
        simp only [size]
        omega
      · split at h
        · simp only [Prod.mk.injEq, Option.some.injEq, Arrival.data.injEq] at h
          rw [← h.2]
          simp only [size]
          omega
        · simp only [Prod.mk.injEq, Option.some.injEq, Arrival.data.injEq] at h
          rw [← h.2]
          simp only [size, List.length_drop, readBytes] at *
          omega

end Source

/-- What a reader of frames finds. -/
inductive Reading where
  | frame (value : Json)
  | fault (fault : Fault)
  | ended
  /-- Nothing more has arrived. -/
  | waiting
  deriving Repr

structure FrameReader where
  source : Source := []
  decoder : Decoder := {}

namespace FrameReader

/-- Reads until there is a frame, an end, a fault, or nothing more to read. -/
def next (r : FrameReader) : Reading × FrameReader :=
  match r.decoder.decode with
  | (.ok (some value), d) => (.frame value, { r with decoder := d })
  | (.error fault, d) => (.fault fault, { r with decoder := d })
  | (.ok none, d) =>
    match _ : r.source.read with
    | (none, rest) => (.waiting, ⟨rest, d⟩)
    | (some .ended, rest) =>
      match d.finish with
      | .ok () => (.ended, ⟨rest, d⟩)
      | .error fault => (.fault fault, ⟨rest, d⟩)
    | (some (.failed reason), rest) => (.fault (.stream reason), ⟨rest, d⟩)
    | (some (.data bytes), rest) => next ⟨rest, d.extend bytes⟩
termination_by r.source.size
decreasing_by exact Source.size_read_lt (by assumption)

end FrameReader
end EditorLink.Framing
