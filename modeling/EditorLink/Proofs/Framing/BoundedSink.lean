import EditorLink.Framing.Sink
import EditorLink.Proofs.Framing.Header

/-!
# EditorLink — a sink that fills up

A sink with room for so many bytes takes what fits of everything that is written to it, however few bytes it
takes at a time. What it holds is told from the whole stream of bytes that were meant for it: their front, as
long as the sink has room.

A write may take any number of bytes from one on, up to a limit of the sink, and the rest is offered again; that a
sink which takes nothing is full is how a writer notices the end of the room. A frame that did not fit whole was
written in part, and the bytes of it that fit stay there. What is written afterwards finds the sink full and fails
too, so that the front is never followed by anything else.

Flushing is counted. A frame counts as written if all of its bytes were taken and the flush behind them went well;
for a sink of this kind every flush does.

## Results

* `writeAll_eq` — bytes that are written, or torn off where the sink is full;
* `Filled` — a sink that holds the front of a stream;
* `Filled.writeFrame` — one more frame, `Filled.writeFrames` — any number of them, also behind a failure;
* `sink_holds_front` — the frames of any list of values.
-/

namespace EditorLink.Framing
namespace Sink

-- ---------------------------------------------------------------------------
-- Bytes
-- ---------------------------------------------------------------------------

/-- A sink for `c` bytes that takes at least one at a time and can be flushed. -/
structure Bounded (s : Sink) (c : Nat) : Prop where
  capacity : s.capacity = some c
  perWrite : ∀ n ∈ s.perWrite, 1 ≤ n
  flushes : s.flushFails = false
  holds : s.written.length ≤ c

variable {s : Sink} {c : Nat}

/-- The room is what is left of the capacity. -/
theorem Bounded.room (h : s.Bounded c) : s.room = some (c - s.written.length) := by
  rw [Sink.room, h.capacity, Option.map_some]

/-- A sink is full when it holds as many bytes as it may. -/
theorem Bounded.isFull_iff (h : s.Bounded c) : (s.room == some 0) = true ↔ s.written.length = c := by
  have hholds := h.holds
  rw [h.room, beq_iff_eq, Option.some.injEq]
  omega

/-- A sink that is not full takes something of what there is, and no more than there is room for. -/
theorem Bounded.accepts (h : s.Bounded c) {bytes : Bytes} (hsome : ¬ bytes.isEmpty = true)
    (hroom : ¬ (s.room == some 0) = true) :
    0 < s.accepts bytes.length ∧ s.written.length + s.accepts bytes.length ≤ c := by
  have hlt : s.written.length < c :=
    Nat.lt_of_le_of_ne h.holds fun hlength => hroom (h.isFull_iff.mpr hlength)
  have hpos : 0 < bytes.length :=
    List.length_pos_iff.mpr fun hnil => hsome (List.isEmpty_iff.mpr hnil)
  have hlimit : 0 < s.perWrite.getD bytes.length := by
    cases hs : s.perWrite with
    | none => exact hpos
    | some limit => exact h.perWrite limit hs
  rw [Sink.accepts, h.room, Option.getD_some]
  omega

/-- Other bytes in the sink, as many as it may hold. -/
theorem Bounded.hold (h : s.Bounded c) {bytes : Bytes} (hbytes : bytes.length ≤ c) :
    Bounded { s with written := bytes } c where
  capacity := h.capacity
  perWrite := h.perWrite
  flushes := h.flushes
  holds := hbytes

/-- What comes of a write, if `stream` is all that was meant for a sink of `c` bytes, these included. -/
def outcome (c : Nat) (stream : Bytes) : Except Fault Unit :=
  if stream.length ≤ c then .ok () else .error (.stream "sink full")

/-- **Bytes are written** as far as there is room for them. -/
theorem writeAll_eq (s : Sink) (bytes : Bytes) (h : s.Bounded c) : s.writeAll bytes =
    (outcome c (s.written ++ bytes), { s with written := (s.written ++ bytes).take c }) := by
  fun_induction writeAll s bytes with
  | case1 s bytes hempty =>
    rw [List.isEmpty_iff.mp hempty, List.append_nil, outcome, if_pos h.holds,
      List.take_of_length_le h.holds]
  | case2 s bytes hsome hfull =>
    -- the sink is full, so that even one byte more would have been too much
    have hlength := h.isFull_iff.mp hfull
    have hpos : 0 < bytes.length := List.length_pos_iff.mpr fun hnil => hsome (List.isEmpty_iff.mpr hnil)
    have hover : ¬ (s.written ++ bytes).length ≤ c := by
      rw [List.length_append]
      omega
    rw [outcome, if_neg hover, List.take_append_of_le_length hlength.ge, List.take_of_length_le hlength.le]
  | case3 s bytes hsome hroom hnone =>
    have htaken := (h.accepts hsome hroom).1
    omega
  | case4 s bytes hsome hroom hnone n ih =>
    -- what was taken and what is left are the bytes that there were
    have hfits : (s.written ++ bytes.take n).length ≤ c := by
      have htaken := (h.accepts hsome hroom).2
      rw [List.length_append, List.length_take]
      omega
    rw [ih (h.hold hfits), List.append_assoc, List.take_append_drop]

-- ---------------------------------------------------------------------------
-- Frames
-- ---------------------------------------------------------------------------

/-- A sink for `c` bytes that was meant to take `stream`: it holds the front. -/
structure Filled (s : Sink) (c : Nat) (stream : Bytes) : Prop where
  bounded : s.Bounded c
  written : s.written = stream.take c

variable {stream : Bytes}

/-- Something that comes behind a stream fits if it fits behind what the sink holds of it: if a part of the
stream was lost, there is no room for a single byte. -/
theorem Filled.outcome_append (h : s.Filled c stream) {bytes : Bytes} (hbytes : 0 < bytes.length) :
    outcome c (s.written ++ bytes) = outcome c (stream ++ bytes) := by
  have hiff : (s.written ++ bytes).length ≤ c ↔ (stream ++ bytes).length ≤ c := by
    rw [h.written, List.length_append, List.length_append, List.length_take]
    omega
  rw [outcome, outcome]
  simp only [hiff]

/-- What would fit of the sink and more bytes is what would fit of the stream and the same bytes. -/
theorem Filled.take_append (h : s.Filled c stream) (bytes : Bytes) :
    (s.written ++ bytes).take c = (stream ++ bytes).take c := by
  have hleft : c - (stream.take c).length = c - stream.length := by
    rw [List.length_take]
    omega
  rw [h.written, List.take_append, List.take_append, List.take_take, Nat.min_self, hleft]

/-- Flushing goes well and is counted, and nothing else changes. -/
theorem Bounded.flush (h : s.Bounded c) :
    s.flush.1 = .ok () ∧ s.flush.2.Bounded c ∧ s.flush.2.written = s.written ∧
      s.flush.2.flushes = s.flushes + 1 :=
  ⟨by rw [Sink.flush, h.flushes]; rfl, ⟨h.capacity, h.perWrite, h.flushes, h.holds⟩, rfl, rfl⟩

/-- **One more frame** is written as far as there is room for it, and the sink is flushed if all of it is. -/
theorem Filled.writeFrame (h : s.Filled c stream) {frame : Bytes} (hframe : 0 < frame.length) :
    (s.writeFrame frame).1 = outcome c (stream ++ frame) ∧
      (s.writeFrame frame).2.Filled c (stream ++ frame) ∧
      (s.writeFrame frame).2.flushes =
        s.flushes + if (s.writeFrame frame).1.isOk then 1 else 0 := by
  have hlength : ((stream ++ frame).take c).length ≤ c := List.length_take_le _ _
  have hbounded := h.bounded.hold hlength
  rw [Sink.writeFrame, writeAll_eq s frame h.bounded, h.outcome_append hframe, h.take_append]
  by_cases hfits : (stream ++ frame).length ≤ c
  · rw [outcome, if_pos hfits]
    obtain ⟨hok, hflushed, hwritten, hflushes⟩ := hbounded.flush
    refine ⟨hok, ⟨hflushed, hwritten⟩, ?_⟩
    dsimp only
    rw [hflushes, hok]
    rfl
  · rw [outcome, if_neg hfits]
    exact ⟨rfl, ⟨hbounded, rfl⟩, rfl⟩

/-- Writes frames in turn, also behind one that failed. -/
def writeFrames (s : Sink) : List Bytes → List (Except Fault Unit) × Sink
  | [] => ([], s)
  | frame :: rest =>
    let (result, s) := s.writeFrame frame
    let (results, s) := s.writeFrames rest
    (result :: results, s)

/-- **Any number of frames** are written as far as there is room for them together. -/
theorem Filled.writeFrames (h : s.Filled c stream) {frames : List Bytes}
    (hframes : ∀ frame ∈ frames, 0 < frame.length) :
    (s.writeFrames frames).1.length = frames.length ∧
      (∀ k < frames.length, (s.writeFrames frames).1[k]? =
        some (outcome c (stream ++ (frames.take (k + 1)).flatten))) ∧
      (s.writeFrames frames).2.Filled c (stream ++ frames.flatten) ∧
      (s.writeFrames frames).2.flushes =
        s.flushes + (s.writeFrames frames).1.countP Except.isOk := by
  induction frames generalizing s stream with
  | nil =>
    rw [List.flatten_nil, List.append_nil]
    exact ⟨rfl, nofun, h, rfl⟩
  | cons frame rest ih =>
    -- whether the first frame was written or torn, the sink holds the front of the stream with it
    obtain ⟨hframe, hrest⟩ := List.forall_mem_cons.mp hframes
    obtain ⟨hresult, hfilled, hflushes⟩ := h.writeFrame hframe
    obtain ⟨hlength, hresults, hend, hall⟩ := ih hfilled hrest
    rw [Sink.writeFrames]
    refine ⟨congrArg (· + 1) hlength, ?_, ?_, ?_⟩
    · rintro (_ | k) hk
      · rw [List.take_succ_cons, List.take_zero, List.flatten_singleton, ← hresult]
        rfl
      · rw [List.take_succ_cons, List.flatten_cons, ← List.append_assoc]
        exact hresults k (Nat.lt_of_succ_lt_succ hk)
    · rw [List.flatten_cons, ← List.append_assoc]
      exact hend
    · rw [List.countP_cons]
      dsimp only
      rw [hall, hflushes]
      omega

end Sink

/-- **A sink holds the front of what was written to it.** Frames are written in turn to a sink with room for `c`
bytes, however few it takes at a time. It then holds the first `c` bytes of all frames; a frame is written if it
and those before it fit together, and fails otherwise; and the sink was flushed once for each that was written. -/
theorem sink_holds_front (values : List Json) (perWrite : Option Nat) (c : Nat)
    (hperWrite : ∀ n ∈ perWrite, 1 ≤ n) :
    let frames := values.map encode
    let results := (Sink.writeFrames { perWrite, capacity := some c } frames).1
    let sink := (Sink.writeFrames { perWrite, capacity := some c } frames).2
    sink.written = frames.flatten.take c ∧
      results.length = values.length ∧
      (∀ k < values.length, (results[k]? = some (.ok ()) ↔ (frames.take (k + 1)).flatten.length ≤ c) ∧
        (results[k]? ≠ some (.ok ()) → results[k]? = some (.error (.stream "sink full")))) ∧
      sink.flushes = results.countP Except.isOk := by
  intro frames results sink
  have hempty : Sink.Filled { perWrite, capacity := some c } c [] :=
    ⟨⟨rfl, hperWrite, rfl, Nat.zero_le c⟩, List.take_nil.symm⟩
  have hframes : ∀ frame ∈ frames, 0 < frame.length := by
    intro frame hframe
    obtain ⟨v, -, rfl⟩ := List.mem_map.mp hframe
    exact length_encode_pos v
  obtain ⟨hlength, hresults, hfilled, hflushes⟩ := hempty.writeFrames hframes
  have hcount : frames.length = values.length := List.length_map _
  refine ⟨hfilled.written, hlength.trans hcount, fun k hk => ?_, hflushes.trans (Nat.zero_add _)⟩
  have hresult : results[k]? = some (Sink.outcome c (frames.take (k + 1)).flatten) :=
    hresults k (hcount ▸ hk)
  rw [hresult, Sink.outcome]
  split
  · rename_i hfits
    exact ⟨⟨fun _ => hfits, fun _ => rfl⟩, fun hne => absurd rfl hne⟩
  · rename_i hover
    exact ⟨⟨nofun, fun hfits => absurd hfits hover⟩, fun _ => rfl⟩

/-- The first frame is written, the second is torn behind five bytes, and the third finds the sink full. -/
theorem sink_holds_front_torn :
    let frames := [Json.null, .bool true, .int 5].map encode
    let results := (Sink.writeFrames { perWrite := some 3, capacity := some 30 } frames).1
    let sink := (Sink.writeFrames { perWrite := some 3, capacity := some 30 } frames).2
    (∀ n ∈ some 3, 1 ≤ n) ∧ sink.written = encode .null ++ Text.utf8 "Conte" ∧
      results[0]? = some (.ok ()) ∧ results[1]? = some (.error (.stream "sink full")) ∧
      results[2]? = some (.error (.stream "sink full")) ∧ sink.flushes = results.countP Except.isOk := by
  intro frames results sink
  have hperWrite : ∀ n ∈ some 3, 1 ≤ n := by decide
  obtain ⟨hwritten, -, hresults, hflushes⟩ :=
    sink_holds_front [Json.null, .bool true, .int 5] (some 3) 30 hperWrite
  have hfits : (frames.take 1).flatten.length ≤ 30 := by decide
  have hover : ¬ (frames.take 2).flatten.length ≤ 30 := by decide
  have hover' : ¬ (frames.take 3).flatten.length ≤ 30 := by decide
  obtain ⟨hsecond, hsecond'⟩ := hresults 1 (by decide)
  obtain ⟨hthird, hthird'⟩ := hresults 2 (by decide)
  exact ⟨hperWrite, hwritten.trans (by decide), (hresults 0 (by decide)).1.mpr hfits,
    hsecond' fun h => hover (hsecond.mp h), hthird' fun h => hover' (hthird.mp h), hflushes⟩

end EditorLink.Framing
