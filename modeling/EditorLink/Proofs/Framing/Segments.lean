import EditorLink.Proofs.Framing.Chunks
import Mathlib.Data.List.TakeWhile

/-!
# EditorLink — a stream as a row of frames

The bytes of a stream that a decoder takes as one frame: line breaks, a header block, its end mark
and a body. A fresh decoder finds exactly the frames that stand at the front of its bytes.

A segment is told from the bytes alone. It says nothing of chunks, of a buffer, or of what a decoder waits for; so the
question whether a cut tears a header block becomes one about where the cut lies in the row (`CutsEndMark`). The two
directions are proved apart: a segment at the front is decoded, and what is decoded was a segment at the front. Rows of
them follow by induction on the row and on the frames that are found.

The value of a segment is what its body parses to. A body that does not parse makes no segment of this kind; the
bytes of such frames are accounted for in `EditorLink.Proofs.Framing.Accounting`.

## Results

* `Segment`, `Segment.Reads` — a frame as it lies in a stream, and its value;
* `decode_segment`, `exists_segment_of_decode` — what is decoded is a segment at the front;
* `drain_row`, `exists_row_of_drain` — and so for a row of them;
* `CutsEndMark`, `tornAt_withLimit_iff` — where a cut has to lie to tear a header block.
-/

namespace EditorLink.Framing

/-- A frame as it lies in a stream. -/
structure Segment where
  /-- The line breaks before it. -/
  breaks : Bytes
  /-- Its header block, without the end mark. -/
  block : Bytes
  body : Bytes
  deriving Repr, DecidableEq

/-- A header block starts behind all line breaks and ends at its first end mark. -/
structure IsBlock (block : Bytes) : Prop where
  front : ∃ b rest, block = b :: rest ∧ isLineBreak b = false
  closed : endMark? (block ++ endMark) = some block.length

namespace Segment

def bytes (s : Segment) : Bytes := s.breaks ++ (s.block ++ (endMark ++ s.body))

/-- A frame that a decoder with this limit reads as `v`. -/
structure Reads (s : Segment) (limit : Nat) (v : Json) : Prop where
  breaks : ∀ b ∈ s.breaks, isLineBreak b = true
  block : IsBlock s.block
  accepted : Header.accept limit s.block = .ok s.body.length
  body : Decoder.parseBody s.body = .ok v

end Segment

/-- Bytes that are frames one behind the other, and the values of the frames. -/
inductive Row (limit : Nat) : Bytes → List Json → Prop
  | nil : Row limit [] []
  | cons {s : Segment} {v : Json} {bytes : Bytes} {values : List Json} :
    s.Reads limit v → Row limit bytes values → Row limit (s.bytes ++ bytes) (v :: values)

/-- A cut lies *in the end mark* of the header block behind `frames`, and the bytes of the block
that have come are too many only because those of the mark are counted with them. -/
def CutsEndMark (limit : Nat) (before after : Bytes) (frames : List Json) : Prop :=
  ∃ row breaks block part rest,
    before = row ++ (breaks ++ (block ++ part)) ∧ Row limit row frames ∧
    (∀ b ∈ breaks, isLineBreak b = true) ∧ IsBlock block ∧
    endMark = part ++ rest ∧ rest ≠ [] ∧ rest <+: after ∧
    block.length ≤ maxHeaderBytes ∧ maxHeaderBytes < block.length + part.length

-- ---------------------------------------------------------------------------
-- The front of the bytes
-- ---------------------------------------------------------------------------

/-- A block does not begin with a line break, so that none is dropped. -/
theorem IsBlock.dropLineBreaks {block : Bytes} (h : IsBlock block) (more : Bytes) :
    (block ++ more).dropWhile isLineBreak = block ++ more := by
  obtain ⟨b, rest, rfl, hb⟩ := h.front
  rw [List.cons_append, List.dropWhile_cons_of_neg (by simp [hb])]

/-- The first end mark behind a block is its own. -/
theorem IsBlock.endMark? {block : Bytes} (h : IsBlock block) (more : Bytes) :
    endMark? (block ++ (endMark ++ more)) = some block.length := by
  rw [← List.append_assoc]
  exact endMark?_append h.closed more

/-- The bytes before the first end mark are a header block. -/
theorem isBlock_take {bytes : Bytes} {stop : Nat}
    (hmark : endMark? (bytes.dropWhile isLineBreak) = some stop) :
    IsBlock ((bytes.dropWhile isLineBreak).take stop) := by
  obtain ⟨hat, hfirst⟩ := endMark?_eq_some_iff.mp hmark
  cases hdrop : bytes.dropWhile isLineBreak with
  | nil =>
    rw [hdrop] at hat
    exact absurd hat (not_markAt_nil stop)
  | cons b rest =>
    -- what is left when line breaks are dropped starts with no line break
    have hb : isLineBreak b = false := by
      have hne : bytes.dropWhile isLineBreak ≠ [] := by simp [hdrop]
      have hhead := List.head_dropWhile_not isLineBreak hne
      simpa only [hdrop, List.head_cons] using hhead
    rw [hdrop] at hat hfirst
    have hle := hat.add_four_le
    have hlen : ((b :: rest).take stop).length = stop := by
      rw [List.length_take]
      omega
    obtain ⟨tail, htail⟩ := hat
    constructor
    · cases stop with
      | zero =>
        -- an end mark at the front would start with a line break
        obtain ⟨rfl, -⟩ := List.cons.inj htail
        cases hb
      | succ k => exact ⟨b, rest.take k, List.take_succ_cons, hb⟩
    · rw [endMark?_eq_some_iff]
      -- an earlier mark in the block and its end mark would be an earlier one in the bytes
      refine ⟨⟨[], by rw [List.append_nil, List.drop_left]⟩, ?_⟩
      intro m hm hmat
      refine hfirst m (by omega) ?_
      have hall := hmat.append tail
      rwa [List.append_assoc, htail, List.take_append_drop] at hall

/-- A block whose end mark is cut off has no end mark. -/
theorem IsBlock.endMark?_part {block part rest : Bytes} (h : IsBlock block)
    (hmark : endMark = part ++ rest) (hrest : rest ≠ []) :
    Framing.endMark? (block ++ part) = none := by
  have hwhole := h.endMark? []
  rw [List.append_nil, hmark, ← List.append_assoc] at hwhole
  cases hfind : Framing.endMark? (block ++ part) with
  | none => rfl
  | some n =>
    -- it would be the mark of the block, which does not fit
    have hsame := endMark?_append hfind rest
    rw [hwhole, Option.some.injEq] at hsame
    have hle := (endMark?_eq_some_iff.mp hfind).1.add_four_le
    have hsum := congrArg List.length hmark
    have hpos := List.length_pos_iff.mpr hrest
    simp only [endMark, List.length_cons, List.length_nil, List.length_append] at hle hsum
    omega

namespace Decoder

/-- Dropping line breaks before decoding makes no difference. -/
theorem withLimit_extend_skipLineBreaks (limit : Nat) (bytes : Bytes) :
    ((withLimit limit).extend bytes).skipLineBreaks =
      (withLimit limit).extend (bytes.dropWhile isLineBreak) := by
  simp [withLimit, extend, skipLineBreaks]

/-- Without bytes nothing is found. -/
theorem decode_withLimit (limit : Nat) :
    (withLimit limit).decode = (.ok none, withLimit limit) := rfl

/-- Behind a header block that is accepted a body is decoded. -/
theorem decode_header {limit n : Nat} {breaks block : Bytes}
    (hbreaks : ∀ b ∈ breaks, isLineBreak b = true) (hblock : IsBlock block)
    (haccept : Header.accept limit block = .ok n) (more : Bytes) :
    ((withLimit limit).extend (breaks ++ (block ++ (endMark ++ more)))).decode =
      decodeBody { (withLimit limit).extend more with awaiting := .body n } n := by
  -- the decoder gets a name: its buffer is long, and only the facts below matter
  generalize hd : (withLimit limit).extend (breaks ++ (block ++ (endMark ++ more))) = d
  have hskip : d.skipLineBreaks = (withLimit limit).extend (block ++ (endMark ++ more)) := by
    rw [← hd, withLimit_extend_skipLineBreaks, List.dropWhile_append_of_pos hbreaks,
      hblock.dropLineBreaks]
  have hwait : d.awaiting = .header := by rw [← hd]; rfl
  have hlimit : d.maxFrameBytes = limit := by rw [← hd]; rfl
  have hbuffer : ∀ bytes, ((withLimit limit).extend bytes).buffer = bytes := fun _ => rfl
  have hmark : endMark? d.skipLineBreaks.buffer = some block.length := by
    rw [hskip, hbuffer]
    exact hblock.endMark? more
  have haccept' :
      Header.accept d.maxFrameBytes (d.skipLineBreaks.buffer.take block.length) = .ok n := by
    rw [hskip, hlimit, hbuffer, List.take_left]
    exact haccept
  have hdrop : (block ++ (endMark ++ more)).drop (block.length + 4) = more := by
    rw [← List.drop_drop, List.drop_left]
    rfl
  rw [decode_of_accepted hwait hmark haccept']
  simp only [behindHeader, hskip, hbuffer, hdrop, hlimit]
  rfl

/-- **A frame at the front** is what is decoded. -/
theorem decode_segment {s : Segment} {limit : Nat} {v : Json} (h : s.Reads limit v) (more : Bytes) :
    ((withLimit limit).extend (s.bytes ++ more)).decode =
      (.ok (some v), (withLimit limit).extend more) := by
  have hbuffer : ((withLimit limit).extend (s.body ++ more)).buffer = s.body ++ more := rfl
  simp only [Segment.bytes, List.append_assoc]
  rw [decode_header h.breaks h.block h.accepted, decodeBody_of_le]
  · simp only [hbuffer, List.take_left, List.drop_left, h.body]
    rfl
  · simp only [buffered, hbuffer, List.length_append]
    omega

/-- What is decoded is **a frame at the front**. -/
theorem exists_segment_of_decode {limit : Nat} {bytes : Bytes} {v : Json} {d' : Decoder}
    (h : ((withLimit limit).extend bytes).decode = (.ok (some v), d')) :
    ∃ s rest, Segment.Reads s limit v ∧ bytes = s.bytes ++ rest ∧
      d' = (withLimit limit).extend rest := by
  have hwait : ((withLimit limit).extend bytes).awaiting = .header := rfl
  have hskip := withLimit_extend_skipLineBreaks limit bytes
  have hbuffer : ((withLimit limit).extend (bytes.dropWhile isLineBreak)).buffer =
    bytes.dropWhile isLineBreak := rfl
  cases hmark : endMark? ((withLimit limit).extend bytes).skipLineBreaks.buffer with
  | none =>
    rw [decode_of_no_mark hwait hmark, Prod.mk.injEq] at h
    split at h <;> simp at h
  | some stop =>
    cases haccept : Header.accept ((withLimit limit).extend bytes).maxFrameBytes
        (((withLimit limit).extend bytes).skipLineBreaks.buffer.take stop) with
    | error fault =>
      rw [decode_of_refused hwait hmark haccept] at h
      simp at h
    | ok length =>
      rw [decode_of_accepted hwait hmark haccept] at h
      rw [hskip, hbuffer] at hmark haccept
      obtain ⟨hat, -⟩ := endMark?_eq_some_iff.mp hmark
      have hle := hat.add_four_le
      -- behind the mark comes the tail, and the body is taken from it
      obtain ⟨tail, htail⟩ := hat
      have hdrop : (bytes.dropWhile isLineBreak).drop (stop + 4) = tail := by
        rw [← List.drop_drop, ← htail]
        rfl
      rcases Nat.lt_or_ge
        (((withLimit limit).extend bytes).behindHeader stop length).buffered length with hlt | hge
      · rw [decodeBody_of_lt hlt] at h
        simp at h
      · rw [decodeBody_of_le hge, Prod.mk.injEq] at h
        obtain ⟨hbody, hd'⟩ := h
        simp only [behindHeader, buffered, hskip, hbuffer, hdrop] at hge hbody hd'
        -- line breaks, block and body are cut out of the bytes where the decoder cut them
        refine ⟨⟨bytes.takeWhile isLineBreak, (bytes.dropWhile isLineBreak).take stop,
          tail.take length⟩, tail.drop length, ⟨?_, ?_, ?_, ?_⟩, ?_, ?_⟩
        · exact fun b hb => List.mem_takeWhile_imp hb
        · exact isBlock_take hmark
        · rw [List.length_take, Nat.min_eq_left hge]
          exact haccept
        · cases hparse : parseBody (tail.take length) with
          | error fault => rw [hparse] at hbody; cases hbody
          | ok v' => rw [hparse] at hbody; cases hbody; rfl
        · simp only [Segment.bytes, List.append_assoc, List.take_append_drop, htail,
            List.takeWhile_append_dropWhile]
        · rw [← hd']
          rfl

-- ---------------------------------------------------------------------------
-- Rows of frames
-- ---------------------------------------------------------------------------

/-- A row of frames at the front is drained first. -/
theorem drain_row {limit : Nat} {row : Bytes} {values : List Json} (h : Row limit row values)
    (more : Bytes) :
    ((withLimit limit).extend (row ++ more)).drain =
      (((withLimit limit).extend more).drain.1.after values,
        ((withLimit limit).extend more).drain.2) := by
  induction h with
  | nil => rfl
  | cons hs _ ih =>
    rw [List.append_assoc, drain_of_frame (decode_segment hs _), ih]
    rfl

/-- What is drained is a row of frames at the front, and what is drained of the rest. -/
theorem exists_row_of_drain {limit : Nat} {bytes : Bytes} {frames : List Json}
    {fault : Option Fault} {d' : Decoder}
    (h : ((withLimit limit).extend bytes).drain = (⟨frames, fault⟩, d')) :
    ∃ row rest, Row limit row frames ∧ bytes = row ++ rest ∧
      ((withLimit limit).extend rest).drain = (⟨[], fault⟩, d') := by
  induction frames generalizing bytes with
  | nil => exact ⟨[], bytes, .nil, rfl, h⟩
  | cons v frames ih =>
    rw [Decoder.drain] at h
    split at h
    · rename_i w d₁ hdecode
      rw [← drain_of_frame hdecode] at h
      obtain ⟨rest, hframes, hrest⟩ := (drain_of_frame_iff hdecode).mp h
      obtain ⟨rfl, rfl⟩ := List.cons.inj hframes
      -- one segment at the front, and what it leaves is again a fresh decoder
      obtain ⟨s, more, hs, rfl, rfl⟩ := exists_segment_of_decode hdecode
      obtain ⟨row, tail, hrow, rfl, htail⟩ := ih hrest
      exact ⟨s.bytes ++ row, tail, .cons hs hrow, (List.append_assoc _ _ _).symm, htail⟩
    · simp at h
    · simp at h

-- ---------------------------------------------------------------------------
-- Cuts in end marks
-- ---------------------------------------------------------------------------

/-- Where a cut lies that tears the header block at the front of a stream. -/
theorem tornBy_withLimit_iff {limit : Nat} {bytes after : Bytes} :
    ((withLimit limit).extend bytes).TornBy after ↔
      ∃ breaks block part rest, bytes = breaks ++ (block ++ part) ∧
        (∀ b ∈ breaks, isLineBreak b = true) ∧ IsBlock block ∧
        endMark = part ++ rest ∧ rest ≠ [] ∧ rest <+: after ∧
        block.length ≤ maxHeaderBytes ∧ maxHeaderBytes < block.length + part.length := by
  have hbuffer : ∀ bytes, ((withLimit limit).extend bytes).buffer = bytes := fun _ => rfl
  unfold TornBy
  rw [withLimit_extend_skipLineBreaks, buffered, hbuffer]
  constructor
  · rintro ⟨-, hnone, hlong, stop, hstop, hlater⟩
    -- the mark ends behind the bytes at hand, but starts among them, for these are too many
    have hlate := endMark?_append_of_none hnone hlater
    have hne : bytes.dropWhile isLineBreak ≠ [] := by
      intro hnil
      simp [hnil] at hlong
    rw [← dropLineBreaks_append_of_ne_nil hne] at hlater
    have hblock := isBlock_take hlater
    rw [dropLineBreaks_append_of_ne_nil hne] at hlater hblock
    generalize hfront : bytes.dropWhile isLineBreak = front at *
    rw [List.take_append_of_le_length (by omega)] at hblock
    obtain ⟨tail, htail⟩ := (endMark?_eq_some_iff.mp hlater).1
    rw [List.drop_append_of_le_length (by omega)] at htail
    have hlt : (front.drop stop).length < endMark.length := by
      rw [List.length_drop]
      simp only [endMark, List.length_cons, List.length_nil]
      omega
    -- what has come of the mark, and what comes later
    obtain ⟨rest, hrest⟩ : front.drop stop <+: endMark :=
      List.prefix_of_prefix_length_le ⟨after, htail.symm⟩ (List.prefix_append _ _)
        (Nat.le_of_lt hlt)
    rw [← hrest, List.append_assoc] at htail
    refine ⟨bytes.takeWhile isLineBreak, front.take stop, front.drop stop, rest, ?_, ?_, hblock,
      hrest.symm, ?_, ⟨tail, List.append_cancel_left htail⟩, ?_, ?_⟩
    · rw [List.take_append_drop, ← hfront, List.takeWhile_append_dropWhile]
    · exact fun b hb => List.mem_takeWhile_imp hb
    · rintro rfl
      rw [List.append_nil] at hrest
      rw [hrest] at hlt
      exact Nat.lt_irrefl _ hlt
    · rw [List.length_take]
      omega
    · rw [← List.length_append, List.take_append_drop]
      exact hlong
  · rintro ⟨breaks, block, part, rest, rfl, hbreaks, hblock, hmark, hrest, hafter, hshort, hlong⟩
    obtain ⟨tail, rfl⟩ := hafter
    rw [List.dropWhile_append_of_pos hbreaks, hblock.dropLineBreaks, List.length_append]
    refine ⟨rfl, hblock.endMark?_part hmark hrest, hlong, block.length, hshort, ?_⟩
    have hwhole := hblock.endMark? tail
    rw [hmark] at hwhole
    simpa only [List.append_assoc] using hwhole

/-- Where a cut lies that tears a header block. -/
theorem tornAt_withLimit_iff {limit : Nat} {before after : Bytes} {frames : List Json} :
    (withLimit limit).TornAt before after frames ↔ CutsEndMark limit before after frames := by
  constructor
  · rintro ⟨d', hdrain, htorn⟩
    obtain ⟨row, bytes, hrow, rfl, hrest⟩ := exists_row_of_drain hdrain
    -- behind the row nothing is drained but the fault
    have hdecode : ((withLimit limit).extend bytes).decode = (.error tooLarge, d') := by
      rw [drain] at hrest
      split at hrest
      · simp [Transcript.after] at hrest
      · simp at hrest
      · rename_i hdecode
        simp only [Prod.mk.injEq, Transcript.mk.injEq, Option.some.injEq, true_and] at hrest
        rw [hdecode, hrest.1, hrest.2]
    obtain ⟨-, rfl, -⟩ := decode_tooLarge hdecode
    obtain ⟨breaks, block, part, rest, rfl, hcut⟩ :=
      tornBy_withLimit_iff.mp (tornBy_skipLineBreaks.mp htorn)
    exact ⟨row, breaks, block, part, rest, rfl, hrow, hcut⟩
  · rintro ⟨row, breaks, block, part, rest, rfl, hrow, hcut⟩
    have htorn : ((withLimit limit).extend (breaks ++ (block ++ part))).TornBy after :=
      tornBy_withLimit_iff.mpr ⟨breaks, block, part, rest, rfl, hcut⟩
    refine ⟨_, ?_, tornBy_skipLineBreaks.mpr htorn⟩
    rw [drain_row hrow, drain_of_fault htorn.decode]
    simp [Transcript.after]

end Decoder
end EditorLink.Framing
