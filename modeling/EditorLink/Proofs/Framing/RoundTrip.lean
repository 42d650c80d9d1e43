import EditorLink.Proofs.Framing.Header
import EditorLink.Proofs.Framing.Reader
import EditorLink.Proofs.Json.RoundTrip

/-!
# EditorLink — frames, written and read

Values are written as frames one behind the other, the stream is cut off somewhere, and what comes
before the cut is read. In what portions the bytes come, and whether the stream ends or fails, does not matter.

What comes through unchanged is restricted in three ways, each of which is needed. A double is written by rules that
are not modelled, and so is left out. Arrays and objects in one another are read up to a depth of 127. A body must not
be longer than the limit of the reader. Beyond that, members are read in the order of their keys: a value whose members
are in this order and whose keys are all different comes back as it is, and any other comes back in order.

A header that is written is far from the greatest size, so that no cut can tear it; this is what lets the theorem say
"any cut" without the exception of `EditorLink.Proofs.Framing.Cuttings`.

## Results

* `Transmissible` — the values that come through: no doubles, not nested too deep, not too long;
* `Sendable` — those of them that come through as they are, since their members are in order;
* `reads_normalize`, `reads_segmentOf` — such a value is written as a frame that is read as the value;
* `decode_part` — of a frame that is cut off nothing is read, and it shows at the end;
* `wholeBefore` — the values whose frames lie wholly before the cut;
* `readAll_encodeAll` — these are read, in order, and nothing else.
-/

namespace EditorLink.Framing

-- ---------------------------------------------------------------------------
-- One value
-- ---------------------------------------------------------------------------

/-- A value that can be sent to a reader with this limit. -/
structure Sendable (limit : Nat) (v : Json) : Prop where
  wellFormed : v.WellFormed
  noDouble : v.NoDouble
  depth : v.depth ≤ Json.maxDepth
  fits : (Text.utf8 v.write).length ≤ limit

/-- A value whose frame a reader with this limit takes, in whatever order its members stand. -/
structure Transmissible (limit : Nat) (v : Json) : Prop where
  inRange : v.InRange
  noDouble : v.NoDouble
  depth : v.depth ≤ Json.maxDepth
  fits : (Text.utf8 v.write).length ≤ limit

/-- Values in order are among those that come through. -/
theorem Sendable.transmissible {limit : Nat} {v : Json} (h : Sendable limit v) :
    Transmissible limit v :=
  ⟨h.wellFormed.inRange, h.noDouble, h.depth, h.fits⟩

def segmentOf (v : Json) : Segment where
  breaks := []
  block := lengthBlock [' '] (Text.utf8 v.write).length
  body := Text.utf8 v.write

theorem blank_of_mem_singleton : ∀ c ∈ [' '], c = ' ' := fun _ hc => List.mem_singleton.mp hc

/-- A frame that is written is a segment of a stream. -/
theorem encode_eq (v : Json) : encode v = (segmentOf v).bytes := by
  rw [encode, frameOf, headerOf_eq, Segment.bytes, segmentOf, List.nil_append, List.append_assoc]

/-- The header of a length of 64 bits is short. -/
theorem length_lengthBlock_le {n : Nat} (h : n < UInt64.size) :
    (lengthBlock [' '] n).length ≤ 36 := by
  have hdigits : (Nat.toDigits 10 n).length ≤ 20 :=
    (Nat.length_toDigits_le_iff (by decide) (by decide)).mpr (Nat.lt_trans h (by decide))
  rw [length_lengthBlock blank_of_mem_singleton, List.length_singleton]
  omega

/-- **A value that is written is read**: its frame is one that a decoder reads as the value, with
its members in order. -/
theorem reads_normalize {limit : Nat} (hlimit : limit < UInt64.size) {v : Json}
    (h : Transmissible limit v) :
    (segmentOf v).Reads limit v.normalize := by
  have hsize : (Text.utf8 v.write).length < UInt64.size := Nat.lt_of_le_of_lt h.fits hlimit
  -- every value is written with at least one byte
  have hpos : 0 < (Text.utf8 v.write).length := by
    obtain ⟨b, rest, heq, -, -⟩ := Json.write_front h.noDouble
    rw [heq, List.length_cons]
    exact Nat.succ_pos _
  refine ⟨by simp [segmentOf], isBlock_lengthBlock blank_of_mem_singleton _, ?_, ?_⟩
  · exact accept_lengthBlock blank_of_mem_singleton hpos hsize h.fits
      (Nat.le_trans (length_lengthBlock_le hsize) (by decide))
  · rw [segmentOf, Decoder.parseBody, Json.read_write_normalize h.inRange h.noDouble h.depth]

/-- **A value in order** is read as it was written. -/
theorem reads_segmentOf {limit : Nat} (hlimit : limit < UInt64.size) {v : Json}
    (h : Sendable limit v) :
    (segmentOf v).Reads limit v := by
  have hreads := reads_normalize hlimit h.transmissible
  rwa [Json.normalize_of_wellFormed h.wellFormed] at hreads

/-- A header starts with a byte that is neither a line break nor a blank. -/
theorem exists_cons_lengthBlock (n : Nat) : ∃ rest, lengthBlock [' '] n = 67 :: rest := by
  have hname : writtenName = 'C' :: "ontent-Length".toList := rfl
  rw [lengthBlock_eq_map blank_of_mem_singleton, lengthLine, hname, List.cons_append, List.map_cons]
  exact ⟨_, rfl⟩

namespace Decoder

/-- The frame of a value at the front is decoded as the value. -/
theorem decode_encode {limit : Nat} (hlimit : limit < UInt64.size) {v : Json}
    (h : Transmissible limit v) (more : Bytes) :
    ((withLimit limit).extend (encode v ++ more)).decode =
      (.ok (some v.normalize), (withLimit limit).extend more) := by
  rw [encode_eq]
  exact decode_segment (reads_normalize hlimit h) more

/-- A stream may end between frames, and nowhere else. -/
theorem finish_withLimit (limit : Nat) (bytes : Bytes) :
    ((withLimit limit).extend bytes).finish =
      if bytes.all isBlankByte then .ok () else .error .unexpectedEnd := rfl

/-- Of a header that is cut off nothing is read. -/
theorem decode_part_of_header {limit : Nat} {v : Json} {part rest : Bytes}
    (hlen : (lengthBlock [' '] (Text.utf8 v.write).length).length ≤ 36)
    (hsplit : encode v = part ++ rest)
    (hshort : part.length < (lengthBlock [' '] (Text.utf8 v.write).length).length + 4) :
    ((withLimit limit).extend part).decode = (.ok none, (withLimit limit).extend part) ∧
      part.all isBlankByte = decide (part = []) := by
  have hblock : IsBlock (lengthBlock [' '] (Text.utf8 v.write).length) :=
    isBlock_lengthBlock blank_of_mem_singleton _
  have hwhole := hblock.endMark? (Text.utf8 v.write)
  obtain ⟨front, hfront⟩ := exists_cons_lengthBlock (Text.utf8 v.write).length
  rw [encode_eq, Segment.bytes, segmentOf, List.nil_append] at hsplit
  dsimp only at hsplit
  have hmark : endMark? part = none := by
    cases hfind : endMark? part with
    | none => rfl
    | some m =>
      -- it would be the mark of the whole header, which has not come yet
      have hsame := endMark?_append hfind rest
      rw [← hsplit, hwhole, Option.some.injEq] at hsame
      have hle := (endMark?_eq_some_iff.mp hfind).1.add_four_le
      omega
  -- the part begins with the first letter of the header, which is no blank
  have hfirst : part = [] ∨ ∃ tail, part = 67 :: tail := by
    cases part with
    | nil => exact .inl rfl
    | cons b tail =>
      rw [hfront, List.cons_append, List.cons_append] at hsplit
      exact .inr ⟨tail, by rw [(List.cons.inj hsplit).1]⟩
  have hskip : ((withLimit limit).extend part).skipLineBreaks = (withLimit limit).extend part := by
    rw [withLimit_extend_skipLineBreaks]
    rcases hfirst with rfl | ⟨tail, rfl⟩ <;> rfl
  have hmark' : endMark? ((withLimit limit).extend part).skipLineBreaks.buffer = none := by
    rw [hskip]
    exact hmark
  constructor
  · rw [decode_of_no_mark rfl hmark', hskip, if_neg]
    rw [Nat.not_lt, buffered]
    exact Nat.le_trans (Nat.le_of_lt hshort)
      (Nat.le_trans (Nat.add_le_add_right hlen 4) (by decide))
  · rcases hfirst with rfl | ⟨tail, rfl⟩
    · rfl
    · simp [isBlankByte]

/-- **Of a frame that is cut off** nothing is read, and a stream may not end there unless nothing of
the frame has come. -/
theorem decode_part {limit : Nat} (hlimit : limit < UInt64.size) {v : Json} (h : Sendable limit v)
    {part rest : Bytes} (hsplit : encode v = part ++ rest) (hrest : rest ≠ []) :
    ∃ d', ((withLimit limit).extend part).decode = (.ok none, d') ∧
      d'.finish = if part = [] then .ok () else .error .unexpectedEnd := by
  have hlen := length_lengthBlock_le (Nat.lt_of_le_of_lt h.fits hlimit)
  obtain ⟨hbreaks, hblock, haccept, -⟩ := reads_segmentOf hlimit h
  rcases Nat.lt_or_ge part.length ((segmentOf v).block.length + 4) with hshort | hlong
  · obtain ⟨hdecode, hblank⟩ := decode_part_of_header hlen hsplit hshort
    refine ⟨_, hdecode, ?_⟩
    rw [finish_withLimit, hblank]
    simp
  · -- the header has come, and a part of the body
    rw [encode_eq, Segment.bytes, ← List.append_assoc, ← List.append_assoc] at hsplit
    have hwhole : (segmentOf v).breaks ++ (segmentOf v).block ++ endMark <+: part :=
      List.prefix_of_prefix_length_le ⟨_, hsplit⟩ ⟨rest, rfl⟩ (by
        simp only [segmentOf, endMark, List.nil_append, List.length_append, List.length_cons,
          List.length_nil] at hlong ⊢
        omega)
    obtain ⟨come, rfl⟩ := hwhole
    rw [List.append_assoc _ come, List.append_cancel_left_eq] at hsplit
    have hmissing : come.length < (segmentOf v).body.length := by
      rw [hsplit, List.length_append]
      have hpos := List.length_pos_iff.mpr hrest
      omega
    refine ⟨{ (withLimit limit).extend come with
        awaiting := .body (segmentOf v).body.length }, ?_, ?_⟩
    · simp only [List.append_assoc]
      rw [decode_header hbreaks hblock haccept, decodeBody_of_lt hmissing]
    · have hne : (segmentOf v).breaks ++ (segmentOf v).block ++ endMark ++ come ≠ [] := by
        simp [endMark]
      rw [if_neg hne]
      rfl

end Decoder

-- ---------------------------------------------------------------------------
-- Streams
-- ---------------------------------------------------------------------------

def encodeAll (values : List Json) : Bytes := values.flatMap encode

theorem encodeAll_cons (v : Json) (values : List Json) :
    encodeAll (v :: values) = encode v ++ encodeAll values := rfl

/-- The values whose frames lie wholly among the first `n` bytes of the stream. -/
def wholeBefore (n : Nat) : List Json → List Json
  | [] => []
  | v :: rest => if (encode v).length ≤ n then v :: wholeBefore (n - (encode v).length) rest else []

/-- A cut falls on a frame boundary if the whole frames before it are all that lies before it. -/
def AtBoundary (n : Nat) (values : List Json) : Prop :=
  (encodeAll (wholeBefore n values)).length = n

instance (n : Nat) (values : List Json) : Decidable (AtBoundary n values) := by
  unfold AtBoundary
  infer_instance

/-- What lies before the cut is among the values that were written. -/
theorem mem_of_mem_wholeBefore {n : Nat} {values : List Json} {v : Json}
    (h : v ∈ wholeBefore n values) :
    v ∈ values := by
  induction values generalizing n with
  | nil => exact h
  | cons w rest ih =>
    rw [wholeBefore] at h
    split at h
    · rcases List.mem_cons.mp h with rfl | hmem
      · exact List.mem_cons_self
      · exact List.mem_cons_of_mem w (ih hmem)
    · cases h

/-- What lies before a cut: whole frames, and a part of the next one or nothing. -/
theorem take_encodeAll {n : Nat} {values : List Json} (hn : n ≤ (encodeAll values).length) :
    (encodeAll values).take n = encodeAll (wholeBefore n values) ∧ AtBoundary n values ∨
      ∃ v ∈ values, ∃ part rest, encode v = part ++ rest ∧ part ≠ [] ∧ rest ≠ [] ∧
        (encodeAll values).take n = encodeAll (wholeBefore n values) ++ part ∧
        ¬ AtBoundary n values := by
  induction values generalizing n with
  | nil =>
    obtain rfl : n = 0 := Nat.le_zero.mp hn
    exact .inl ⟨rfl, rfl⟩
  | cons v values ih =>
    rw [encodeAll_cons, List.length_append] at hn
    rw [encodeAll_cons]
    rcases Nat.lt_or_ge n (encode v).length with hlt | hge
    · -- the cut falls before the end of the first frame
      have hnone : wholeBefore n (v :: values) = [] := by
        rw [wholeBefore, if_neg (Nat.not_le.mpr hlt)]
      rw [AtBoundary, hnone, List.take_append_of_le_length (Nat.le_of_lt hlt)]
      rcases Nat.eq_zero_or_pos n with rfl | hpos
      · exact .inl ⟨rfl, rfl⟩
      · refine .inr ⟨v, List.mem_cons_self, (encode v).take n, (encode v).drop n,
          (List.take_append_drop n _).symm, ?_, ?_, rfl, ?_⟩
        · rw [← List.length_pos_iff, List.length_take]
          omega
        · rw [← List.length_pos_iff, List.length_drop]
          omega
        · exact Nat.ne_of_lt hpos
    · -- the first frame lies wholly before the cut
      obtain ⟨m, rfl⟩ := Nat.exists_eq_add_of_le hge
      have hcons :
          wholeBefore ((encode v).length + m) (v :: values) = v :: wholeBefore m values := by
        rw [wholeBefore, if_pos (Nat.le_add_right _ _), Nat.add_sub_cancel_left]
      have hbound : AtBoundary ((encode v).length + m) (v :: values) ↔ AtBoundary m values := by
        rw [AtBoundary, AtBoundary, hcons, encodeAll_cons, List.length_append,
          Nat.add_left_cancel_iff]
      rw [hcons, hbound, List.take_length_add_append, encodeAll_cons]
      rcases ih (Nat.le_of_add_le_add_left hn) with ⟨htake, hat⟩ |
        ⟨w, hw, part, rest, hsplit, hpart, hrest, htake, hat⟩
      · exact .inl ⟨by rw [htake], hat⟩
      · refine .inr ⟨w, List.mem_cons_of_mem v hw, part, rest, hsplit, hpart, hrest, ?_, hat⟩
        rw [htake, List.append_assoc]

/-- The frames of values are a row. -/
theorem row_encodeAll {limit : Nat} (hlimit : limit < UInt64.size) {values : List Json}
    (h : ∀ v ∈ values, Sendable limit v) : Row limit (encodeAll values) values := by
  induction values with
  | nil => exact .nil
  | cons v rest ih =>
    rw [encodeAll_cons, encode_eq]
    exact .cons (reads_segmentOf hlimit (h v List.mem_cons_self))
      (ih fun w hw => h w (List.mem_cons_of_mem v hw))

/-- What a decoder finds before a cut. -/
theorem drain_take_encodeAll {limit : Nat} (hlimit : limit < UInt64.size) {values : List Json}
    (h : ∀ v ∈ values, Sendable limit v) {n : Nat} (hn : n ≤ (encodeAll values).length) :
    ∃ d', ((Decoder.withLimit limit).extend ((encodeAll values).take n)).drain =
        (⟨wholeBefore n values, none⟩, d') ∧
      d'.finish = if AtBoundary n values then .ok () else .error .unexpectedEnd := by
  have hrow : Row limit (encodeAll (wholeBefore n values)) (wholeBefore n values) :=
    row_encodeAll hlimit fun v hv => h v (mem_of_mem_wholeBefore hv)
  rcases take_encodeAll hn with ⟨htake, hbound⟩ |
    ⟨v, hv, part, rest, hsplit, hpart, hrest, htake, hbound⟩
  · -- the cut falls between two frames
    have hdrain := Decoder.drain_row hrow []
    rw [List.append_nil, Decoder.extend_nil,
      Decoder.drain_of_missing (Decoder.decode_withLimit limit)] at hdrain
    refine ⟨Decoder.withLimit limit, ?_, ?_⟩
    · rw [htake, hdrain, Transcript.after, List.append_nil]
    · rw [if_pos hbound]
      rfl
  · -- the cut falls inside a frame, of which a part is left over
    obtain ⟨d', hdecode, hfinish⟩ := Decoder.decode_part hlimit (h v hv) hsplit hrest
    refine ⟨d', ?_, ?_⟩
    · rw [htake, Decoder.drain_row hrow, Decoder.drain_of_missing hdecode, Transcript.after,
        List.append_nil]
    · rw [hfinish, if_neg hpart, if_neg hbound]

/-- **The round trip.** A reader that is given the frames of values up to a cut, in whatever chunks,
finds the values whose frames lie wholly before the cut, in order; then the failure of its source,
or the end of the stream if the cut falls on a frame boundary, or else that the stream ended inside
a frame. -/
theorem readAll_encodeAll {limit : UInt64} {values : List Json}
    (hvalues : ∀ v ∈ values, Sendable limit.toNat v) {n : Nat} (hn : n ≤ (encodeAll values).length)
    {chunks : List Bytes} (hchunks : chunks.flatten = (encodeAll values).take n)
    (failure : Option String) :
    FrameReader.readAll ⟨chunks.map .data ++ [closing failure], Decoder.withLimit limit.toNat⟩ =
      (wholeBefore n values,
        match failure with
        | some reason => .fault (.stream reason)
        | none => if AtBoundary n values then .ended else .fault .unexpectedEnd) := by
  -- what has come up to any read is cut off somewhere, too, and that is never a fault
  have hclean : ∀ before after, chunks.flatten = before ++ after →
      ((Decoder.withLimit limit.toNat).extend before).drain.1.fault = none := by
    intro before after hsplit
    rw [hchunks] at hsplit
    have hle : before.length ≤ (encodeAll values).length := by
      have hlen := congrArg List.length hsplit
      rw [List.length_take, List.length_append] at hlen
      omega
    have hbefore : before = (encodeAll values).take before.length :=
      List.prefix_iff_eq_take.mp (List.IsPrefix.trans ⟨after, hsplit.symm⟩ (List.take_prefix _ _))
    obtain ⟨d', hdrain, -⟩ := drain_take_encodeAll limit.toNat_lt hvalues hle
    rw [hbefore, hdrain]
  obtain ⟨d', hdrain, hfinish⟩ := drain_take_encodeAll limit.toNat_lt hvalues hn
  rw [FrameReader.readAll_eq_drain (delivers_chunks failure chunks) hclean, hchunks, hdrain]
  cases failure with
  | some reason => rfl
  | none =>
    by_cases hbound : AtBoundary n values
    · simp only [FrameReader.atClose, hfinish, if_pos hbound]
    · simp only [FrameReader.atClose, hfinish, if_neg hbound]

/-- Two values, the frame of the first of 37 bytes. -/
def twoValues : List Json := [.obj [("name", .str "\u00e9\n")], .int (-7)]

theorem sendable_twoValues : ∀ v ∈ twoValues, Sendable (15 : UInt64).toNat v := by
  intro v hv
  rcases List.mem_cons.mp hv with rfl | hv
  · exact ⟨⟨trivial, trivial, trivial⟩, ⟨trivial, trivial⟩, by decide, by decide⟩
  · obtain rfl := List.mem_singleton.mp hv
    exact ⟨(by decide : Json.integerRange (-7)), trivial, by decide, by decide⟩

/-- The cut falls into the second frame. -/
theorem wholeBefore_twoValues : wholeBefore 40 twoValues = twoValues.take 1 := by
  have hfirst : (encode (.obj [("name", .str "\u00e9\n")])).length = 37 := rfl
  have hsecond : (encode (.int (-7))).length = 23 := rfl
  simp [twoValues, wholeBefore, hfirst, hsecond]

/-- Three bytes of the second frame are not enough, in two chunks or otherwise. -/
theorem readAll_twoValues :
    FrameReader.readAll
        ⟨[(encodeAll twoValues).take 20, ((encodeAll twoValues).take 40).drop 20].map .data ++
          [closing none], Decoder.withLimit (15 : UInt64).toNat⟩ =
      (twoValues.take 1, .fault .unexpectedEnd) := by
  have hn : 40 ≤ (encodeAll twoValues).length := by decide +kernel
  have hchunks : [(encodeAll twoValues).take 20, ((encodeAll twoValues).take 40).drop 20].flatten =
      (encodeAll twoValues).take 40 := by
    have hfirst : (encodeAll twoValues).take 20 = ((encodeAll twoValues).take 40).take 20 := by
      rw [List.take_take, Nat.min_eq_left (by decide)]
    simp only [List.flatten_cons, List.flatten_nil, List.append_nil]
    rw [hfirst, List.take_append_drop]
  have hbound : ¬ AtBoundary 40 twoValues := by
    rw [AtBoundary, wholeBefore_twoValues]
    decide +kernel
  rw [readAll_encodeAll sendable_twoValues hn hchunks none, wholeBefore_twoValues]
  simp only [if_neg hbound]

end EditorLink.Framing
