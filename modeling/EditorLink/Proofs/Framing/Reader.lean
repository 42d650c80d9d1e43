import EditorLink.Framing.Source
import EditorLink.Proofs.Framing.Chunks

/-!
# EditorLink — reading a source to its end

A reader asks for one frame after the other until there is none. However its source gives the bytes,
it finds what a decoder finds that holds all of them.

A source may give its bytes in portions of any size, may give empty portions, and at the end closes or fails. `Delivers`
says what a source gives in all and how it ends, and forgets the portions; what a reader finds is then told from the
bytes alone. A source that gives nothing for the time being is a different matter: then the reader waits, which is the
subject of `EditorLink.Proofs.Framing.Arrivals`.

The hypothesis that no bytes on the way are a fault excludes just the blocks that a cut can tear. Where the source ends
in the middle of a frame the reader reports it, and where it fails the reader passes the failure on.

## Results

* `Delivers` — a source that gives certain bytes and then ends or fails;
* `FrameReader.readAll` — the frames that are read, and what comes instead of a further one;
* `readAll_eq_drain` — reading comes to what draining all bytes comes to, if no bytes on the way
  are a fault.
-/

namespace EditorLink.Framing

-- ---------------------------------------------------------------------------
-- Sources
-- ---------------------------------------------------------------------------

/-- What closes a source: its end, or a failure. -/
def closing : Option String → Arrival
  | none => .ended
  | some reason => .failed reason

/-- A source that gives these bytes and is closed then. -/
inductive Delivers (failure : Option String) : Source → Bytes → Prop
  | closed : Delivers failure [closing failure] []
  | data {s : Source} {pending : Bytes} (bytes : Bytes) :
    Delivers failure s pending → Delivers failure (.data bytes :: s) (bytes ++ pending)

theorem delivers_chunks (failure : Option String) (chunks : List Bytes) :
    Delivers failure (chunks.map .data ++ [closing failure]) chunks.flatten := by
  induction chunks with
  | nil => exact .closed
  | cons chunk rest ih => exact ih.data chunk

/-- One read gives the first of the bytes, or finds the source closed. -/
theorem Delivers.read {failure : Option String} {s : Source} {pending : Bytes}
    (h : Delivers failure s pending) :
    (pending = [] ∧ ∃ s', s.read = (some (closing failure), s')) ∨
      ∃ bytes rest s', pending = bytes ++ rest ∧ s.read = (some (.data bytes), s') ∧
        Delivers failure s' rest := by
  -- empty pieces are passed over, which is what the induction is for
  induction h with
  | closed => cases failure <;> exact .inl ⟨rfl, _, rfl⟩
  | @data s pending bytes hs ih =>
    by_cases hempty : bytes.isEmpty = true
    · rw [Source.read, if_pos hempty, List.isEmpty_iff.mp hempty, List.nil_append]
      exact ih
    · rw [Source.read, if_neg hempty]
      by_cases hshort : bytes.length ≤ readBytes
      · rw [if_pos hshort]
        exact .inr ⟨bytes, pending, s, rfl, rfl, hs⟩
      -- what is too long for one read stays at the front of the source
      · rw [if_neg hshort]
        refine .inr ⟨bytes.take readBytes, bytes.drop readBytes ++ pending, _, ?_, rfl, hs.data _⟩
        rw [← List.append_assoc, List.take_append_drop]

/-- The bytes of a read are taken from what is left to read. -/
theorem Source.size_add_length_le {s s' : Source} {bytes : Bytes}
    (h : s.read = (some (.data bytes), s')) : s'.size + bytes.length ≤ s.size := by
  induction s with
  | nil => simp [read] at h
  | cons a rest ih =>
    cases a with
    | ended => simp [read] at h
    | failed reason => simp [read] at h
    | data bs =>
      rw [read] at h
      split at h
      · have hle := ih h
        simp only [size]
        omega
      · split at h
        · simp only [Prod.mk.injEq, Option.some.injEq, Arrival.data.injEq] at h
          rw [← h.1, ← h.2]
          simp only [size]
          omega
        · simp only [Prod.mk.injEq, Option.some.injEq, Arrival.data.injEq] at h
          rw [← h.1, ← h.2]
          simp only [size, List.length_take, List.length_drop]
          omega

/-- A decoder that misses bytes holds no more than before. -/
theorem Decoder.buffered_le_of_missing {d d' : Decoder} (h : d.decode = (.ok none, d')) :
    d'.buffered ≤ d.buffered := by
  have hskip : d.skipLineBreaks.buffered ≤ d.buffered := (List.dropWhile_suffix _).length_le
  cases hwait : d.awaiting with
  | body n =>
    rw [decode_of_body hwait] at h
    rw [eq_of_decodeBody_missing h]
  | header =>
    cases hmark : endMark? d.skipLineBreaks.buffer with
    | none =>
      rw [decode_of_no_mark hwait hmark, Prod.mk.injEq] at h
      rw [← h.2]
      exact hskip
    | some stop =>
      cases haccept : Header.accept d.maxFrameBytes (d.skipLineBreaks.buffer.take stop) with
      | error fault =>
        rw [decode_of_refused hwait hmark haccept] at h
        simp at h
      | ok length =>
        rw [decode_of_accepted hwait hmark haccept] at h
        rw [eq_of_decodeBody_missing h]
        simp only [behindHeader, buffered, List.length_drop] at hskip ⊢
        omega

namespace FrameReader

/-- What a reader holds and has before it. -/
def unread (r : FrameReader) : Nat := r.source.size + r.decoder.buffered

-- ---------------------------------------------------------------------------
-- One frame
-- ---------------------------------------------------------------------------

/-- A frame that is at hand is given without a read. -/
theorem next_of_frame {s : Source} {d d' : Decoder} {v : Json} (h : d.decode = (.ok (some v), d')) :
    next ⟨s, d⟩ = (.frame v, ⟨s, d'⟩) := by
  rw [next]
  split <;> simp_all

/-- Bytes are read, and the call goes on with them. -/
theorem next_of_data {s s' : Source} {d d' : Decoder} {bytes : Bytes}
    (h : d.decode = (.ok none, d'))
    (hread : s.read = (some (.data bytes), s')) : next ⟨s, d⟩ = next ⟨s', d'.extend bytes⟩ := by
  rw [next]
  split <;> simp_all
  split <;> simp_all

/-- A fault in the bytes at hand is given as it is. -/
theorem next_of_fault {s : Source} {d d' : Decoder} {fault : Fault}
    (h : d.decode = (.error fault, d')) :
    next ⟨s, d⟩ = (.fault fault, ⟨s, d'⟩) := by
  rw [next]
  split <;> simp_all

/-- What a reader finds behind the last frame when its source is closed. -/
def atClose (d : Decoder) : Option String → Reading
  | some reason => .fault (.stream reason)
  | none =>
    match d.finish with
    | .ok () => .ended
    | .error fault => .fault fault

/-- At the end of the source it depends on the bytes that are left. -/
theorem next_of_closed {s s' : Source} {d d' : Decoder} {failure : Option String}
    (h : d.decode = (.ok none, d')) (hread : s.read = (some (closing failure), s')) :
    next ⟨s, d⟩ = (atClose d' failure, ⟨s', d'⟩) := by
  rw [next]
  cases failure with
  | none =>
    rw [closing] at hread
    split <;> simp_all
    split <;> simp_all [atClose]
    split <;> simp_all
  | some reason =>
    rw [closing] at hread
    split <;> simp_all
    split <;> simp_all [atClose]

theorem next_of_nothing {s s' : Source} {d d' : Decoder} (h : d.decode = (.ok none, d'))
    (hread : s.read = (none, s')) : next ⟨s, d⟩ = (.waiting, ⟨s', d'⟩) := by
  rw [next]
  split <;> simp_all
  split <;> simp_all

/-- No frame is made at the end. -/
theorem atClose_ne_frame (d : Decoder) (failure : Option String) (v : Json) :
    atClose d failure ≠ .frame v := by
  unfold atClose
  split
  · simp
  · split <;> simp

/-- A frame is taken off what is unread. -/
theorem unread_lt_of_frame {r r' : FrameReader} {v : Json} (h : r.next = (.frame v, r')) :
    r'.unread < r.unread := by
  -- a source that is closed gives no frame
  have hclosed : ∀ (failure : Option String) {s s' : Source} {d d' : Decoder},
      d.decode = (.ok none, d') → s.read = (some (closing failure), s') →
      next ⟨s, d⟩ ≠ (.frame v, r') := by
    intro failure s s' d d' hdecode hread hnext
    rw [next_of_closed hdecode hread, Prod.mk.injEq] at hnext
    exact atClose_ne_frame _ _ _ hnext.1
  induction r using next.induct with
  | case1 r value d hdecode =>
    rw [next_of_frame hdecode, Prod.mk.injEq] at h
    have hlt := Decoder.decode_some_lt hdecode
    rw [← h.2, unread, unread]
    exact Nat.add_lt_add_left hlt _
  | case2 r fault d hdecode =>
    rw [next_of_fault hdecode] at h
    simp at h
  | case3 r d hdecode s hread =>
    rw [next_of_nothing hdecode hread] at h
    simp at h
  | case4 r d hdecode s hread => exact absurd h (hclosed none hdecode hread)
  | case5 r d hdecode s hread => exact absurd h (hclosed none hdecode hread)
  | case6 r d hdecode reason s hread => exact absurd h (hclosed (some reason) hdecode hread)
  | case7 r d hdecode bytes s hread ih =>
    rw [next_of_data hdecode hread] at h
    -- the bytes that are read go over into the decoder
    have hlt := ih h
    have hle := Source.size_add_length_le hread
    have hheld := Decoder.buffered_le_of_missing hdecode
    simp only [unread, Decoder.buffered, Decoder.extend_buffer, List.length_append] at hlt hheld ⊢
    omega

-- ---------------------------------------------------------------------------
-- All frames
-- ---------------------------------------------------------------------------

/-- The frames that are read one after the other, and what comes instead of a further one. -/
def readAll (r : FrameReader) : List Json × Reading :=
  match _ : r.next with
  | (.frame v, r') => (v :: r'.readAll.1, r'.readAll.2)
  | (reading, _) => ([], reading)
termination_by r.unread
decreasing_by all_goals exact unread_lt_of_frame (by assumption)

/-- Reading all depends on the first call only. -/
theorem readAll_congr {r r' : FrameReader} (h : r.next = r'.next) : r.readAll = r'.readAll := by
  rw [readAll, h, readAll]

/-- A frame, and all that is behind it. -/
theorem readAll_of_frame {r r' : FrameReader} {v : Json} (h : r.next = (.frame v, r')) :
    r.readAll = (v :: r'.readAll.1, r'.readAll.2) := by
  rw [readAll]
  split <;> simp_all

theorem readAll_of_closed {s s' : Source} {d d' : Decoder} {failure : Option String}
    (h : d.decode = (.ok none, d')) (hread : s.read = (some (closing failure), s')) :
    readAll ⟨s, d⟩ = ([], atClose d' failure) := by
  have hnext := next_of_closed h hread
  rw [readAll]
  split
  · rename_i v r' heq
    rw [hnext, Prod.mk.injEq] at heq
    exact absurd heq.1 (atClose_ne_frame _ _ _)
  · rename_i heq
    rw [hnext, Prod.mk.injEq] at heq
    rw [heq.1]

/-- **Reading to the end** comes to what draining all bytes comes to, if the bytes that have come
are never a fault. -/
theorem readAll_eq_drain {failure : Option String} {s : Source} {d : Decoder} {pending : Bytes}
    (hs : Delivers failure s pending)
    (hclean : ∀ before after, pending = before ++ after → (d.extend before).drain.1.fault = none) :
    readAll ⟨s, d⟩ =
      ((d.extend pending).drain.1.frames, atClose (d.extend pending).drain.2 failure) := by
  -- a frame leaves less to decode, a read less to read
  induction hsize : s.size + unread ⟨s, d⟩ using Nat.strongRecOn generalizing s d pending with
  | ind n ih =>
    subst hsize
    cases hdecode : d.decode with
    | mk r d' =>
      match r, hdecode with
      | .error fault, hdecode =>
        -- a fault at once was excluded
        have hfault := hclean [] pending rfl
        rw [Decoder.extend_nil, Decoder.drain_of_fault hdecode] at hfault
        cases hfault
      | .ok (some v), hdecode =>
        -- the frame is found as well when all bytes are at hand
        have hextend : ∀ more, (d.extend more).drain =
            ((d'.extend more).drain.1.after [v], (d'.extend more).drain.2) := fun more =>
          Decoder.drain_of_frame
            (Decoder.decode_extend hdecode (by simp) (Decoder.not_tornBy_of_frame hdecode more))
        have hless : s.size + unread ⟨s, d'⟩ < s.size + unread ⟨s, d⟩ :=
          Nat.add_lt_add_left (unread_lt_of_frame (next_of_frame hdecode)) _
        have hclean' : ∀ before after, pending = before ++ after →
            (d'.extend before).drain.1.fault = none := by
          intro before after hsplit
          have hfault := hclean before after hsplit
          rwa [hextend] at hfault
        rw [readAll_of_frame (next_of_frame hdecode), ih _ hless hs hclean' rfl, hextend]
        rfl
      | .ok none, hdecode =>
        rcases hs.read with ⟨rfl, s', hread⟩ | ⟨bytes, rest, s', rfl, hread, hs'⟩
        · rw [readAll_of_closed hdecode hread, Decoder.extend_nil, Decoder.drain_of_missing hdecode]
        · have hextend :
              ∀ more, ((d'.extend bytes).extend more).drain = (d.extend (bytes ++ more)).drain := by
            intro more
            rw [Decoder.extend_extend]
            exact Decoder.drain_congr (Decoder.decode_extend_of_missing hdecode _)
          have hless : s'.size + unread ⟨s', d'.extend bytes⟩ < s.size + unread ⟨s, d⟩ := by
            have hlt := Source.size_read_lt hread
            have hle := Source.size_add_length_le hread
            have hheld := Decoder.buffered_le_of_missing hdecode
            simp only [unread, Decoder.buffered, Decoder.extend_buffer,
              List.length_append] at hheld ⊢
            omega
          have hclean' : ∀ before after, rest = before ++ after →
              ((d'.extend bytes).extend before).drain.1.fault = none := by
            intro before after hsplit
            rw [hextend]
            exact hclean (bytes ++ before) after (by rw [hsplit, List.append_assoc])
          rw [readAll_congr (next_of_data hdecode hread), ih _ hless hs' hclean' rfl, hextend]

end FrameReader
end EditorLink.Framing
