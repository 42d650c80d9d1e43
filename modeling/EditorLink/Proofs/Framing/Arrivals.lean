import EditorLink.Proofs.Framing.Reader

/-!
# EditorLink — reading while bytes still arrive

What arrives later does not change what a reader has found. A frame stays a frame, an end stays an end, and
a reader that has waited is none the worse for it.

A source is a list of things to come: some bytes, the end, or a failure. A read looks at the first of them, and may
find that there is nothing yet. What comes later stands at the end of the list, so that a read which found something
finds the same when more is there, and a read which found nothing finds what came later.

With this a session that reads while bytes arrive is compared with a reader to which everything was given beforehand:
the frames that it has found are the first of those that the reader finds.

## Results

* `Source.read_append_of_data`, `read_append_of_closed`, `read_append_of_nothing` — one read, and more behind it;
* `FrameReader.next_extend_of_frame`, `next_extend_of_closed`, `next_extend_of_waiting` — one frame;
* `FrameReader.readAll_of_no_frame` — the end of all frames.
-/

namespace EditorLink.Framing

namespace Source

variable {s s' : Source}

/-- A read that finds nothing leaves nothing. -/
theorem read_append_of_nothing (h : s.read = (none, s')) (more : Source) :
    s' = [] ∧ (s ++ more).read = more.read := by
  induction s with
  | nil => exact ⟨(congrArg Prod.snd h).symm, rfl⟩
  | cons a rest ih =>
    cases a with
    | ended => simp [read] at h
    | failed reason => simp [read] at h
    | data bytes =>
      rw [read] at h
      rw [List.cons_append, read]
      split
      · rename_i hempty
        rw [if_pos hempty] at h
        exact ih h
      · rename_i hfull
        rw [if_neg hfull] at h
        split at h <;> simp at h

/-- Bytes that are read are read all the same if more is to come. -/
theorem read_append_of_data {bytes : Bytes} (h : s.read = (some (.data bytes), s')) (more : Source) :
    (s ++ more).read = (some (.data bytes), s' ++ more) := by
  induction s with
  | nil => simp [read] at h
  | cons a rest ih =>
    cases a with
    | ended => simp [read] at h
    | failed reason => simp [read] at h
    | data bs =>
      rw [read] at h
      rw [List.cons_append, read]
      split
      · rename_i hempty
        rw [if_pos hempty] at h
        exact ih h
      · rename_i hfull
        rw [if_neg hfull] at h
        split at h <;> rename_i hlength <;> simp only [Prod.mk.injEq] at h <;>
          obtain ⟨hbytes, rfl⟩ := h
        · rw [if_pos hlength, hbytes]
        · rw [if_neg hlength, hbytes]
          rfl

/-- An end stays one, whatever is put behind it. -/
theorem read_append_of_closed {failure : Option String} (h : s.read = (some (closing failure), s'))
    (more : Source) : ∃ s'', (s ++ more).read = (some (closing failure), s'') := by
  induction s with
  | nil => simp [read] at h
  | cons a rest ih =>
    cases a with
    | ended =>
      rw [read, Prod.mk.injEq] at h
      exact ⟨[.ended], by rw [← h.1]; rfl⟩
    | failed reason =>
      rw [read, Prod.mk.injEq] at h
      exact ⟨rest ++ more, by rw [← h.1]; rfl⟩
    | data bytes =>
      rw [read] at h
      rw [List.cons_append, read]
      split
      · rename_i hempty
        rw [if_pos hempty] at h
        exact ih h
      -- bytes close nothing
      · rename_i hfull
        rw [if_neg hfull] at h
        split at h <;> cases failure <;> simp [closing] at h

end Source

/-- A decoder that has asked for bytes asks for them again. -/
theorem Decoder.decode_of_missing {d d' : Decoder} (h : d.decode = (.ok none, d')) :
    d'.decode = (.ok none, d') := by
  have hsame := decode_extend_of_missing h []
  rwa [extend_nil, extend_nil, h] at hsame

namespace FrameReader

/-- More arrives behind what a reader has before it. -/
def extend (r : FrameReader) (more : Source) : FrameReader := { r with source := r.source ++ more }

@[simp] theorem extend_nil (r : FrameReader) : r.extend [] = r := by
  rw [extend, List.append_nil]

/-- What comes at two times comes one behind the other. -/
@[simp] theorem extend_extend (r : FrameReader) (more after : Source) :
    (r.extend more).extend after = r.extend (more ++ after) := by
  simp only [extend, List.append_assoc]

variable {r r' : FrameReader}

-- ---------------------------------------------------------------------------
-- One frame
-- ---------------------------------------------------------------------------

/-- How a reader comes to what it finds: some bytes are read, and then the decoder or the source has the last
word. -/
inductive Finds : FrameReader → Reading → FrameReader → Prop
  | frame {s : Source} {d d' : Decoder} {v : Json} (h : d.decode = (.ok (some v), d')) :
    Finds ⟨s, d⟩ (.frame v) ⟨s, d'⟩
  | fault {s : Source} {d d' : Decoder} {fault : Fault} (h : d.decode = (.error fault, d')) :
    Finds ⟨s, d⟩ (.fault fault) ⟨s, d'⟩
  | nothing {s s' : Source} {d d' : Decoder} (h : d.decode = (.ok none, d'))
    (hread : s.read = (none, s')) : Finds ⟨s, d⟩ .waiting ⟨s', d'⟩
  | closed {s s' : Source} {d d' : Decoder} (failure : Option String) (h : d.decode = (.ok none, d'))
    (hread : s.read = (some (closing failure), s')) : Finds ⟨s, d⟩ (atClose d' failure) ⟨s', d'⟩
  | data {s s' : Source} {d d' : Decoder} {bytes : Bytes} {reading : Reading} {r' : FrameReader}
    (h : d.decode = (.ok none, d')) (hread : s.read = (some (.data bytes), s'))
    (hrest : Finds ⟨s', d'.extend bytes⟩ reading r') : Finds ⟨s, d⟩ reading r'

/-- A reader finds what it finds: the two descriptions of a call agree. -/
theorem finds_next (r : FrameReader) : Finds r r.next.1 r.next.2 := by
  have hclosed : ∀ failure {s s' : Source} {d d' : Decoder}, d.decode = (.ok none, d') →
      s.read = (some (closing failure), s') → Finds ⟨s, d⟩ (next ⟨s, d⟩).1 (next ⟨s, d⟩).2 := by
    intro failure s s' d d' hdecode hread
    rw [next_of_closed hdecode hread]
    exact .closed failure hdecode hread
  induction r using next.induct with
  | case1 r value d hdecode =>
    rw [next_of_frame hdecode]
    exact .frame hdecode
  | case2 r fault d hdecode =>
    rw [next_of_fault hdecode]
    exact .fault hdecode
  | case3 r d hdecode s hread =>
    rw [next_of_nothing hdecode hread]
    exact .nothing hdecode hread
  | case4 r d hdecode s hread => exact hclosed none hdecode hread
  | case5 r d hdecode s hread => exact hclosed none hdecode hread
  | case6 r d hdecode reason s hread => exact hclosed (some reason) hdecode hread
  | case7 r d hdecode bytes s hread ih =>
    rw [next_of_data hdecode hread]
    exact .data hdecode hread ih

/-- The same, for a call whose result is at hand. -/
theorem Finds.of_next {reading : Reading} (h : r.next = (reading, r')) : Finds r reading r' := by
  have hfinds := finds_next r
  rwa [h] at hfinds

/-- Two readers whose decoders miss the same bytes read on alike. -/
theorem next_congr {s s' : Source} {d e d' : Decoder} (hd : d.decode = (.ok none, d'))
    (he : e.decode = (.ok none, d')) (hread : s.read = s'.read) : next ⟨s, d⟩ = next ⟨s', e⟩ := by
  have hclosed : ∀ failure {rest}, s'.read = (some (closing failure), rest) →
      next ⟨s, d⟩ = next ⟨s', e⟩ := by
    intro failure rest hs
    rw [next_of_closed hd (hread.trans hs), next_of_closed he hs]
  rcases hs : s'.read with ⟨_ | a, rest⟩
  · rw [next_of_nothing hd (hread.trans hs), next_of_nothing he hs]
  · cases a with
    | ended => exact hclosed none hs
    | failed reason => exact hclosed (some reason) hs
    | data bytes => rw [next_of_data hd (hread.trans hs), next_of_data he hs]

/-- **A frame** that was found is found as well when more arrives. -/
theorem next_extend_of_frame {v : Json} (h : r.next = (.frame v, r')) (more : Source) :
    (r.extend more).next = (.frame v, r'.extend more) := by
  have hfinds := Finds.of_next h
  clear h
  generalize hreading : Reading.frame v = reading at hfinds
  induction hfinds with
  | frame hdecode =>
    cases hreading
    exact next_of_frame hdecode
  | fault hdecode => cases hreading
  | nothing hdecode hread => cases hreading
  | closed failure hdecode hread => exact absurd hreading.symm (atClose_ne_frame _ _ _)
  | data hdecode hread hrest ih =>
    rw [extend, next_of_data hdecode (Source.read_append_of_data hread more)]
    exact ih hreading

/-- **Waiting** changes nothing: what arrives later is read as if it had been there before. -/
theorem next_extend_of_waiting (h : r.next = (.waiting, r')) (more : Source) :
    (r.extend more).next = (r'.extend more).next := by
  have hfinds := Finds.of_next h
  clear h
  generalize hreading : Reading.waiting = reading at hfinds
  induction hfinds with
  | frame hdecode => cases hreading
  | fault hdecode => cases hreading
  | nothing hdecode hread =>
    obtain ⟨rfl, hmore⟩ := Source.read_append_of_nothing hread more
    exact next_congr hdecode (Decoder.decode_of_missing hdecode) hmore
  | closed failure hdecode hread =>
    unfold atClose at hreading
    split at hreading
    · cases hreading
    · split at hreading <;> cases hreading
  | data hdecode hread hrest ih =>
    rw [extend, next_of_data hdecode (Source.read_append_of_data hread more)]
    exact ih hreading

/-- **An end or a fault** that was found is found as well when more arrives. -/
theorem next_extend_of_closed {reading : Reading} (h : r.next = (reading, r'))
    (hframe : ∀ v, reading ≠ .frame v) (hwaiting : reading ≠ .waiting) (more : Source) :
    (r.extend more).next.1 = reading := by
  have hfinds := Finds.of_next h
  clear h
  induction hfinds with
  | frame hdecode => exact absurd rfl (hframe _)
  | fault hdecode => rw [extend, next_of_fault hdecode]
  | nothing hdecode hread => exact absurd rfl hwaiting
  | closed failure hdecode hread =>
    obtain ⟨s'', hread'⟩ := Source.read_append_of_closed hread more
    rw [extend, next_of_closed hdecode hread']
  | data hdecode hread hrest ih =>
    rw [extend, next_of_data hdecode (Source.read_append_of_data hread more)]
    exact ih hframe hwaiting

-- ---------------------------------------------------------------------------
-- All frames
-- ---------------------------------------------------------------------------

/-- If there is no frame then what there is instead is the end of all frames. -/
theorem readAll_of_no_frame {reading : Reading} (h : r.next.1 = reading)
    (hframe : ∀ v, reading ≠ .frame v) : r.readAll = ([], reading) := by
  rw [readAll]
  split
  · rename_i hnext
    rw [hnext] at h
    exact absurd h.symm (hframe _)
  · rename_i hnext
    rw [hnext] at h
    rw [← h]

end FrameReader
end EditorLink.Framing
