import EditorLink.Proofs.Framing.Accounting
import EditorLink.Proofs.Framing.Reader

/-!
# EditorLink — how much a reader holds

A peer that never ends a header block, or announces a body and leaves it short, cannot make a reader hold
more and more. The length of a block without its end mark is checked, a body beyond the limit is refused
before any of it is waited for, and one read adds at most `readBytes` bytes.

The bound is on the bytes in the buffer, at every moment at which the decoder is asked for a frame, within one call of
a reader and over any number of calls. Between two calls the source may be exchanged for any other, so that it does
not matter what a peer has sent before, or in what portions. The bound holds behind faults as well: a decoder that has
given a fault keeps its buffer, and is no larger for it.

Where a call finds no frame and no fault the bound is smaller, by the bytes of one read; this is the decoder that
goes on to read. The memory that a host allots for the buffer is not the subject here.

## Results

* `Moderate`, `capacity` — a decoder that waits for no body beyond its limit, and how much is left in it;
* `Moderate.leaves_decode` — what one call leaves;
* `FrameReader.asked`, `FrameReader.askedIn`, `FrameReader.after` — the decoders that are asked for a frame,
  in one call of a reader and in calls one after the other, and the reader behind them;
* `FrameReader.asked_within`, `FrameReader.askedIn_within` — one call, and all calls;
* `holds_at_most` — no reader ever holds more, whatever its source gives it.
-/

namespace EditorLink.Framing

/-- How much a decoder with this limit keeps at most while bytes are missing. -/
def capacity (limit : Nat) : Nat := max maxHeaderBytes (limit - 1)

namespace Decoder

variable {limit : Nat} {d : Decoder}

-- ---------------------------------------------------------------------------
-- One call of a decoder
-- ---------------------------------------------------------------------------

/-- A decoder with this limit that waits for no body beyond it. -/
structure Moderate (limit : Nat) (d : Decoder) : Prop where
  limited : d.maxFrameBytes = limit
  body : ∀ n, d.awaiting = .body n → n ≤ limit

/-- What a call leaves of `held` bytes at most: no more than there were, and if bytes are missing no more
than the capacity. -/
structure Leaves (limit held : Nat) (result : Except Fault (Option Json) × Decoder) : Prop where
  moderate : Moderate limit result.2
  shrinks : result.2.buffered ≤ held
  missing : result.1 = .ok none → result.2.buffered ≤ capacity limit

/-- What is left of fewer bytes could be left of more. -/
theorem Leaves.of_le {held held' : Nat} {result : Except Fault (Option Json) × Decoder}
    (h : Leaves limit held result) (hle : held ≤ held') : Leaves limit held' result :=
  ⟨h.moderate, h.shrinks.trans hle, h.missing⟩

theorem moderate_withLimit (limit : Nat) : Moderate limit (withLimit limit) := ⟨rfl, nofun⟩

/-- More bytes do not change what a decoder waits for. -/
theorem Moderate.extend (h : Moderate limit d) (more : Bytes) : Moderate limit (d.extend more) :=
  ⟨h.limited, h.body⟩

/-- A decoder that waits for a header block waits for no body. -/
theorem moderate_of_header (hlimit : d.maxFrameBytes = limit) (hwait : d.awaiting = .header) :
    Moderate limit d := by
  refine ⟨hlimit, fun n hn => ?_⟩
  rw [hwait] at hn
  cases hn

/-- Dropping line breaks adds nothing. -/
theorem buffered_skipLineBreaks_le (d : Decoder) : d.skipLineBreaks.buffered ≤ d.buffered :=
  (List.dropWhile_suffix _).length_le

/-- A body that is missing bytes is short of its length, which is within the limit. -/
theorem Moderate.leaves_decodeBody (h : Moderate limit d) {n : Nat} (hwait : d.awaiting = .body n) :
    Leaves limit d.buffered (d.decodeBody n) := by
  have hn := h.body n hwait
  rcases Nat.lt_or_ge d.buffered n with hlt | hge
  · rw [decodeBody_of_lt hlt]
    refine ⟨h, Nat.le_refl _, fun _ => ?_⟩
    simp only [capacity]
    omega
  · rw [decodeBody_of_le hge]
    refine ⟨moderate_of_header h.limited rfl, ?_, fun hnone => absurd hnone (parseBody_map_ne_none _)⟩
    simp only [buffered, List.length_drop]
    omega

/-- **What one call leaves.** -/
theorem Moderate.leaves_decode (h : Moderate limit d) : Leaves limit d.buffered d.decode := by
  have hskip := buffered_skipLineBreaks_le d
  cases hwait : d.awaiting with
  | body n =>
    rw [decode_of_body hwait]
    exact h.leaves_decodeBody hwait
  | header =>
    have hmoderate : Moderate limit d.skipLineBreaks := moderate_of_header h.limited hwait
    cases hmark : endMark? d.skipLineBreaks.buffer with
    | none =>
      rw [decode_of_no_mark hwait hmark]
      refine ⟨hmoderate, hskip, fun hnone => ?_⟩
      -- what is left of a header block without its end mark is not too long for one
      split at hnone
      · cases hnone
      · rename_i hshort
        exact (Nat.le_of_not_lt hshort).trans (Nat.le_max_left _ _)
    | some stop =>
      cases haccept : Header.accept d.maxFrameBytes (d.skipLineBreaks.buffer.take stop) with
      | error fault =>
        rw [decode_of_refused hwait hmark haccept]
        exact ⟨hmoderate, hskip, nofun⟩
      | ok length =>
        rw [decode_of_accepted hwait hmark haccept]
        obtain ⟨-, -, hfits⟩ := Header.accept_eq_ok_iff.mp haccept
        rw [h.limited] at hfits
        have hbehind : Moderate limit (d.behindHeader stop length) := by
          refine ⟨h.limited, fun n hn => ?_⟩
          cases hn
          exact hfits
        refine (hbehind.leaves_decodeBody rfl).of_le ?_
        simp only [behindHeader, buffered, List.length_drop] at hskip ⊢
        omega

end Decoder

-- ---------------------------------------------------------------------------
-- One read
-- ---------------------------------------------------------------------------

/-- One read gives at most so many bytes. -/
theorem Source.length_le_of_read {s s' : Source} {bytes : Bytes}
    (h : s.read = (some (.data bytes), s')) : bytes.length ≤ readBytes := by
  induction s with
  | nil => cases h
  | cons a rest ih =>
    cases a with
    | ended => cases h
    | failed reason => cases h
    | data bs =>
      rw [read] at h
      split at h
      · exact ih h
      · split at h
        · rename_i hshort
          cases h
          exact hshort
        · cases h
          exact List.length_take_le _ _

namespace FrameReader

variable {limit : Nat}

-- ---------------------------------------------------------------------------
-- One call of a reader
-- ---------------------------------------------------------------------------

/-- The decoders that are asked for a frame while a reader looks for the next one. -/
def asked (r : FrameReader) : List Decoder :=
  match r.decoder.decode with
  | (.ok none, d) =>
    match _ : r.source.read with
    | (some (.data bytes), rest) => r.decoder :: asked ⟨rest, d.extend bytes⟩
    | _ => [r.decoder]
  | _ => [r.decoder]
termination_by r.source.size
decreasing_by exact Source.size_read_lt (by assumption)

/-- A call that reads asks its decoder, and then the one with the bytes. -/
theorem asked_of_data {s s' : Source} {d d' : Decoder} {bytes : Bytes}
    (h : d.decode = (.ok none, d')) (hread : s.read = (some (.data bytes), s')) :
    asked ⟨s, d⟩ = d :: asked ⟨s', d'.extend bytes⟩ := by
  rw [asked]
  split <;> simp_all
  split <;> simp_all

theorem self_mem_asked (r : FrameReader) : r.decoder ∈ r.asked := by
  fun_cases asked r <;> exact List.mem_cons_self

/-- A call that finds a frame or a fault at once reads nothing. -/
theorem next_decoder_of_found {r : FrameReader} (h : r.decoder.decode.1 ≠ .ok none) :
    r.next.2.decoder = r.decoder.decode.2 := by
  rw [next]
  split <;> simp_all

/-- Without bytes to read the decoder is left as the call made it. -/
theorem next_decoder_of_no_data {r : FrameReader} {d : Decoder}
    (h : r.decoder.decode = (.ok none, d)) (hread : ∀ bytes, r.source.read.1 ≠ some (.data bytes)) :
    r.next.2.decoder = d := by
  rw [next]
  split <;> simp_all
  split <;> simp_all
  split <;> simp_all

/-- A reader leaves its decoder as the last one that it asked was left. -/
theorem exists_asked_next (r : FrameReader) : ∃ d ∈ r.asked, r.next.2.decoder = d.decode.2 := by
  fun_induction asked r with
  | case1 r d hdecode bytes s hread ih =>
    obtain ⟨e, he, hnext⟩ := ih
    rw [next_of_data hdecode hread]
    exact ⟨e, List.mem_cons_of_mem _ he, hnext⟩
  | case2 r d hdecode hread =>
    refine ⟨r.decoder, List.mem_singleton_self _, ?_⟩
    rw [hdecode]
    exact next_decoder_of_no_data hdecode fun bytes h => hread bytes r.source.read.2 (Prod.ext h rfl)
  | case3 r hfound =>
    refine ⟨r.decoder, List.mem_singleton_self _, next_decoder_of_found fun h => ?_⟩
    exact hfound r.decoder.decode.2 (Prod.ext h rfl)

/-- A moderate decoder that holds no more than a read on top of the capacity. -/
structure Within (limit : Nat) (d : Decoder) : Prop where
  moderate : d.Moderate limit
  fits : d.buffered ≤ capacity limit + readBytes

/-- Bytes are read only when no more than the capacity is left. -/
theorem Within.read {s s' : Source} {d d' : Decoder} {bytes : Bytes} (h : Within limit d)
    (hdecode : d.decode = (.ok none, d')) (hread : s.read = (some (.data bytes), s')) :
    Within limit (d'.extend bytes) := by
  have hleaves := h.moderate.leaves_decode
  have hbytes := Source.length_le_of_read hread
  rw [hdecode] at hleaves
  have hleft := hleaves.missing rfl
  refine ⟨hleaves.moderate.extend bytes, ?_⟩
  simp only [Decoder.buffered, Decoder.extend_buffer, List.length_append] at hleft ⊢
  omega

/-- **One call of a reader** asks only decoders within the bound. -/
theorem asked_within (r : FrameReader) (h : Within limit r.decoder) :
    ∀ d ∈ r.asked, Within limit d := by
  fun_induction asked r with
  | case1 r d hdecode bytes s hread ih =>
    rw [List.forall_mem_cons]
    exact ⟨h, ih (h.read hdecode hread)⟩
  | case2 r d hdecode hread => simpa using h
  | case3 r hfound => simpa using h

/-- **One call** leaves a decoder within the bound. -/
theorem next_within (r : FrameReader) (h : Within limit r.decoder) : Within limit r.next.2.decoder := by
  obtain ⟨d, hd, hnext⟩ := exists_asked_next r
  have hwithin := asked_within r h d hd
  have hleaves := hwithin.moderate.leaves_decode
  rw [hnext]
  exact ⟨hleaves.moderate, hleaves.shrinks.trans hwithin.fits⟩

-- ---------------------------------------------------------------------------
-- Calls one after the other
-- ---------------------------------------------------------------------------

/-- A reader behind calls one after the other, whatever they find. Before each call anything may have become
of what the one before it left of the source. -/
def after (r : FrameReader) : List (Source → Source) → FrameReader
  | [] => r
  | becomes :: calls => after (next { r with source := becomes r.source }).2 calls

/-- The decoders that are asked in these calls. -/
def askedIn (r : FrameReader) : List (Source → Source) → List Decoder
  | [] => []
  | becomes :: calls =>
    let r := { r with source := becomes r.source }
    r.asked ++ askedIn r.next.2 calls

/-- So do calls one after the other, from whatever sources. -/
theorem after_within (r : FrameReader) (h : Within limit r.decoder) (calls : List (Source → Source)) :
    Within limit (r.after calls).decoder := by
  induction calls generalizing r with
  | nil => exact h
  | cons becomes calls ih => exact ih _ (next_within _ h)

/-- **All calls**: no decoder that is asked holds more. -/
theorem askedIn_within (r : FrameReader) (h : Within limit r.decoder) (calls : List (Source → Source)) :
    ∀ d ∈ r.askedIn calls, Within limit d := by
  induction calls generalizing r with
  | nil => exact nofun
  | cons becomes calls ih =>
    rw [askedIn, List.forall_mem_append]
    exact ⟨asked_within _ h, ih _ (next_within _ h)⟩

/-- **A reader never holds more** than a read on top of its capacity, whatever its source gives it and
however often it is called, also behind a fault; and no more than the capacity when bytes are missing. -/
theorem holds_at_most (limit : Nat) (s : Source) (calls : List (Source → Source)) :
    (after ⟨s, .withLimit limit⟩ calls).decoder.buffered ≤ max 8192 (limit - 1) + 8192 ∧
      ∀ d ∈ askedIn ⟨s, .withLimit limit⟩ calls,
        d.buffered ≤ max 8192 (limit - 1) + 8192 ∧
        d.decode.2.buffered ≤ max 8192 (limit - 1) + 8192 ∧
        (d.decode.1 = .ok none → d.decode.2.buffered ≤ max 8192 (limit - 1)) := by
  have hfresh : Within limit (.withLimit limit) := ⟨Decoder.moderate_withLimit limit, Nat.zero_le _⟩
  refine ⟨(after_within _ hfresh calls).fits, fun d hd => ?_⟩
  have hwithin := askedIn_within _ hfresh calls d hd
  have hleaves := hwithin.moderate.leaves_decode
  exact ⟨hwithin.fits, hleaves.shrinks.trans hwithin.fits, hleaves.missing⟩

/-- A read fails between two bytes. The decoder that is asked behind the failure holds both, and the bound covers it. -/
theorem holds_at_most_behind_fault :
    let d := (Decoder.withLimit 9).extend [120, 121]
    d ∈ askedIn ⟨[.data [120], .failed "reset", .data [121]], .withLimit 9⟩ [id, id] ∧
      d.decode.1 = .ok none ∧ d.decode.2.buffered ≤ max 8192 (9 - 1) := by
  intro d
  have hone : ((Decoder.withLimit 9).extend [120]).decode =
      (.ok none, (Decoder.withLimit 9).extend [120]) := rfl
  have hfirst : (next ⟨[.data [120], .failed "reset", .data [121]], .withLimit 9⟩).2 =
      ⟨[.data [121]], (Decoder.withLimit 9).extend [120]⟩ := by
    have hfailed : Source.read [.failed "reset", .data [121]] =
        (some (closing (some "reset")), [.data [121]]) := rfl
    rw [next_of_data (Decoder.decode_withLimit 9) rfl]
    rw [next_of_closed hone hfailed]
  have hmem : d ∈ askedIn ⟨[.data [120], .failed "reset", .data [121]], .withLimit 9⟩ [id, id] := by
    -- the second call asks the decoder as the fault left it, and reads on
    refine List.mem_append_right _ (List.mem_append_left _ ?_)
    simp only [id, hfirst]
    rw [asked_of_data hone rfl]
    exact List.mem_cons_of_mem _ (self_mem_asked _)
  exact ⟨hmem, rfl, ((holds_at_most 9 _ _).2 d hmem).2.2 rfl⟩

end FrameReader

end EditorLink.Framing
