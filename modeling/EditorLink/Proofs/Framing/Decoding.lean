import EditorLink.Proofs.Framing.EndMark
import Mathlib.Tactic.ByContra

/-!
# EditorLink — one frame, and more bytes behind it

What one call of `decode` comes to, by what the decoder waits for and where the first end mark
stands, and what becomes of it when more bytes have come.

* `decode_of_no_mark`, `decode_of_refused`, `decode_of_accepted`, `decode_of_body` — the four ways a
  call can go;
* `decode_extend` — more bytes do not change what was decoded, unless they tear a header block;
* `decode_extend_of_missing` — a decoder that misses bytes forgets nothing;
* `TornBy.decode`, `TornBy.decode_extend_ne` — what tearing a header block does.

A decoder that has not seen an end mark yet counts the bytes of a mark that has come in
part. So it may give up over a header block which it would have accepted a few bytes later;
that is what `TornBy` says.

These lemmas are the specification of `decode` for all that follows: other modules cite the four
ways of a call and do not unfold it. A call in which a header block is accepted goes on to its body
at once, so that the same call may end with the frame, or with a decoder that waits for the body; the
two are kept apart by `decodeBody`, which has its own pair of lemmas for a body that is there and one
that is not.
-/

namespace EditorLink.Framing

/-- The length of the body behind a header block that a decoder with this limit accepts. -/
def Header.accept (limit : Nat) (block : Bytes) : Except Fault Nat :=
  if maxHeaderBytes < block.length then .error (.headerTooLarge maxHeaderBytes)
  else
    match Header.lengthOf block with
    | .error fault => .error fault
    | .ok length => if limit < length then .error (.frameTooLarge length limit) else .ok length

/-- The faults of a header block: it is no text, a length on it is no number, or it gives none. -/
theorem Header.fault_of_lengthOf {block : Bytes} {fault : Fault}
    (h : Header.lengthOf block = .error fault) :
    fault = .invalidHeader ∨ (∃ value, fault = .invalidLength value) ∨ fault = .missingLength := by
  -- whatever length was seen before, a line is only ever faulted for its own
  have hscan : ∀ lines length, Header.scan length lines = .error fault →
      ∃ value, fault = .invalidLength value := by
    intro lines
    induction lines with
    | nil => simp [Header.scan]
    | cons line rest ih =>
      intro length hline
      unfold Header.scan at hline
      split at hline
      · exact ih _ hline
      · split at hline
        · exact ih _ hline
        · cases hline
          exact ⟨_, rfl⟩
  unfold Header.lengthOf at h
  split at h
  · cases h
    exact .inl rfl
  · split at h
    · rename_i hfault
      cases h
      exact .inr (.inl (hscan _ _ hfault))
    · cases h
      exact .inr (.inr rfl)
    · cases h
      exact .inr (.inr rfl)
    · cases h

namespace Decoder

@[simp] theorem extend_nil (d : Decoder) : d.extend [] = d := by
  simp [extend]

@[simp] theorem extend_extend (d : Decoder) (a b : Bytes) :
    (d.extend a).extend b = d.extend (a ++ b) := by
  simp [extend]

@[simp] theorem extend_buffer (d : Decoder) (more : Bytes) :
    (d.extend more).buffer = d.buffer ++ more := rfl

@[simp] theorem extend_awaiting (d : Decoder) (more : Bytes) :
    (d.extend more).awaiting = d.awaiting := rfl

/-- More bytes leave the limit as it is. -/
@[simp] theorem extend_maxFrameBytes (d : Decoder) (more : Bytes) :
    (d.extend more).maxFrameBytes = d.maxFrameBytes := rfl

-- ---------------------------------------------------------------------------
-- One step
-- ---------------------------------------------------------------------------

/-- The decoder behind a header block that ends at `stop`. -/
def behindHeader (d : Decoder) (stop length : Nat) : Decoder :=
  { d with buffer := d.skipLineBreaks.buffer.drop (stop + 4), awaiting := .body length }

/-- **Waiting for a body**: the call is about that. -/
theorem decode_of_body {d : Decoder} {n : Nat} (h : d.awaiting = .body n) :
    d.decode = d.decodeBody n := by
  unfold decode
  rw [h]

/-- Without an end mark a decoder waits, unless it holds too much. -/
theorem decode_of_no_mark {d : Decoder} (hwait : d.awaiting = .header)
    (hmark : endMark? d.skipLineBreaks.buffer = none) :
    d.decode =
      (if maxHeaderBytes < d.skipLineBreaks.buffered then .error (.headerTooLarge maxHeaderBytes)
        else .ok none, d.skipLineBreaks) := by
  unfold decode decodeHeader
  simp only [hwait, hmark]
  -- the search for a mark is matched together with its result
  split <;> rename_i d' hfound <;> split at hfound <;> rw [Prod.mk.injEq] at hfound <;>
    simp_all

/-- With an end mark a decoder goes on to the body, if it accepts the block. -/
theorem decode_of_mark {d : Decoder} {stop : Nat} (hwait : d.awaiting = .header)
    (hmark : endMark? d.skipLineBreaks.buffer = some stop) :
    d.decode =
      match Header.accept d.maxFrameBytes (d.skipLineBreaks.buffer.take stop) with
      | .error fault => (.error fault, d.skipLineBreaks)
      | .ok length => (d.behindHeader stop length).decodeBody length := by
  -- the block is all that stands before the mark
  have hlen : (d.skipLineBreaks.buffer.take stop).length = stop := by
    have hle := (endMark?_eq_some_iff.mp hmark).1.add_four_le
    rw [List.length_take]
    omega
  have hlimit : d.skipLineBreaks.maxFrameBytes = d.maxFrameBytes := rfl
  unfold decode decodeHeader Header.accept
  simp only [hwait, hmark, hlen, hlimit]
  by_cases hlong : maxHeaderBytes < stop
  · simp only [if_pos hlong]
  · simp only [if_neg hlong]
    cases Header.lengthOf (d.skipLineBreaks.buffer.take stop) with
    | error fault => rfl
    | ok length =>
      by_cases hfits : d.maxFrameBytes < length
      · simp only [if_pos hfits]
      · simp only [if_neg hfits]
        rfl

/-- **A block that is refused** is left in the buffer. -/
theorem decode_of_refused {d : Decoder} {stop : Nat} {fault : Fault} (hwait : d.awaiting = .header)
    (hmark : endMark? d.skipLineBreaks.buffer = some stop)
    (hblock : Header.accept d.maxFrameBytes (d.skipLineBreaks.buffer.take stop) = .error fault) :
    d.decode = (.error fault, d.skipLineBreaks) := by
  rw [decode_of_mark hwait hmark, hblock]

/-- **A block that is accepted**: its body is looked for behind the end mark. -/
theorem decode_of_accepted {d : Decoder} {stop length : Nat} (hwait : d.awaiting = .header)
    (hmark : endMark? d.skipLineBreaks.buffer = some stop)
    (hblock : Header.accept d.maxFrameBytes (d.skipLineBreaks.buffer.take stop) = .ok length) :
    d.decode = (d.behindHeader stop length).decodeBody length := by
  rw [decode_of_mark hwait hmark, hblock]

/-- A body that is not all there is waited for. -/
theorem decodeBody_of_lt {d : Decoder} {n : Nat} (h : d.buffered < n) :
    d.decodeBody n = (.ok none, d) := by
  rw [decodeBody, if_pos h]

/-- A body that is all there is taken, whatever it comes to. -/
theorem decodeBody_of_le {d : Decoder} {n : Nat} (h : n ≤ d.buffered) :
    d.decodeBody n = ((parseBody (d.buffer.take n)).map some,
      { d with buffer := d.buffer.drop n, awaiting := .header }) := by
  rw [decodeBody, if_neg (Nat.not_lt.mpr h)]

/-- A body comes to a frame or a fault, never to a wait. -/
theorem parseBody_map_ne_none (body : Bytes) : (parseBody body).map some ≠ .ok none := by
  cases parseBody body <;> simp [Except.map]

/-- A body whose bytes are missing stays where it is. -/
theorem eq_of_decodeBody_missing {d d' : Decoder} {n : Nat} (h : d.decodeBody n = (.ok none, d')) :
    d' = d := by
  rcases Nat.lt_or_ge d.buffered n with hlt | hle
  · rw [decodeBody_of_lt hlt, Prod.mk.injEq] at h
    exact h.2.symm
  · rw [decodeBody_of_le hle, Prod.mk.injEq] at h
    exact absurd h.1 (parseBody_map_ne_none _)

-- ---------------------------------------------------------------------------
-- More bytes
-- ---------------------------------------------------------------------------

/-- More bytes *tear* a header block if the decoder gives up for want of an end mark that they would
bring in time. -/
def TornBy (d : Decoder) (more : Bytes) : Prop :=
  d.awaiting = .header ∧ endMark? d.skipLineBreaks.buffer = none ∧
    maxHeaderBytes < d.skipLineBreaks.buffered ∧
    ∃ stop ≤ maxHeaderBytes, endMark? (d.skipLineBreaks.buffer ++ more) = some stop

/-- If something else stands behind the line breaks, more bytes change nothing about them. -/
theorem skipLineBreaks_extend {d : Decoder} (h : d.skipLineBreaks.buffer ≠ []) (more : Bytes) :
    (d.extend more).skipLineBreaks = d.skipLineBreaks.extend more := by
  simp only [skipLineBreaks] at h
  simp only [skipLineBreaks, extend, dropLineBreaks_append_of_ne_nil h]

/-- Line breaks may be dropped before or after more bytes have come. -/
theorem skipLineBreaks_extend_skipLineBreaks (d : Decoder) (more : Bytes) :
    (d.skipLineBreaks.extend more).skipLineBreaks = (d.extend more).skipLineBreaks := by
  simp only [skipLineBreaks, extend, dropLineBreaks_append]

/-- Line breaks that were dropped before are not missed. -/
theorem decode_skipLineBreaks_extend {d : Decoder} (hwait : d.awaiting = .header) (more : Bytes) :
    (d.skipLineBreaks.extend more).decode = (d.extend more).decode := by
  have hskip := skipLineBreaks_extend_skipLineBreaks d more
  have hwait₁ : (d.skipLineBreaks.extend more).awaiting = .header := hwait
  have hwait₂ : (d.extend more).awaiting = .header := hwait
  -- both decoders hold the same bytes once line breaks are dropped
  cases hmark : endMark? (d.extend more).skipLineBreaks.buffer with
  | none =>
    rw [decode_of_no_mark hwait₁ (by rw [hskip]; exact hmark), decode_of_no_mark hwait₂ hmark,
      hskip]
  | some stop =>
    rw [decode_of_mark hwait₁ (by rw [hskip]; exact hmark), decode_of_mark hwait₂ hmark]
    simp only [behindHeader, hskip]
    rfl

/-- What is found in a body does not change when more bytes come behind it. -/
theorem decodeBody_extend {d d' : Decoder} {n : Nat} {r : Except Fault (Option Json)}
    (h : d.decodeBody n = (r, d')) (hr : r ≠ .ok none) (more : Bytes) :
    (d.extend more).decodeBody n = (r, d'.extend more) := by
  rcases Nat.lt_or_ge d.buffered n with hlt | hle
  · rw [decodeBody_of_lt hlt, Prod.mk.injEq] at h
    exact absurd h.1.symm hr
  · rw [decodeBody_of_le hle, Prod.mk.injEq] at h
    obtain ⟨rfl, rfl⟩ := h
    have hle' : n ≤ (d.extend more).buffered := by
      simp only [buffered, extend_buffer, List.length_append] at hle ⊢
      omega
    rw [decodeBody_of_le hle', extend_buffer, List.take_append_of_le_length hle,
      List.drop_append_of_le_length hle]
    rfl

/-- A header block that was found stays where it is. -/
theorem mark_extend {d : Decoder} {stop : Nat}
    (hmark : endMark? d.skipLineBreaks.buffer = some stop)
    (more : Bytes) :
    (d.extend more).skipLineBreaks = d.skipLineBreaks.extend more ∧
      endMark? (d.extend more).skipLineBreaks.buffer = some stop ∧
      (∀ n, (d.extend more).behindHeader stop n = (d.behindHeader stop n).extend more) ∧
      (d.extend more).skipLineBreaks.buffer.take stop = d.skipLineBreaks.buffer.take stop := by
  -- where a mark was found something stands behind the line breaks
  have hne : d.skipLineBreaks.buffer ≠ [] := by
    intro hnil
    rw [hnil] at hmark
    cases hmark
  have hle := (endMark?_eq_some_iff.mp hmark).1.add_four_le
  have hskip := skipLineBreaks_extend hne more
  refine ⟨hskip, ?_, ?_, ?_⟩
  · rw [hskip]
    exact endMark?_append hmark more
  · intro n
    simp only [behindHeader, hskip, extend_buffer, List.drop_append_of_le_length hle]
    rfl
  · rw [hskip, extend_buffer, List.take_append_of_le_length (by omega)]

/-- **More bytes do not change what was decoded**, unless they tear a header block. -/
theorem decode_extend {d d' : Decoder} {r : Except Fault (Option Json)} (h : d.decode = (r, d'))
    (hr : r ≠ .ok none) {more : Bytes} (htorn : ¬ d.TornBy more) :
    (d.extend more).decode = (r, d'.extend more) := by
  cases hwait : d.awaiting with
  | body n =>
    rw [decode_of_body hwait] at h
    rw [decode_of_body (n := n) (by rw [extend_awaiting, hwait])]
    exact decodeBody_extend h hr more
  | header =>
    have hwait' : (d.extend more).awaiting = .header := hwait
    cases hmark : endMark? d.skipLineBreaks.buffer with
    | some stop =>
      -- the block is the same with more bytes behind it, so that it is accepted or refused alike
      obtain ⟨hskip, hmark', hbehind, hblock⟩ := mark_extend hmark more
      cases haccept : Header.accept d.maxFrameBytes (d.skipLineBreaks.buffer.take stop) with
      | error fault =>
        rw [decode_of_refused hwait hmark haccept, Prod.mk.injEq] at h
        rw [decode_of_refused hwait' hmark' (by rw [hblock, ← haccept]; rfl), hskip, h.1, h.2]
      | ok length =>
        rw [decode_of_accepted hwait hmark haccept] at h
        rw [decode_of_accepted hwait' hmark' (by rw [hblock, ← haccept]; rfl), hbehind]
        exact decodeBody_extend h hr more
    | none =>
      -- without an end mark the only result is that the block is too long
      rw [decode_of_no_mark hwait hmark, Prod.mk.injEq] at h
      have hlong : maxHeaderBytes < d.skipLineBreaks.buffered := by
        by_contra hshort
        rw [if_neg hshort] at h
        exact hr h.1.symm
      rw [if_pos hlong] at h
      rw [← h.1, ← h.2]
      have hskip : (d.extend more).skipLineBreaks = d.skipLineBreaks.extend more := by
        apply skipLineBreaks_extend
        intro hnil
        simp [buffered, hnil] at hlong
      -- more bytes may bring a mark, but not in time: that would tear the block
      cases hlater : endMark? (d.extend more).skipLineBreaks.buffer with
      | none =>
        rw [decode_of_no_mark hwait' hlater, hskip, if_pos]
        simp only [buffered, extend_buffer, List.length_append] at hlong ⊢
        omega
      | some stop =>
        have hle := (endMark?_eq_some_iff.mp hlater).1.add_four_le
        have hstop : maxHeaderBytes < stop := by
          by_contra hshort
          rw [hskip] at hlater
          exact htorn ⟨hwait, hmark, hlong, stop, Nat.le_of_not_lt hshort, hlater⟩
        rw [decode_of_mark hwait' hlater, Header.accept, if_pos, hskip]
        rw [List.length_take]
        omega

/-- **A decoder that misses bytes forgets nothing**: it goes on as if all bytes had come at once. -/
theorem decode_extend_of_missing {d d' : Decoder} (h : d.decode = (.ok none, d')) (more : Bytes) :
    (d'.extend more).decode = (d.extend more).decode := by
  cases hwait : d.awaiting with
  | body n =>
    rw [decode_of_body hwait] at h
    rw [eq_of_decodeBody_missing h]
  | header =>
    have hwait' : (d.extend more).awaiting = .header := hwait
    cases hmark : endMark? d.skipLineBreaks.buffer with
    | none =>
      rw [decode_of_no_mark hwait hmark, Prod.mk.injEq] at h
      -- all that has changed is that line breaks were dropped
      rw [← h.2]
      exact decode_skipLineBreaks_extend hwait more
    | some stop =>
      obtain ⟨-, hmark', hbehind, hblock⟩ := mark_extend hmark more
      cases haccept : Header.accept d.maxFrameBytes (d.skipLineBreaks.buffer.take stop) with
      | error fault =>
        -- a refused block is a fault and misses nothing
        rw [decode_of_refused hwait hmark haccept] at h
        simp at h
      | ok length =>
        rw [decode_of_accepted hwait hmark haccept] at h
        rw [decode_of_accepted hwait' hmark' (by rw [hblock, ← haccept]; rfl),
          eq_of_decodeBody_missing h, hbehind]
        exact decode_of_body rfl

-- ---------------------------------------------------------------------------
-- Torn header blocks
-- ---------------------------------------------------------------------------

def tooLarge : Fault := .headerTooLarge maxHeaderBytes

/-- The length on a header block is no matter of the size of the block. -/
theorem lengthOf_ne_tooLarge (block : Bytes) : Header.lengthOf block ≠ .error tooLarge := by
  intro h
  rcases Header.fault_of_lengthOf h with hf | ⟨value, hf⟩ | hf <;> cases hf

/-- A block of accepted size is not refused for its size. -/
theorem accept_ne_tooLarge {limit : Nat} {block : Bytes} (h : block.length ≤ maxHeaderBytes) :
    Header.accept limit block ≠ .error tooLarge := by
  rw [Header.accept, if_neg (Nat.not_lt.mpr h)]
  have hlength := lengthOf_ne_tooLarge block
  cases hof : Header.lengthOf block with
  | error fault =>
    rw [hof] at hlength
    exact hlength
  | ok length =>
    dsimp only
    split <;> simp [tooLarge]

/-- A body that is waited for is not too large: that was decided with its block. -/
theorem decodeBody_ne_tooLarge (d : Decoder) (n : Nat) (d' : Decoder) :
    d.decodeBody n ≠ (.error tooLarge, d') := by
  rcases Nat.lt_or_ge d.buffered n with hlt | hle
  · rw [decodeBody_of_lt hlt]
    simp
  · rw [decodeBody_of_le hle, parseBody]
    split <;> simp [Except.map, tooLarge]

/-- A header block that is too long stays where it is. -/
theorem decode_tooLarge {d d' : Decoder} (h : d.decode = (.error tooLarge, d')) :
    d.awaiting = .header ∧ d' = d.skipLineBreaks ∧ maxHeaderBytes < d.skipLineBreaks.buffered := by
  cases hwait : d.awaiting with
  | body n =>
    rw [decode_of_body hwait] at h
    exact absurd h (decodeBody_ne_tooLarge d n d')
  | header =>
    cases hmark : endMark? d.skipLineBreaks.buffer with
    | none =>
      rw [decode_of_no_mark hwait hmark, Prod.mk.injEq] at h
      refine ⟨rfl, h.2.symm, ?_⟩
      by_contra hshort
      rw [if_neg hshort] at h
      simp at h
    | some stop =>
      cases haccept : Header.accept d.maxFrameBytes (d.skipLineBreaks.buffer.take stop) with
      | error fault =>
        rw [decode_of_refused hwait hmark haccept, Prod.mk.injEq, Except.error.injEq] at h
        refine ⟨rfl, h.2.symm, ?_⟩
        by_contra hshort
        -- the block is refused for its size only if it is too long
        refine accept_ne_tooLarge ?_ (h.1 ▸ haccept)
        rw [List.length_take]
        exact Nat.le_trans (Nat.min_le_right _ _) (Nat.le_of_not_lt hshort)
      | ok length =>
        rw [decode_of_accepted hwait hmark haccept] at h
        exact absurd h (decodeBody_ne_tooLarge _ length d')

/-- Once they are dropped there are none. -/
theorem skipLineBreaks_skipLineBreaks (d : Decoder) :
    d.skipLineBreaks.skipLineBreaks = d.skipLineBreaks := by
  simpa using skipLineBreaks_extend_skipLineBreaks d []

/-- Whether a decoder is torn does not depend on when it drops its line breaks. -/
theorem tornBy_skipLineBreaks {d : Decoder} {more : Bytes} :
    d.skipLineBreaks.TornBy more ↔ d.TornBy more := by
  unfold TornBy
  rw [skipLineBreaks_skipLineBreaks]
  rfl

/-- What a torn decoder comes to. -/
theorem TornBy.decode {d : Decoder} {more : Bytes} (h : d.TornBy more) :
    d.decode = (.error tooLarge, d.skipLineBreaks) := by
  obtain ⟨hwait, hmark, hlong, -⟩ := h
  rw [decode_of_no_mark hwait hmark, if_pos hlong, tooLarge]

/-- What it would have come to with the bytes that tear it: anything but the same. -/
theorem TornBy.decode_extend_ne {d : Decoder} {more : Bytes} (h : d.TornBy more) (d' : Decoder) :
    (d.extend more).decode ≠ (.error tooLarge, d') := by
  obtain ⟨hwait, -, hlong, stop, hstop, hlater⟩ := h
  have hwait' : (d.extend more).awaiting = .header := hwait
  -- there are bytes behind the line breaks, and so more of them are dropped alike
  have hskip : (d.extend more).skipLineBreaks = d.skipLineBreaks.extend more := by
    apply skipLineBreaks_extend
    intro hnil
    simp [buffered, hnil] at hlong
  have hmark : endMark? (d.extend more).skipLineBreaks.buffer = some stop := by
    rw [hskip]
    exact hlater
  intro hdecode
  -- the mark comes in time: whatever becomes of the block, it is not too long
  cases haccept : Header.accept (d.extend more).maxFrameBytes
      ((d.extend more).skipLineBreaks.buffer.take stop) with
  | error fault =>
    rw [decode_of_refused hwait' hmark haccept, Prod.mk.injEq, Except.error.injEq] at hdecode
    rw [hdecode.1] at haccept
    refine accept_ne_tooLarge ?_ haccept
    rw [List.length_take]
    omega
  | ok length =>
    rw [decode_of_accepted hwait' hmark haccept] at hdecode
    exact decodeBody_ne_tooLarge _ _ _ hdecode

/-- A decoder that gave a frame is not torn. -/
theorem not_tornBy_of_frame {d d' : Decoder} {v : Json} (h : d.decode = (.ok (some v), d'))
    (more : Bytes) : ¬ d.TornBy more := by
  intro htorn
  rw [htorn.decode] at h
  simp at h

-- ---------------------------------------------------------------------------
-- All frames
-- ---------------------------------------------------------------------------

/-- A frame takes bytes. -/
theorem decode_some_lt {d d' : Decoder} {v : Json} (h : d.decode = (.ok (some v), d')) :
    d'.buffered < d.buffered := by
  -- bodies take at least one byte, and header blocks never give any back
  have hbody : ∀ {d d' : Decoder} {n : Nat}, d.decodeBody n = (.ok (some v), d') →
      d'.buffered < d.buffered := by
    intro d d' n h
    rcases Nat.lt_or_ge d.buffered n with hlt | hle
    · rw [decodeBody_of_lt hlt] at h
      simp at h
    · rw [decodeBody_of_le hle, Prod.mk.injEq] at h
      have hn : n ≠ 0 := by
        -- no value is written with no bytes
        rintro rfl
        simp [parseBody, Json.read, Json.readFront, Json.readValue, Json.skipBlanks,
          Except.map] at h
      rw [← h.2]
      simp only [buffered, List.length_drop] at hle ⊢
      omega
  have hskip : d.skipLineBreaks.buffered ≤ d.buffered := (List.dropWhile_suffix _).length_le
  cases hwait : d.awaiting with
  | body n => exact hbody (by rwa [decode_of_body hwait] at h)
  | header =>
    cases hmark : endMark? d.skipLineBreaks.buffer with
    | none =>
      rw [decode_of_no_mark hwait hmark, Prod.mk.injEq] at h
      split at h <;> simp at h
    | some stop =>
      cases haccept : Header.accept d.maxFrameBytes (d.skipLineBreaks.buffer.take stop) with
      | error fault =>
        rw [decode_of_refused hwait hmark haccept] at h
        simp at h
      | ok length =>
        rw [decode_of_accepted hwait hmark haccept] at h
        have hlt := hbody h
        simp only [behindHeader, buffered, List.length_drop] at hlt hskip ⊢
        omega

end Decoder
end EditorLink.Framing
