import EditorLink.Proofs.Framing.Segments

/-!
# EditorLink — where the bytes of a stream are

A decoder takes bytes off the front of what has come, and all that it takes is line breaks, header blocks
with their end marks, and bodies. This holds whatever comes and whenever the decoder is asked, also behind
a fault.

Calls are made in any order, so that a body may be announced in one call and taken in another, and a fault may come
in between. Two things carry the proof: a decoder that waits for a body has taken the heading of just that body and
nothing of the body itself (`Underway`), and each call takes whole headings and whole bodies or nothing (`Takes`).

Faults are of two kinds here. A body that is not JSON is taken like any other and counted as a frame, so that the next
one is found behind it. All other faults are found in a header block, which stays where it is: the decoder gives the
same fault again when it is asked again, and no byte is skipped in search of a better one.

## Results

* `Heading`, `Segment.Framed` — a header block that a decoder accepts, and a frame, whatever its body holds;
* `Underway` — what a decoder has taken of the frame that it is about;
* `Takes`, `decode_takes` — what one call of `decode` takes;
* `Call`, `serve` — calls in any order;
* `Accounted`, `Accounted.serve` — where the bytes are behind any calls;
* `bytes_accounted` — for a fresh decoder, with what the next call takes.
-/

namespace EditorLink.Framing

-- ---------------------------------------------------------------------------
-- Headings
-- ---------------------------------------------------------------------------

/-- Line breaks and a header block that a decoder with this limit accepts, for a body of `n` bytes. -/
structure Heading (limit n : Nat) (breaks block : Bytes) : Prop where
  blank : ∀ b ∈ breaks, isLineBreak b = true
  isBlock : IsBlock block
  short : block.length ≤ maxHeaderBytes
  length : Header.lengthOf block = .ok n
  pos : 0 < n
  fits : n ≤ limit

/-- A frame that a decoder with this limit takes. Its body may be anything. -/
def Segment.Framed (s : Segment) (limit : Nat) : Prop := Heading limit s.body.length s.breaks s.block

namespace Header

variable {limit n : Nat} {block : Bytes}

/-- No block gives a length of zero. -/
theorem lengthOf_pos (h : lengthOf block = .ok n) : 0 < n := by
  rw [lengthOf] at h
  split at h
  · cases h
  · split at h
    · cases h
    · cases h
    · cases h
    · rename_i hne hscan
      cases h
      exact Nat.pos_of_ne_zero hne

/-- A block is accepted if it is not too long and gives a length within the limit. -/
theorem accept_eq_ok_iff :
    accept limit block = .ok n ↔
      block.length ≤ maxHeaderBytes ∧ lengthOf block = .ok n ∧ n ≤ limit := by
  rw [accept]
  split
  · rename_i hlong
    constructor
    · intro h
      cases h
    · rintro ⟨hshort, -⟩
      exact absurd hlong (Nat.not_lt.mpr hshort)
  · rename_i hshort
    cases hlength : lengthOf block with
    | error fault => simp
    | ok length =>
      simp only [Except.ok.injEq]
      split
      · rename_i hbig
        constructor
        · intro h
          cases h
        · rintro ⟨-, rfl, hfits⟩
          exact absurd hbig (Nat.not_lt.mpr hfits)
      · rename_i hfits
        rw [Except.ok.injEq]
        constructor
        · rintro rfl
          exact ⟨Nat.le_of_not_lt hshort, rfl, Nat.le_of_not_lt hfits⟩
        · rintro ⟨-, heq, -⟩
          exact heq

/-- A header block is not refused for the body behind it. -/
theorem accept_ne_invalidBody {fault : Fault} (h : accept limit block = .error fault)
    (why : Json.TextFault) : fault ≠ .invalidBody why := by
  rintro rfl
  rw [accept] at h
  split at h
  · cases h
  · split at h
    · rename_i hlength
      rcases fault_of_lengthOf hlength with hf | ⟨_, hf⟩ | hf <;> cases h <;> cases hf
    · split at h <;> cases h

end Header

/-- The block of a heading is accepted with its length. -/
theorem Heading.accepted {limit n : Nat} {breaks block : Bytes} (h : Heading limit n breaks block) :
    Header.accept limit block = .ok n :=
  Header.accept_eq_ok_iff.mpr ⟨h.short, h.length, h.fits⟩

/-- Line breaks and a block that is accepted are a heading. -/
theorem heading_of_accepted {limit n : Nat} {breaks block : Bytes}
    (hbreaks : ∀ b ∈ breaks, isLineBreak b = true) (hblock : IsBlock block)
    (haccept : Header.accept limit block = .ok n) : Heading limit n breaks block := by
  obtain ⟨hshort, hlength, hfits⟩ := Header.accept_eq_ok_iff.mp haccept
  exact ⟨hbreaks, hblock, hshort, hlength, Header.lengthOf_pos hlength, hfits⟩

namespace Decoder

-- ---------------------------------------------------------------------------
-- One call
-- ---------------------------------------------------------------------------

/-- What a decoder has taken of the frame that it is about: line breaks, and if it waits for a body also
the header block with its end mark. -/
inductive Underway (limit : Nat) (d : Decoder) : Bytes → Prop
  | header {breaks : Bytes} (hlimit : d.maxFrameBytes = limit) (hwait : d.awaiting = .header)
    (hbreaks : ∀ b ∈ breaks, isLineBreak b = true) : Underway limit d breaks
  | body {n : Nat} {breaks block : Bytes} (hlimit : d.maxFrameBytes = limit)
    (hwait : d.awaiting = .body n) (hheading : Heading limit n breaks block) :
    Underway limit d (breaks ++ (block ++ endMark))

/-- What a call found in the body of a frame, if it took a frame. -/
def inBody? : Except Fault (Option Json) → Option (Except Fault Json)
  | .ok none => none
  | .ok (some v) => some (.ok v)
  | .error (.invalidBody why) => some (.error (.invalidBody why))
  | .error _ => none

/-- What a body comes to is a finding in a body, whether it is JSON or not. -/
theorem inBody?_parseBody (body : Bytes) :
    inBody? ((parseBody body).map some) = some (parseBody body) := by
  rw [parseBody]
  cases Json.read body <;> rfl

theorem inBody?_of_error {fault : Fault} (h : ∀ why, fault ≠ .invalidBody why) :
    inBody? (.error fault) = none := by
  cases fault with
  | invalidBody why => exact absurd rfl (h why)
  | _ => rfl

/-- How a call takes nothing or a whole frame off the front of these bytes. -/
inductive Takes (limit : Nat) (bytes : Bytes) : Except Fault (Option Json) → Decoder → Prop
  | missing {d : Decoder} {pending : Bytes} (hunder : Underway limit d pending)
    (hbytes : bytes = pending ++ d.buffer) : Takes limit bytes (.ok none) d
  | frame {r : Except Fault (Option Json)} {d : Decoder} {s : Segment} (hframed : s.Framed limit)
    (hfound : inBody? r = some (parseBody s.body)) (hunder : Underway limit d [])
    (hbytes : bytes = s.bytes ++ d.buffer) : Takes limit bytes r d

variable {limit : Nat} {d : Decoder} {pending : Bytes}

/-- A decoder that waits for a body takes it whole, or leaves it until it is there. -/
theorem decodeBody_takes {n : Nat} {breaks block : Bytes} (hlimit : d.maxFrameBytes = limit)
    (hwait : d.awaiting = .body n) (hheading : Heading limit n breaks block) :
    Takes limit (breaks ++ (block ++ endMark) ++ d.buffer) (d.decodeBody n).1 (d.decodeBody n).2 := by
  rcases Nat.lt_or_ge d.buffered n with hlt | hge
  · rw [decodeBody_of_lt hlt]
    exact .missing (.body hlimit hwait hheading) rfl
  · rw [decodeBody_of_le hge]
    have hlength : (d.buffer.take n).length = n := List.length_take_of_le hge
    have hframed : Segment.Framed ⟨breaks, block, d.buffer.take n⟩ limit := by
      rw [Segment.Framed, hlength]
      exact hheading
    refine .frame hframed (inBody?_parseBody _) (.header hlimit rfl (by simp)) ?_
    simp only [Segment.bytes, List.append_assoc, List.take_append_drop]

/-- A decoder that drops line breaks has taken them. -/
theorem Underway.skipLineBreaks (h : Underway limit d pending) (hwait : d.awaiting = .header) :
    (∀ b ∈ pending ++ d.buffer.takeWhile isLineBreak, isLineBreak b = true) ∧
      Underway limit d.skipLineBreaks (pending ++ d.buffer.takeWhile isLineBreak) ∧
      pending ++ d.buffer =
        pending ++ d.buffer.takeWhile isLineBreak ++ d.skipLineBreaks.buffer := by
  cases h with
  | body hlimit hbody hheading =>
    rw [hwait] at hbody
    cases hbody
  | header hlimit hheader hbreaks =>
    have hall : ∀ b ∈ pending ++ d.buffer.takeWhile isLineBreak, isLineBreak b = true := by
      intro b hb
      rcases List.mem_append.mp hb with hb | hb
      · exact hbreaks b hb
      · exact List.mem_takeWhile_imp hb
    refine ⟨hall, .header hlimit hheader hall, ?_⟩
    rw [Decoder.skipLineBreaks, List.append_assoc, List.takeWhile_append_dropWhile]

/-- **One call** takes nothing or a frame, or it refuses a header block and drops the line breaks
before it. -/
theorem decode_takes (h : Underway limit d pending) :
    Takes limit (pending ++ d.buffer) d.decode.1 d.decode.2 ∨
      ∃ fault, d.decode = (.error fault, d.skipLineBreaks) ∧ d.awaiting = .header ∧
        ∀ why, fault ≠ .invalidBody why := by
  cases hwait : d.awaiting with
  | body n =>
    rw [decode_of_body hwait]
    cases h with
    | header hlimit hheader hbreaks =>
      rw [hwait] at hheader
      cases hheader
    | body hlimit hbody hheading =>
      obtain rfl : n = _ := Awaiting.body.inj (hwait.symm.trans hbody)
      exact .inl (decodeBody_takes hlimit hwait hheading)
  | header =>
    obtain ⟨hbreaks, hunder, hbytes⟩ := h.skipLineBreaks hwait
    have hlimit : d.maxFrameBytes = limit := by cases h <;> assumption
    cases hmark : endMark? d.skipLineBreaks.buffer with
    | none =>
      rw [decode_of_no_mark hwait hmark]
      split
      · exact .inr ⟨_, rfl, rfl, nofun⟩
      · exact .inl (.missing hunder hbytes)
    | some stop =>
      cases haccept : Header.accept d.maxFrameBytes (d.skipLineBreaks.buffer.take stop) with
      | error fault =>
        rw [decode_of_refused hwait hmark haccept]
        exact .inr ⟨fault, rfl, rfl, Header.accept_ne_invalidBody haccept⟩
      | ok length =>
        rw [decode_of_accepted hwait hmark haccept, hbytes]
        rw [hlimit] at haccept
        have hblock : IsBlock (d.skipLineBreaks.buffer.take stop) := isBlock_take hmark
        -- the block and its end mark stand at the front, and the body is decoded behind them
        obtain ⟨tail, htail⟩ := (endMark?_eq_some_iff.mp hmark).1
        have hdrop : (d.behindHeader stop length).buffer = tail := by
          rw [behindHeader, ← List.drop_drop, ← htail]
          rfl
        have hfront : d.skipLineBreaks.buffer =
            d.skipLineBreaks.buffer.take stop ++ endMark ++ (d.behindHeader stop length).buffer := by
          rw [hdrop, List.append_assoc, htail, List.take_append_drop]
        have htakes := decodeBody_takes (d := d.behindHeader stop length) hlimit rfl
          (heading_of_accepted hbreaks hblock haccept)
        rw [List.append_assoc, ← hfront] at htakes
        exact .inl htakes

/-- What the next call takes, behind the part of a frame that was taken before: a frame with its result, or
with a fault of the header nothing but line breaks. -/
structure Consumes (limit : Nat) (d : Decoder) (pending : Bytes) : Prop where
  frame : ∀ found, inBody? d.decode.1 = some found →
    ∃ s : Segment, s.Framed limit ∧ found = parseBody s.body ∧ d.decode.2.awaiting = .header ∧
      pending ++ d.buffer = s.bytes ++ d.decode.2.buffer
  refusal : ∀ fault, d.decode.1 = .error fault → (∀ why, fault ≠ .invalidBody why) →
    d.awaiting = .header ∧ d.decode.2.awaiting = .header ∧
      ∃ breaks, (∀ b ∈ breaks, isLineBreak b = true) ∧ d.buffer = breaks ++ d.decode.2.buffer

/-- A decoder that has taken nothing of a frame waits for a header block. -/
theorem Underway.awaiting_of_nil (h : Underway limit d []) : d.awaiting = .header := by
  generalize hnil : ([] : Bytes) = none at h
  cases h with
  | header hlimit hwait hbreaks => exact hwait
  | body hlimit hwait hheading => simp [endMark] at hnil

/-- What is taken of a frame that is underway are its line breaks, its block and the end mark. -/
theorem Underway.consumes (h : Underway limit d pending) : Consumes limit d pending := by
  obtain ⟨r, d', hdecode⟩ : ∃ r d', d.decode = (r, d') := ⟨_, _, rfl⟩
  have htakes := decode_takes h
  rw [hdecode] at htakes
  dsimp only at htakes
  constructor
  · intro found hfound
    rw [hdecode] at hfound ⊢
    dsimp only at hfound ⊢
    rcases htakes with htakes | ⟨fault, heq, -, hbody⟩
    · cases htakes with
      | missing hunder hbytes => cases hfound
      | @frame _ _ s hframed hbody hunder hbytes =>
        rw [hbody, Option.some.injEq] at hfound
        exact ⟨s, hframed, hfound.symm, hunder.awaiting_of_nil, hbytes⟩
    · rw [Prod.mk.injEq] at heq
      rw [heq.1, inBody?_of_error hbody] at hfound
      cases hfound
  · intro fault hfault hbody
    rw [hdecode] at hfault ⊢
    dsimp only at hfault ⊢
    rcases htakes with htakes | ⟨fault', heq, hwait, -⟩
    · -- the fault of a body is no fault of the header
      cases htakes with
      | missing hunder hbytes => cases hfault
      | frame hframed hfound hunder hbytes =>
        rw [hfault, inBody?_of_error hbody] at hfound
        cases hfound
    · obtain ⟨-, rfl⟩ := Prod.mk.inj heq
      exact ⟨hwait, hwait, d.buffer.takeWhile isLineBreak, fun b hb => List.mem_takeWhile_imp hb,
        List.takeWhile_append_dropWhile.symm⟩

-- ---------------------------------------------------------------------------
-- Any calls
-- ---------------------------------------------------------------------------

/-- What is done with a decoder: more bytes come, or it is asked for a frame. -/
inductive Call where
  | extend (bytes : Bytes)
  | decode

/-- The bytes that come in these calls. -/
def arriving : List Call → Bytes
  | [] => []
  | .extend bytes :: rest => bytes ++ arriving rest
  | .decode :: rest => arriving rest

/-- What the calls of `decode` give, and the decoder behind all calls. Nothing ends them, also no fault. -/
def serve (d : Decoder) : List Call → List (Except Fault (Option Json)) × Decoder
  | [] => ([], d)
  | .extend bytes :: rest => (d.extend bytes).serve rest
  | .decode :: rest => (d.decode.1 :: (d.decode.2.serve rest).1, (d.decode.2.serve rest).2)

/-- The bytes that have come are the frames that were taken, what was taken of the next one, and what the
decoder holds. The results that were found in bodies are those of the frames. -/
structure Accounted (limit : Nat) (arrived : Bytes) (results : List (Except Fault (Option Json)))
    (d : Decoder) (segments : List Segment) (pending : Bytes) : Prop where
  framed : ∀ s ∈ segments, s.Framed limit
  found : results.filterMap inBody? = segments.map fun s => parseBody s.body
  underway : Underway limit d pending
  bytes : arrived = segments.flatMap Segment.bytes ++ (pending ++ d.buffer)

namespace Accounted

variable {arrived : Bytes} {results : List (Except Fault (Option Json))} {segments : List Segment}

/-- More bytes come: nothing is taken. -/
theorem extend (h : Accounted limit arrived results d segments pending) (more : Bytes) :
    Accounted limit (arrived ++ more) results (d.extend more) segments pending where
  framed := h.framed
  found := h.found
  underway := by
    cases h.underway with
    | header hlimit hwait hbreaks => exact .header hlimit hwait hbreaks
    | body hlimit hwait hheading => exact .body hlimit hwait hheading
  bytes := by rw [h.bytes, extend_buffer, List.append_assoc, List.append_assoc]

/-- **One call** of `decode` keeps account. -/
theorem decode (h : Accounted limit arrived results d segments pending) :
    ∃ segments' pending',
      Accounted limit arrived (results ++ [d.decode.1]) d.decode.2 segments' pending' := by
  obtain ⟨r, d', hdecode⟩ : ∃ r d', d.decode = (r, d') := ⟨_, _, rfl⟩
  have htakes := decode_takes h.underway
  rw [hdecode] at htakes ⊢
  dsimp only at htakes ⊢
  rcases htakes with htakes | ⟨fault, heq, hwait, hbody⟩
  · have hbytes := h.bytes
    generalize pending ++ d.buffer = bytes at htakes hbytes
    cases htakes with
    | @missing _ pending' hunder htaken =>
      refine ⟨segments, pending', h.framed, ?_, hunder, htaken ▸ hbytes⟩
      rw [List.filterMap_append, h.found]
      exact List.append_nil _
    | @frame _ _ s hframed hfound hunder htaken =>
      refine ⟨segments ++ [s], [], ?_, ?_, hunder, ?_⟩
      · simpa [or_imp, forall_and] using ⟨h.framed, hframed⟩
      · simp [h.found, hfound]
      · simp [hbytes, htaken]
  · obtain ⟨rfl, rfl⟩ := Prod.mk.inj heq
    obtain ⟨-, hunder, hbytes⟩ := h.underway.skipLineBreaks hwait
    refine ⟨segments, _, h.framed, ?_, hunder, by rw [h.bytes, hbytes]⟩
    rw [List.filterMap_append, h.found]
    simp [inBody?_of_error hbody]

/-- **Any calls** keep account. -/
theorem serve (h : Accounted limit arrived results d segments pending) (calls : List Call) :
    ∃ segments' pending',
      Accounted limit (arrived ++ arriving calls) (results ++ (d.serve calls).1) (d.serve calls).2
        segments' pending' := by
  induction calls generalizing arrived results d segments pending with
  | nil => exact ⟨segments, pending, by simpa [arriving, Decoder.serve] using h⟩
  | cons call rest ih =>
    cases call with
    | extend bytes =>
      obtain ⟨segments', pending', hrest⟩ := ih (h.extend bytes)
      exact ⟨segments', pending', by simpa [arriving, Decoder.serve] using hrest⟩
    | decode =>
      obtain ⟨_, _, hnext⟩ := h.decode
      obtain ⟨segments', pending', hrest⟩ := ih hnext
      exact ⟨segments', pending', by simpa [arriving, Decoder.serve] using hrest⟩

end Accounted

/-- **Each byte is accounted for**, whatever comes and however a fresh decoder is asked, also behind a fault:
the bytes that have come are frames, one for each value and each body that is not JSON, what was taken of
the next frame, and what the decoder holds. A frame that the next call takes is taken whole, and a fault of
a header takes nothing but line breaks. -/
theorem bytes_accounted (limit : Nat) (calls : List Call) :
    ∃ segments pending,
      Accounted limit (arriving calls) ((withLimit limit).serve calls).1
        ((withLimit limit).serve calls).2 segments pending ∧
      Consumes limit ((withLimit limit).serve calls).2 pending := by
  have hfresh : Accounted limit [] [] (withLimit limit) [] [] :=
    ⟨by simp, rfl, .header rfl rfl (by simp), rfl⟩
  obtain ⟨segments, pending, h⟩ := hfresh.serve calls
  exact ⟨segments, pending, h, h.underway.consumes⟩

end Decoder
end EditorLink.Framing
