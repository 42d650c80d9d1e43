import EditorLink.Proofs.Framing.Accounting
import EditorLink.Proofs.Framing.Header

/-!
# EditorLink — bodies are passed through

What a body holds does not matter to the framing: the bytes of a body are never searched for a header nor
dropped as line breaks, and a body that is not JSON is followed by the next frame like any other. As long as
no header block is so long that a cut in its end mark could tear it, this holds however the stream is cut.

Bodies are any bytes: an end mark, another header, half a character, or none of JSON at all. What is found for each is
what parsing it comes to, fault or value, and after the last of them nothing is left over. So the findings are a list
with one entry for each body, and the calls go on behind a fault in a body; behind any other fault they would not,
which is why the header blocks here are ones that the decoder accepts.

The proof keeps what is still ahead of the decoder (`Ahead`): the rest of a body that is waited for, and the frames
behind it. One call moves the decoder over one entry, or finds that bytes are missing; the rest is induction on the
findings of one chunk and on the chunks.

## Results

* `findings`, `findingsOf` — all that is found in a decoder, at once and chunk by chunk;
* `Segment.Plain`, `Convoy` — such a frame, and a stream of them;
* `Ahead`, `Ahead.decode` — what is ahead of a decoder, and what one call makes of it;
* `Ahead.findings`, `Ahead.findingsOf` — all calls behind one chunk, and behind all chunks;
* `bodies_found` — what is found in a stream.
-/

namespace EditorLink.Framing

namespace Decoder

-- ---------------------------------------------------------------------------
-- All that is found
-- ---------------------------------------------------------------------------

/-- How much a decoder has to do at most. -/
def work (d : Decoder) : Nat :=
  match d.awaiting with
  | .header => d.buffered
  | .body _ => d.buffered + 1

/-- A body is taken off the bytes, and then a header block is expected. -/
theorem work_decodeBody_le {d d' : Decoder} {n : Nat} {r : Except Fault (Option Json)}
    (h : d.decodeBody n = (r, d')) (hfound : inBody? r ≠ none) : d'.work ≤ d.buffered := by
  rcases Nat.lt_or_ge d.buffered n with hlt | hge
  · rw [decodeBody_of_lt hlt, Prod.mk.injEq] at h
    rw [← h.1] at hfound
    exact absurd rfl hfound
  · rw [decodeBody_of_le hge, Prod.mk.injEq] at h
    rw [← h.2]
    simp only [work, buffered, List.length_drop]
    omega

/-- There is less to do behind a frame. -/
theorem work_decode_lt {d d' : Decoder} {r : Except Fault (Option Json)} (h : d.decode = (r, d'))
    (hfound : inBody? r ≠ none) : d'.work < d.work := by
  cases hwait : d.awaiting with
  | body n =>
    rw [decode_of_body hwait] at h
    have hle := work_decodeBody_le h hfound
    have hwork : d.work = d.buffered + 1 := by rw [work, hwait]
    omega
  | header =>
    have hwork : d.work = d.buffered := by rw [work, hwait]
    have hskip : d.skipLineBreaks.buffered ≤ d.buffered := (List.dropWhile_suffix _).length_le
    cases hmark : endMark? d.skipLineBreaks.buffer with
    | none =>
      rw [decode_of_no_mark hwait hmark, Prod.mk.injEq] at h
      rw [← h.1] at hfound
      split at hfound <;> exact absurd rfl hfound
    | some stop =>
      cases haccept : Header.accept d.maxFrameBytes (d.skipLineBreaks.buffer.take stop) with
      | error fault =>
        rw [decode_of_refused hwait hmark haccept, Prod.mk.injEq] at h
        rw [← h.1, inBody?_of_error (Header.accept_ne_invalidBody haccept)] at hfound
        exact absurd rfl hfound
      | ok length =>
        rw [decode_of_accepted hwait hmark haccept] at h
        have hle := work_decodeBody_le h hfound
        have hmarkLe := (endMark?_eq_some_iff.mp hmark).1.add_four_le
        simp only [behindHeader, buffered, List.length_drop] at hle hskip hwork
        omega

/-- Decodes until bytes are missing, and answers with what was found. A body that is not JSON is no end of
it; a fault of a header is. -/
def findings (d : Decoder) : List (Except Fault Json) × Decoder :=
  match _ : d.decode with
  | (.ok none, d') => ([], d')
  | (.ok (some v), d') => (.ok v :: d'.findings.1, d'.findings.2)
  | (.error (.invalidBody why), d') => (.error (.invalidBody why) :: d'.findings.1, d'.findings.2)
  | (.error fault, d') => ([.error fault], d')
termination_by d.work
decreasing_by all_goals exact work_decode_lt (by assumption) (by simp [inBody?])

/-- Decodes after each chunk until bytes are missing. -/
def findingsOf (d : Decoder) : List Bytes → List (Except Fault Json) × Decoder
  | [] => ([], d)
  | chunk :: rest =>
    let (found, d) := (d.extend chunk).findings
    let (more, d) := d.findingsOf rest
    (found ++ more, d)

/-- Bytes are missing, and nothing more is found for now. -/
theorem findings_of_missing {d d' : Decoder} (h : d.decode = (.ok none, d')) :
    d.findings = ([], d') := by
  rw [findings]
  split <;> simp_all

/-- A body is found, and then what is behind it. -/
theorem findings_of_body {d d' : Decoder} {body : Bytes}
    (h : d.decode = ((parseBody body).map some, d')) :
    d.findings = (parseBody body :: d'.findings.1, d'.findings.2) := by
  rw [parseBody] at h ⊢
  rw [findings]
  cases hread : Json.read body <;> rw [hread] at h <;> split <;> simp_all [Except.map]

end Decoder

-- ---------------------------------------------------------------------------
-- Streams
-- ---------------------------------------------------------------------------

/-- A frame that is taken wherever its bytes are cut. Its body may be anything. -/
structure Segment.Plain (s : Segment) (limit : Nat) : Prop where
  breaks : ∀ b ∈ s.breaks, isLineBreak b = true
  front : ∀ b rest, s.block = b :: rest → isLineBreak b = false
  closed : endMark? (s.block ++ endMark) = some s.block.length
  short : s.block.length ≤ 8189
  length : Header.lengthOf s.block = .ok s.body.length
  fits : s.body.length ≤ limit

/-- A frame whose block is short is a frame. -/
theorem Segment.Plain.framed {s : Segment} {limit : Nat} (h : s.Plain limit) : s.Framed limit := by
  have hshort : s.block.length ≤ maxHeaderBytes := Nat.le_trans h.short (by decide)
  refine ⟨h.breaks, ⟨?_, h.closed⟩, hshort, h.length, Header.lengthOf_pos h.length, h.fits⟩
  -- a block of no bytes gives no length
  cases hblock : s.block with
  | nil =>
    have hlength := h.length
    rw [hblock] at hlength
    cases hlength
  | cons b rest => exact ⟨b, rest, rfl, h.front b rest hblock⟩

/-- Bytes that are such frames, the last line breaks behind them, and the bodies of the frames. -/
inductive Convoy (limit : Nat) : Bytes → List Bytes → Prop
  | breaks {bytes : Bytes} (hbreaks : ∀ b ∈ bytes, isLineBreak b = true) : Convoy limit bytes []
  | frame {s : Segment} {bytes : Bytes} {bodies : List Bytes} (hs : s.Plain limit)
    (hrest : Convoy limit bytes bodies) : Convoy limit (s.bytes ++ bytes) (s.body :: bodies)

/-- Frames one behind the other, and line breaks behind the last. -/
theorem convoy_of_segments {limit : Nat} {segments : List Segment} {breaks : Bytes}
    (hsegments : ∀ s ∈ segments, s.Plain limit) (hbreaks : ∀ b ∈ breaks, isLineBreak b = true) :
    Convoy limit (segments.flatMap Segment.bytes ++ breaks) (segments.map (·.body)) := by
  induction segments with
  | nil => exact .breaks hbreaks
  | cons s rest ih =>
    obtain ⟨hs, hrest⟩ := List.forall_mem_cons.mp hsegments
    rw [List.flatMap_cons, List.append_assoc]
    exact .frame hs (ih hrest)

/-- Of a header that is cut off the line breaks may be dropped. There is no end mark in what is left, and not
much more than the block. -/
theorem begun_header {breaks block part rest : Bytes} (hbreaks : ∀ b ∈ breaks, isLineBreak b = true)
    (hblock : IsBlock block) (hsplit : breaks ++ (block ++ endMark) = part ++ rest)
    (hrest : rest ≠ []) :
    ∃ left, (∀ b ∈ left, isLineBreak b = true) ∧
      left ++ (block ++ endMark) = part.dropWhile isLineBreak ++ rest ∧
      endMark? (part.dropWhile isLineBreak) = none ∧
      (part.dropWhile isLineBreak).length < block.length + 4 := by
  rcases List.append_eq_append_iff.mp hsplit with ⟨come, rfl, hcome⟩ | ⟨left, rfl, rfl⟩
  · -- all line breaks have come, and perhaps a part of the block
    rw [List.dropWhile_append_of_pos hbreaks]
    have hkept : come.dropWhile isLineBreak = come := by
      cases come with
      | nil => rfl
      | cons b tail =>
        obtain ⟨b', rest', rfl, hb⟩ := hblock.front
        rw [List.cons_append, List.cons_append] at hcome
        obtain rfl := (List.cons.inj hcome).1
        rw [List.dropWhile_cons_of_neg (by simp [hb])]
    have hlength : come.length < block.length + 4 := by
      have hpos := List.length_pos_iff.mpr hrest
      have hsum := congrArg List.length hcome
      simp only [endMark, List.length_append, List.length_cons, List.length_nil] at hsum
      omega
    rw [hkept]
    refine ⟨[], by simp, hcome, ?_, hlength⟩
    cases hfind : endMark? come with
    | none => rfl
    | some n =>
      -- it would be the mark of the block, which has not come yet
      have hsame := endMark?_append hfind rest
      rw [← hcome, hblock.closed, Option.some.injEq] at hsame
      have hle := (endMark?_eq_some_iff.mp hfind).1.add_four_le
      omega
  · -- nothing but line breaks has come
    have hall : ∀ b ∈ part, isLineBreak b = true := fun b hb => hbreaks b (List.mem_append_left _ hb)
    have hnone : part.dropWhile isLineBreak = [] := List.dropWhile_eq_nil_iff.mpr hall
    rw [hnone]
    exact ⟨left, fun b hb => hbreaks b (List.mem_append_right _ hb), rfl, rfl, Nat.succ_pos _⟩

-- ---------------------------------------------------------------------------
-- One call
-- ---------------------------------------------------------------------------

namespace Decoder

/-- What is ahead of a decoder, in what it holds and in what is still to come: frames of which these bodies
are still to be found. It may have taken the header block of the first. -/
inductive Ahead (limit : Nat) : Decoder → Bytes → List Bytes → Prop
  | header {held rest : Bytes} {bodies : List Bytes} (h : Convoy limit (held ++ rest) bodies) :
    Ahead limit ((withLimit limit).extend held) rest bodies
  | body {held rest body bytes : Bytes} {bodies : List Bytes} (hbytes : held ++ rest = body ++ bytes)
    (h : Convoy limit bytes bodies) :
    Ahead limit { (withLimit limit).extend held with awaiting := .body body.length } rest
      (body :: bodies)

/-- What a call makes of what is ahead: it finds the next body, or bytes are missing. When all bytes have
come they are missing only behind the last body. -/
inductive Advances (limit : Nat) (rest : Bytes) :
    List Bytes → Except Fault (Option Json) → Decoder → Prop
  | finds {body : Bytes} {bodies : List Bytes} {d : Decoder} (h : Ahead limit d rest bodies) :
    Advances limit rest (body :: bodies) ((parseBody body).map some) d
  | misses {bodies : List Bytes} {d : Decoder} (h : Ahead limit d rest bodies)
    (hend : rest = [] → bodies = [] ∧ d = withLimit limit) :
    Advances limit rest bodies (.ok none) d

variable {limit : Nat} {rest : Bytes} {bodies : List Bytes} {d : Decoder}

theorem advances_body {held body bytes : Bytes} (hbytes : held ++ rest = body ++ bytes)
    (h : Convoy limit bytes bodies) :
    ∃ r d', decodeBody { (withLimit limit).extend held with awaiting := .body body.length }
        body.length = (r, d') ∧
      Advances limit rest (body :: bodies) r d' := by
  have hbuffered : buffered { (withLimit limit).extend held with awaiting := .body body.length } =
    held.length := rfl
  rcases Nat.lt_or_ge held.length body.length with hlt | hge
  · refine ⟨_, _, decodeBody_of_lt (hbuffered ▸ hlt), .misses (.body hbytes h) ?_⟩
    -- a body of which bytes are missing has not come
    rintro rfl
    have hsum := congrArg List.length hbytes
    simp only [List.length_append, List.length_nil] at hsum
    omega
  · obtain ⟨behind, rfl, rfl⟩ : ∃ behind, held = body ++ behind ∧ bytes = behind ++ rest := by
      rcases List.append_eq_append_iff.mp hbytes with ⟨missing, rfl, rfl⟩ | ⟨behind, rfl, rfl⟩
      · have hnone : missing = [] := by
          rw [List.length_append] at hge
          exact List.eq_nil_of_length_eq_zero (by omega)
        exact ⟨[], by simp [hnone], by simp [hnone]⟩
      · exact ⟨behind, rfl, rfl⟩
    have hbuffer : ∀ bytes, ((withLimit limit).extend bytes).buffer = bytes := fun _ => rfl
    rw [decodeBody_of_le (hbuffered ▸ hge)]
    simp only [hbuffer, List.take_left, List.drop_left]
    exact ⟨_, _, rfl, .finds (.header h)⟩

/-- Behind the last frame there is nothing to be found. -/
theorem advances_breaks {held : Bytes} (hbreaks : ∀ b ∈ held ++ rest, isLineBreak b = true) :
    ∃ r d', ((withLimit limit).extend held).decode = (r, d') ∧ Advances limit rest [] r d' := by
  have hskip := withLimit_extend_skipLineBreaks limit held
  have hnone : held.dropWhile isLineBreak = [] :=
    List.dropWhile_eq_nil_iff.mpr fun b hb => hbreaks b (List.mem_append_left _ hb)
  have hempty : ¬ maxHeaderBytes < ((withLimit limit).extend []).buffered := Nat.not_lt_zero _
  rw [hnone] at hskip
  refine ⟨_, _, decode_of_no_mark rfl (by rw [hskip]; rfl), ?_⟩
  rw [hskip, if_neg hempty]
  exact .misses (.header (.breaks fun b hb => hbreaks b (List.mem_append_right _ hb)))
    fun _ => ⟨rfl, rfl⟩

/-- A header of which bytes are missing is waited for: what has come is short enough even with a part of the
end mark. -/
theorem advances_begun {s : Segment} {held missing bytes : Bytes} (hs : s.Plain limit)
    (hrest : Convoy limit bytes bodies) (hheld : s.breaks ++ (s.block ++ endMark) = held ++ missing)
    (hmissing : missing ≠ []) :
    ∃ r d', ((withLimit limit).extend held).decode = (r, d') ∧
      Advances limit (missing ++ (s.body ++ bytes)) (s.body :: bodies) r d' := by
  obtain ⟨left, hleft, hsplit, hmark, hshort⟩ := begun_header hs.breaks hs.framed.isBlock hheld hmissing
  have hskip := withLimit_extend_skipLineBreaks limit held
  have hfew : ¬ maxHeaderBytes < ((withLimit limit).extend (held.dropWhile isLineBreak)).buffered := by
    have hblock := hs.short
    show ¬ 8192 < (held.dropWhile isLineBreak).length
    omega
  refine ⟨_, _, decode_of_no_mark rfl (by rw [hskip]; exact hmark), ?_⟩
  rw [hskip, if_neg hfew]
  -- the line breaks that were dropped are as if they had not been
  have hplain : Segment.Plain { s with breaks := left } limit :=
    ⟨hleft, hs.front, hs.closed, hs.short, hs.length, hs.fits⟩
  have hconvoy := Convoy.frame hplain hrest
  have hsame : Segment.bytes { s with breaks := left } ++ bytes =
      held.dropWhile isLineBreak ++ (missing ++ (s.body ++ bytes)) := by
    rw [← List.append_assoc _ missing, ← hsplit]
    simp only [Segment.bytes, List.append_assoc]
  rw [hsame] at hconvoy
  refine .misses (.header hconvoy) ?_
  intro hnil
  exact absurd (List.append_eq_nil_iff.mp hnil).1 hmissing

/-- **One call** finds the next body, or bytes are missing. No call refuses a header block. -/
theorem Ahead.decode (h : Ahead limit d rest bodies) :
    ∃ r d', d.decode = (r, d') ∧ Advances limit rest bodies r d' := by
  cases h with
  | @body held _ body bytes bodies hbytes h =>
    rw [decode_of_body rfl]
    exact advances_body hbytes h
  | @header held _ _ h =>
    generalize hstream : held ++ rest = stream at h
    cases h with
    | breaks hbreaks => exact advances_breaks (hstream ▸ hbreaks)
    | @frame s bytes bodies hs hrest =>
      have hbytes : held ++ rest =
          s.breaks ++ (s.block ++ endMark) ++ (s.body ++ bytes) := by
        rw [hstream]
        simp only [Segment.bytes, List.append_assoc]
      -- has the whole header come?
      have hcases : (∃ come, held = s.breaks ++ (s.block ++ endMark) ++ come ∧
            come ++ rest = s.body ++ bytes) ∨
          ∃ missing, missing ≠ [] ∧ s.breaks ++ (s.block ++ endMark) = held ++ missing ∧
            rest = missing ++ (s.body ++ bytes) := by
        rcases List.append_eq_append_iff.mp hbytes with ⟨missing, hheld, hmissing⟩ | ⟨come, hheld, hcome⟩
        · cases missing with
          | nil => exact .inl ⟨[], by simpa using hheld.symm, hmissing⟩
          | cons b tail => exact .inr ⟨_, List.cons_ne_nil b tail, hheld, hmissing⟩
        · exact .inl ⟨come, hheld, hcome.symm⟩
      rcases hcases with ⟨come, rfl, hcome⟩ | ⟨missing, hmissing, hheld, rfl⟩
      · have hheader := decode_header hs.breaks hs.framed.isBlock hs.framed.accepted come
        rw [← List.append_assoc s.block, ← List.append_assoc] at hheader
        rw [hheader]
        exact advances_body hcome hrest
      · exact advances_begun hs hrest hheld hmissing

-- ---------------------------------------------------------------------------
-- All calls
-- ---------------------------------------------------------------------------

/-- **All calls behind a chunk** find the next bodies, one after the other. -/
theorem Ahead.findings (h : Ahead limit d rest bodies) :
    ∃ found left d', bodies = found ++ left ∧ d.findings = (found.map parseBody, d') ∧
      Ahead limit d' rest left ∧ (rest = [] → left = [] ∧ d' = withLimit limit) := by
  -- along the work that the decoder still has
  induction hwork : d.work using Nat.strong_induction_on generalizing d bodies with
  | _ n ih =>
    obtain ⟨r, d', hdecode, hadvances⟩ := h.decode
    cases hadvances with
    | misses hahead hend =>
      exact ⟨[], bodies, d', rfl, findings_of_missing hdecode, hahead, hend⟩
    | @finds body bodies _ hahead =>
      have hless : d'.work < n := by
        rw [← hwork]
        exact work_decode_lt hdecode (by rw [inBody?_parseBody]; nofun)
      obtain ⟨found, left, d'', rfl, hfindings, hrest, hend⟩ := ih _ hless hahead rfl
      refine ⟨body :: found, left, d'', rfl, ?_, hrest, hend⟩
      rw [findings_of_body hdecode, hfindings, List.map_cons]

/-- Bytes that were to come have come. -/
theorem Ahead.extend {chunk : Bytes} (h : Ahead limit d (chunk ++ rest) bodies) :
    Ahead limit (d.extend chunk) rest bodies := by
  cases h with
  | @header held _ _ h =>
    rw [extend_extend]
    exact .header (by rwa [List.append_assoc])
  | @body held _ body bytes bodies hbytes h =>
    have hbytes' : (held ++ chunk) ++ rest = body ++ bytes := by rwa [List.append_assoc]
    exact .body hbytes' h

/-- **All chunks** together: every body is found, and nothing else. -/
theorem Ahead.findingsOf {chunks : List Bytes} (h : Ahead limit d chunks.flatten bodies)
    (hidle : chunks = [] → bodies = [] ∧ d = withLimit limit) :
    d.findingsOf chunks = (bodies.map parseBody, withLimit limit) := by
  induction chunks generalizing d bodies with
  | nil =>
    obtain ⟨rfl, rfl⟩ := hidle rfl
    rfl
  | cons chunk rest ih =>
    obtain ⟨found, left, d', rfl, hfindings, hrest, hend⟩ := h.extend.findings
    have hdone := ih hrest fun hnil => hend (by rw [hnil]; rfl)
    simp only [Decoder.findingsOf, hfindings, hdone, List.map_append]

/-- A frame with the one line in its header that gives the length. -/
theorem plain_lengthBlock {limit n : Nat} {breaks body : Bytes} (hlength : body.length = n)
    (hbreaks : ∀ b ∈ breaks, isLineBreak b = true) (hpos : 0 < n) (hfew : n < 10) (hfits : n ≤ limit) :
    Segment.Plain ⟨breaks, lengthBlock [' '] n, body⟩ limit := by
  subst hlength
  have hblank : ∀ c ∈ [' '], c = ' ' := fun _ hc => List.mem_singleton.mp hc
  have hblock := isBlock_lengthBlock hblank body.length
  refine ⟨hbreaks, ?_, hblock.closed, ?_, ?_, hfits⟩
  · intro b rest hfront
    obtain ⟨b', rest', heq, hb⟩ := hblock.front
    rw [(List.cons.inj (hfront.symm.trans heq)).1]
    exact hb
  · rw [length_lengthBlock hblank, Nat.toDigits_of_lt_base hfew]
    simp
  · exact Header.lengthOf_lengthLine hblank hpos (Nat.lt_trans hfew (by decide))

/-- A frame behind a line break whose body is an end mark, and one behind it whose body is a value. -/
def markAndValue : List Segment :=
  [⟨[13, 10], lengthBlock [' '] 4, [13, 10, 13, 10]⟩, ⟨[], lengthBlock [' '] 2, [123, 125]⟩]

/-- **Framing is transparent to bodies.** In a stream of frames with line breaks between them, however it is cut
into chunks, what is found is what each body holds, a value or the fault of a body that is not JSON, in
order and nothing else. At the end no byte is left, and the stream may end there. -/
theorem bodies_found {limit : Nat} {segments : List Segment} {breaks : Bytes} {chunks : List Bytes}
    (hsegments : ∀ s ∈ segments, s.Plain limit) (hbreaks : ∀ b ∈ breaks, isLineBreak b = true)
    (hchunks : chunks.flatten = segments.flatMap Segment.bytes ++ breaks) :
    ∃ d, (withLimit limit).findingsOf chunks = (segments.map fun s => parseBody s.body, d) ∧
      d.buffered = 0 ∧ d.finish = .ok () := by
  have hconvoy := convoy_of_segments hsegments hbreaks
  rw [← hchunks] at hconvoy
  refine ⟨withLimit limit, ?_, rfl, rfl⟩
  have hahead : Ahead limit ((withLimit limit).extend []) chunks.flatten (segments.map (·.body)) :=
    .header hconvoy
  rw [extend_nil] at hahead
  rw [hahead.findingsOf, List.map_map]
  · rfl
  -- where nothing comes there is no frame
  · rintro rfl
    cases segments with
    | nil => exact ⟨rfl, rfl⟩
    | cons s rest => simp [Segment.bytes, endMark] at hchunks

/-- A body that is an end mark is no JSON, and the frame behind it is found. -/
theorem bodies_found_behind_mark :
    (∀ s ∈ markAndValue, s.Plain 4) ∧
      ∃ d, (withLimit 4).findingsOf
          [[13], [10] ++ lengthBlock [' '] 4 ++ [13, 10], [13, 10, 13, 10, 13], [10],
            lengthBlock [' '] 2 ++ endMark ++ [123], [125, 13]] =
          ([.error (.invalidBody (.malformed ⟨.endInValue, ⟨3, 0⟩⟩)), .ok (.obj [])], d) ∧
        d.buffered = 0 ∧ d.finish = .ok () := by
  have hplain : ∀ s ∈ markAndValue, s.Plain 4 :=
    List.forall_mem_cons.mpr
      ⟨plain_lengthBlock rfl (List.all_eq_true.mp rfl) (by decide) (by decide) (by decide),
      List.forall_mem_singleton.mpr
        (plain_lengthBlock rfl nofun (by decide) (by decide) (by decide))⟩
  have hmark : Json.read [13, 10, 13, 10] = .error ⟨.endInValue, ⟨3, 0⟩⟩ := by cbv
  have hvalue : Json.read [123, 125] = .ok (.obj []) := by cbv
  refine ⟨hplain, ?_⟩
  have hchunks : List.flatten [[13], [10] ++ lengthBlock [' '] 4 ++ [13, 10], [13, 10, 13, 10, 13], [10],
      lengthBlock [' '] 2 ++ endMark ++ [123], [125, 13]] =
      markAndValue.flatMap Segment.bytes ++ [13] := by
    simp only [markAndValue, Segment.bytes, endMark, List.flatMap_cons, List.flatMap_nil, List.flatten_cons,
      List.flatten_nil, List.append_assoc, List.cons_append, List.nil_append, List.append_nil]
  have hbodies : markAndValue.map (fun s => parseBody s.body) =
      [.error (.invalidBody (.malformed ⟨.endInValue, ⟨3, 0⟩⟩)), .ok (.obj [])] := by
    simp only [markAndValue, List.map_cons, List.map_nil, parseBody, hmark, hvalue]
  rw [← hbodies]
  exact bodies_found hplain (List.all_eq_true.mp rfl) hchunks

end Decoder
end EditorLink.Framing
