import EditorLink.Proofs.Framing.Decoding

/-!
# EditorLink — a stream that comes in chunks

Bytes come as the transport gives them. This module compares decoding after each chunk with decoding
once all bytes have come.

The two differ in one case only. A header block without an end mark is measured as far as it has come, and up to three
bytes of a mark that has come in part are counted with it. Where a cut lies behind such bytes, and the block is of
nearly the greatest size, the decoder gives up over a block that it would have accepted a few bytes later. A chunk that
ends so tears the block (`TornAt`), and decoding ends there with a fault.

Everything else is as one would have it: a cut anywhere else shows neither in the frames nor in the fault at the end.
The comparison is an equivalence, so that the exception is described exactly, and is by induction on the chunks, with
the frames that were found before carried along.

## Results

* `Transcript`, `drain`, `drainChunks` — what decoding comes to, at once and chunk by chunk;
* `drain_extend`, `drain_extend_of_fault` — draining in two goes;
* `drainChunks_eq_iff` — the chunks make no difference exactly if no cut between them tears a header
  block;
* `drainChunks_of_tornBehind` — otherwise decoding ends at the first block that is torn.
-/

namespace EditorLink.Framing

/-- What decoding comes to: frames, and the fault that ends them if there is one. -/
structure Transcript where
  frames : List Json := []
  fault : Option Fault := none

def Transcript.after (frames : List Json) (t : Transcript) : Transcript :=
  { t with frames := frames ++ t.frames }

/-- The same frames before two transcripts make them neither more nor less alike. -/
theorem Transcript.after_inj {frames : List Json} {t u : Transcript} :
    t.after frames = u.after frames ↔ t = u := by
  cases t
  cases u
  simp [Transcript.after]

namespace Decoder

/-- Decodes until bytes are missing or there is a fault. -/
def drain (d : Decoder) : Transcript × Decoder :=
  match _ : d.decode with
  | (.ok (some v), d') => (d'.drain.1.after [v], d'.drain.2)
  | (.ok none, d') => ({}, d')
  | (.error fault, d') => ({ fault := some fault }, d')
termination_by d.buffered
decreasing_by all_goals exact decode_some_lt (by assumption)

/-- Decodes after each chunk until bytes are missing; a fault ends it all. -/
def drainChunks (d : Decoder) : List Bytes → Transcript
  | [] => {}
  | chunk :: rest =>
    match (d.extend chunk).drain with
    | (⟨frames, none⟩, d') => (d'.drainChunks rest).after frames
    | (t, _) => t

/-- A frame is found: what is found behind it comes behind it. -/
theorem drain_of_frame {d d' : Decoder} {v : Json} (h : d.decode = (.ok (some v), d')) :
    d.drain = (d'.drain.1.after [v], d'.drain.2) := by
  rw [drain]
  split <;> simp_all

theorem drain_of_missing {d d' : Decoder} (h : d.decode = (.ok none, d')) :
    d.drain = ({}, d') := by
  rw [drain]
  split <;> simp_all

theorem drain_of_fault {d d' : Decoder} {fault : Fault} (h : d.decode = (.error fault, d')) :
    d.drain = ({ fault := some fault }, d') := by
  rw [drain]
  split <;> simp_all

/-- Draining depends on the first call only. -/
theorem drain_congr {d e : Decoder} (h : d.decode = e.decode) : d.drain = e.drain := by
  rw [drain, h, drain]

/-- The frames behind the first are those of the decoder that it left. -/
theorem drain_of_frame_iff {d d₁ d' : Decoder} {v : Json} {frames : List Json}
    {fault : Option Fault} (h : d.decode = (.ok (some v), d₁)) :
    d.drain = (⟨frames, fault⟩, d') ↔ ∃ rest, frames = v :: rest ∧
      d₁.drain = (⟨rest, fault⟩, d') := by
  rw [drain_of_frame h]
  obtain ⟨⟨rest, fault₁⟩, last⟩ := d₁.drain
  simp only [Transcript.after, List.singleton_append, Prod.mk.injEq, Transcript.mk.injEq]
  constructor
  · rintro ⟨⟨rfl, rfl⟩, rfl⟩
    exact ⟨rest, rfl, ⟨rfl, rfl⟩, rfl⟩
  · rintro ⟨rest, rfl, ⟨rfl, rfl⟩, rfl⟩
    exact ⟨⟨rfl, rfl⟩, rfl⟩

/-- **Draining in two goes** is draining at once, as long as there is no fault in the first. -/
theorem drain_extend {d d' : Decoder} {frames : List Json} (h : d.drain = (⟨frames, none⟩, d'))
    (more : Bytes) :
    (d.extend more).drain = ((d'.extend more).drain.1.after frames, (d'.extend more).drain.2) := by
  induction d using drain.induct generalizing frames with
  | case1 d v d₁ hframe ih =>
    obtain ⟨rest, rfl, hrest⟩ := (drain_of_frame_iff hframe).mp h
    -- a frame stays a frame when more bytes come
    rw [drain_of_frame (decode_extend hframe (by simp) (not_tornBy_of_frame hframe more)), ih hrest]
    rfl
  | case2 d d₁ hmissing =>
    rw [drain_of_missing hmissing, Prod.mk.injEq] at h
    obtain ⟨hframes, rfl⟩ := h
    cases hframes
    rw [drain_congr (decode_extend_of_missing hmissing more)]
    rfl
  | case3 d fault d₁ hfault =>
    rw [drain_of_fault hfault, Prod.mk.injEq] at h
    cases h.1

/-- A fault stays the same when more bytes come, unless they tear a header block. -/
theorem drain_extend_of_fault {d d' : Decoder} {frames : List Json} {fault : Fault}
    (h : d.drain = (⟨frames, some fault⟩, d')) {more : Bytes}
    (htorn : fault = tooLarge → ¬ d'.TornBy more) :
    (d.extend more).drain = (⟨frames, some fault⟩, d'.extend more) := by
  induction d using drain.induct generalizing frames with
  | case1 d v d₁ hframe ih =>
    obtain ⟨rest, rfl, hrest⟩ := (drain_of_frame_iff hframe).mp h
    rw [drain_of_frame (decode_extend hframe (by simp) (not_tornBy_of_frame hframe more)), ih hrest]
    rfl
  | case2 d d₁ hmissing =>
    rw [drain_of_missing hmissing, Prod.mk.injEq] at h
    cases h.1
  | case3 d fault' d₁ hfault =>
    rw [drain_of_fault hfault, Prod.mk.injEq] at h
    obtain ⟨hframes, rfl⟩ := h
    cases hframes
    -- the fault is the decoder's own, so that a torn decoder would be torn here
    have htorn' : ¬ d.TornBy more := by
      intro hd
      rw [hd.decode, Prod.mk.injEq, Except.error.injEq] at hfault
      exact htorn hfault.1.symm (hfault.2 ▸ tornBy_skipLineBreaks.mpr hd)
    rw [drain_of_fault (decode_extend hfault (by simp) htorn')]

/-- The bytes that tear a header block would have led to something else. -/
theorem drain_extend_of_tornBy {d d' : Decoder} {frames : List Json}
    (h : d.drain = (⟨frames, some tooLarge⟩, d')) {more : Bytes} (htorn : d'.TornBy more) :
    (d.extend more).drain.1 ≠ ⟨frames, some tooLarge⟩ := by
  induction d using drain.induct generalizing frames with
  | case1 d v d₁ hframe ih =>
    obtain ⟨rest, rfl, hrest⟩ := (drain_of_frame_iff hframe).mp h
    rw [drain_of_frame (decode_extend hframe (by simp) (not_tornBy_of_frame hframe more))]
    intro heq
    simp only [Transcript.after, List.singleton_append, Transcript.mk.injEq, List.cons.injEq,
      true_and] at heq
    apply ih hrest
    rw [← heq.1, ← heq.2]
  | case2 d d₁ hmissing =>
    rw [drain_of_missing hmissing, Prod.mk.injEq] at h
    cases h.1
  | case3 d fault d₁ hfault =>
    rw [drain_of_fault hfault, Prod.mk.injEq] at h
    obtain ⟨hframes, rfl⟩ := h
    cases hframes
    -- the decoder that is left holds the block itself
    obtain ⟨-, rfl, -⟩ := decode_tooLarge hfault
    have hd := tornBy_skipLineBreaks.mp htorn
    intro heq
    rw [drain] at heq
    split at heq
    · cases heq
    · cases heq
    · rename_i d'' hdecode
      cases heq
      exact hd.decode_extend_ne _ hdecode

-- ---------------------------------------------------------------------------
-- Chunks
-- ---------------------------------------------------------------------------

/-- A cut tears the header block behind `frames` if the bytes before it lead to a decoder that those
behind it tear. -/
def TornAt (d : Decoder) (before after : Bytes) (frames : List Json) : Prop :=
  ∃ d', (d.extend before).drain = (⟨frames, some tooLarge⟩, d') ∧ d'.TornBy after

/-- A decoder that was drained without a fault misses bytes. -/
theorem decode_of_drained {d d' : Decoder} {frames : List Json}
    (h : d.drain = (⟨frames, none⟩, d')) :
    d'.decode = (.ok none, d') := by
  induction d using drain.induct generalizing frames with
  | case1 d v d₁ hframe ih =>
    obtain ⟨rest, -, hrest⟩ := (drain_of_frame_iff hframe).mp h
    exact ih hrest
  | case2 d d₁ hmissing =>
    rw [drain_of_missing hmissing, Prod.mk.injEq] at h
    obtain ⟨-, rfl⟩ := h
    simpa [hmissing] using decode_extend_of_missing hmissing []
  | case3 d fault d₁ hfault =>
    rw [drain_of_fault hfault, Prod.mk.injEq] at h
    cases h.1

/-- A decoder that misses bytes is not torn by a cut before all bytes. -/
theorem not_tornAt_nil {d : Decoder} (hd : d.decode = (.ok none, d)) (after : Bytes)
    (frames : List Json) : ¬ d.TornAt [] after frames := by
  rintro ⟨d', hdrain, -⟩
  rw [extend_nil, drain_of_missing hd] at hdrain
  cases hdrain

/-- Bytes drained without a fault may be left out when a torn header block is looked for. -/
theorem tornAt_append_iff {d d' : Decoder} {before : Bytes} {frames : List Json}
    (h : (d.extend before).drain = (⟨frames, none⟩, d')) (more after : Bytes) (all : List Json) :
    d.TornAt (before ++ more) after all ↔ ∃ rest, all = frames ++ rest ∧
      d'.TornAt more after rest := by
  unfold TornAt
  -- both sides drain the same bytes, one of them in two goes
  rw [← extend_extend, drain_extend h]
  obtain ⟨⟨rest, fault⟩, last⟩ := (d'.extend more).drain
  simp only [Transcript.after, Prod.mk.injEq, Transcript.mk.injEq]
  constructor
  · rintro ⟨_, ⟨⟨rfl, rfl⟩, rfl⟩, htorn⟩
    exact ⟨rest, rfl, last, ⟨⟨rfl, rfl⟩, rfl⟩, htorn⟩
  · rintro ⟨_, rfl, _, ⟨⟨rfl, rfl⟩, rfl⟩, htorn⟩
    exact ⟨_, ⟨⟨rfl, rfl⟩, rfl⟩, htorn⟩

/-- A decoder that is torn by the first of more bytes is torn by all of them. -/
theorem TornBy.append {d : Decoder} {more : Bytes} (h : d.TornBy more) (rest : Bytes) :
    d.TornBy (more ++ rest) := by
  obtain ⟨hwait, hmark, hlong, stop, hstop, hlater⟩ := h
  refine ⟨hwait, hmark, hlong, stop, hstop, ?_⟩
  rw [← List.append_assoc]
  exact endMark?_append hlater rest

/-- A decoder that gave up over a header block holds all of it. -/
theorem drain_tooLarge {d d' : Decoder} {frames : List Json}
    (h : d.drain = (⟨frames, some tooLarge⟩, d')) :
    d'.awaiting = .header ∧ maxHeaderBytes < d'.skipLineBreaks.buffered := by
  induction d using drain.induct generalizing frames with
  | case1 d v d₁ hframe ih =>
    obtain ⟨rest, -, hrest⟩ := (drain_of_frame_iff hframe).mp h
    exact ih hrest
  | case2 d d₁ hmissing =>
    rw [drain_of_missing hmissing, Prod.mk.injEq] at h
    cases h.1
  | case3 d fault d₁ hfault =>
    rw [drain_of_fault hfault, Prod.mk.injEq] at h
    obtain ⟨hframes, rfl⟩ := h
    cases hframes
    obtain ⟨hwait, rfl, hlong⟩ := decode_tooLarge hfault
    rw [skipLineBreaks_skipLineBreaks]
    exact ⟨hwait, hlong⟩

/-- A fault outlives all further bytes if it is no torn header block. -/
theorem drain_extend_eq_iff {d d' : Decoder} {frames : List Json} {fault : Fault}
    (h : d.drain = (⟨frames, some fault⟩, d')) (more : Bytes) :
    (d.extend more).drain.1 = ⟨frames, some fault⟩ ↔ ¬ (fault = tooLarge ∧ d'.TornBy more) := by
  constructor
  · rintro heq ⟨rfl, htorn⟩
    exact drain_extend_of_tornBy h htorn heq
  · intro hnot
    rw [drain_extend_of_fault h fun hfault htorn => hnot ⟨hfault, htorn⟩]

/-- A header block torn by a later cut is torn by the earlier one that led to the fault. -/
theorem tornBy_of_tornAt {d d' : Decoder} {before more after : Bytes} {frames all : List Json}
    {fault : Fault} (h : (d.extend before).drain = (⟨frames, some fault⟩, d'))
    (htorn : d.TornAt (before ++ more) after all) :
    fault = tooLarge ∧ d'.TornBy (more ++ after) := by
  by_cases hmore : fault = tooLarge ∧ d'.TornBy more
  · exact ⟨hmore.1, hmore.2.append after⟩
  · -- the later cut meets the same fault; the mark that it waits for comes behind both cuts
    obtain ⟨d₂, hdrain, -, hmark, -, stop, hstop, hlater⟩ := htorn
    rw [← extend_extend, drain_extend_of_fault h fun hfault ht => hmore ⟨hfault, ht⟩] at hdrain
    simp only [Prod.mk.injEq, Transcript.mk.injEq, Option.some.injEq] at hdrain
    obtain ⟨⟨-, rfl⟩, rfl⟩ := hdrain
    obtain ⟨hwait, hlong⟩ := drain_tooLarge h
    have hskip : (d'.extend more).skipLineBreaks = d'.skipLineBreaks.extend more := by
      apply skipLineBreaks_extend
      intro hnil
      simp [buffered, hnil] at hlong
    rw [hskip, extend_buffer] at hmark hlater
    refine ⟨rfl, hwait, endMark?_of_append_eq_none hmark, hlong, stop, hstop, ?_⟩
    rw [← List.append_assoc]
    exact hlater

/-- A cutting tears the header block behind `frames` if one of its cuts does. -/
def TornBehind (d : Decoder) (chunks : List Bytes) (frames : List Json) : Prop :=
  ∃ before after, chunks = before ++ after ∧ d.TornAt before.flatten after.flatten frames

/-- The first cut that matters is the one behind the first chunk. -/
theorem tornBehind_cons_iff {d : Decoder} (hd : d.decode = (.ok none, d)) {chunk : Bytes}
    {rest : List Bytes} {frames : List Json} :
    d.TornBehind (chunk :: rest) frames ↔
      ∃ before after, rest = before ++ after ∧
        d.TornAt (chunk ++ before.flatten) after.flatten frames := by
  constructor
  · rintro ⟨before, after, hsplit, htorn⟩
    -- a cut before all chunks tears nothing
    cases before with
    | nil => exact absurd htorn (not_tornAt_nil hd _ _)
    | cons first before =>
      obtain ⟨rfl, hrest⟩ := List.cons.inj hsplit
      exact ⟨before, after, hrest, htorn⟩
  · rintro ⟨before, after, rfl, htorn⟩
    exact ⟨chunk :: before, after, rfl, htorn⟩

/-- A first chunk without a fault may be left out. -/
theorem tornBehind_of_drained {d d' : Decoder} (hd : d.decode = (.ok none, d)) {chunk : Bytes}
    {rest : List Bytes} {frames all : List Json}
    (h : (d.extend chunk).drain = (⟨frames, none⟩, d')) :
    d.TornBehind (chunk :: rest) all ↔ ∃ tail, all = frames ++ tail ∧ d'.TornBehind rest tail := by
  rw [tornBehind_cons_iff hd]
  simp only [tornAt_append_iff h]
  constructor
  · rintro ⟨before, after, hsplit, tail, hall, htorn⟩
    exact ⟨tail, hall, before, after, hsplit, htorn⟩
  · rintro ⟨tail, hall, before, after, hsplit, htorn⟩
    exact ⟨before, after, hsplit, tail, hall, htorn⟩

/-- If the first chunk leads to a fault, a header block can only be torn by the cut behind it. -/
theorem tornBehind_of_fault {d d' : Decoder} (hd : d.decode = (.ok none, d)) {chunk : Bytes}
    {rest : List Bytes} {frames all : List Json} {fault : Fault}
    (h : (d.extend chunk).drain = (⟨frames, some fault⟩, d'))
    (htorn : d.TornBehind (chunk :: rest) all) :
    fault = tooLarge ∧ d'.TornBy rest.flatten ∧ d.TornBehind (chunk :: rest) frames := by
  obtain ⟨before, after, rfl, hat⟩ := (tornBehind_cons_iff hd).mp htorn
  obtain ⟨rfl, hby⟩ := tornBy_of_tornAt h hat
  rw [← List.flatten_append] at hby
  refine ⟨rfl, hby, (tornBehind_cons_iff hd).mpr ⟨[], before ++ after, rfl, d', ?_, hby⟩⟩
  rw [List.flatten_nil, List.append_nil]
  exact h

/-- **Draining chunk by chunk** comes to the same as draining all bytes at once exactly if no cut
between two chunks tears a header block. -/
theorem drainChunks_eq_iff {d : Decoder} (hd : d.decode = (.ok none, d)) (chunks : List Bytes) :
    d.drainChunks chunks = (d.extend chunks.flatten).drain.1 ↔
      ∀ frames, ¬ d.TornBehind chunks frames := by
  -- along the chunks; each one leaves a decoder that misses bytes, or ends it all with a fault
  induction chunks generalizing d with
  | nil =>
    simp only [drainChunks, List.flatten_nil, extend_nil, drain_of_missing hd, true_iff]
    rintro frames ⟨before, after, hsplit, htorn⟩
    obtain ⟨rfl, rfl⟩ := List.append_eq_nil_iff.mp hsplit.symm
    exact not_tornAt_nil hd _ _ htorn
  | cons chunk rest ih =>
    rw [drainChunks, List.flatten_cons, ← extend_extend]
    obtain ⟨⟨frames, fault⟩, d', hdrain⟩ : ∃ t d', (d.extend chunk).drain = (t, d') := ⟨_, _, rfl⟩
    rw [hdrain]
    cases fault with
    | none =>
      simp only [tornBehind_of_drained hd hdrain]
      rw [drain_extend hdrain, Transcript.after_inj, ih (decode_of_drained hdrain)]
      constructor
      · rintro hrest _ ⟨tail, -, htorn⟩
        exact hrest tail htorn
      · intro hall tail htorn
        exact hall _ ⟨tail, rfl, htorn⟩
    | some fault =>
      -- the fault is also that of all bytes exactly if the cut behind this chunk tears nothing
      rw [eq_comm, drain_extend_eq_iff hdrain]
      constructor
      · intro hnot all htorn
        obtain ⟨hfault, hby, -⟩ := tornBehind_of_fault hd hdrain htorn
        exact hnot ⟨hfault, hby⟩
      · rintro hcuts ⟨rfl, hby⟩
        refine hcuts frames ((tornBehind_cons_iff hd).mpr ⟨[], rest, rfl, d', ?_, hby⟩)
        rw [List.flatten_nil, List.append_nil]
        exact hdrain

/-- Frames that were drained stay drained. -/
theorem drain_frames_prefix (d : Decoder) (more : Bytes) :
    d.drain.1.frames <+: (d.extend more).drain.1.frames := by
  induction d using drain.induct with
  | case1 d v d₁ hframe ih =>
    rw [drain_of_frame hframe,
      drain_of_frame (decode_extend hframe (by simp) (not_tornBy_of_frame hframe more))]
    exact List.cons_prefix_cons.mpr ⟨rfl, ih⟩
  | case2 d d₁ hmissing =>
    rw [drain_of_missing hmissing]
    exact List.nil_prefix
  | case3 d fault d₁ hfault =>
    rw [drain_of_fault hfault]
    exact List.nil_prefix

/-- **A cutting that tears a header block** ends at the first one that it tears. -/
theorem drainChunks_of_tornBehind {d : Decoder} (hd : d.decode = (.ok none, d))
    {chunks : List Bytes} {frames : List Json} (htorn : d.TornBehind chunks frames)
    (hfirst : ∀ all, d.TornBehind chunks all → frames.length ≤ all.length) :
    d.drainChunks chunks = ⟨frames, some tooLarge⟩ := by
  induction chunks generalizing d frames with
  | nil =>
    obtain ⟨before, after, hsplit, hat⟩ := htorn
    obtain ⟨rfl, rfl⟩ := List.append_eq_nil_iff.mp hsplit.symm
    exact absurd hat (not_tornAt_nil hd _ _)
  | cons chunk rest ih =>
    obtain ⟨⟨fs, fault⟩, d', hdrain⟩ : ∃ t d', (d.extend chunk).drain = (t, d') := ⟨_, _, rfl⟩
    rw [drainChunks, hdrain]
    cases fault with
    | none =>
      -- what is torn is torn by a later cut, and is the first one there as well
      obtain ⟨tail, rfl, hrest⟩ := (tornBehind_of_drained hd hdrain).mp htorn
      have hleast : ∀ all, d'.TornBehind rest all → tail.length ≤ all.length := by
        intro all hall
        have hle := hfirst _ ((tornBehind_of_drained hd hdrain).mpr ⟨all, rfl, hall⟩)
        rw [List.length_append, List.length_append] at hle
        omega
      have hdone := ih (decode_of_drained hdrain) hrest hleast
      simp only [hdone]
      rfl
    | some fault =>
      obtain ⟨rfl, -, hfs⟩ := tornBehind_of_fault hd hdrain htorn
      obtain ⟨before, after, -, d₂, hat, -⟩ := (tornBehind_cons_iff hd).mp htorn
      have hfront := drain_frames_prefix (d.extend chunk) before.flatten
      rw [extend_extend, hat, hdrain] at hfront
      -- no other block was torn before, so that the fault is about this one
      have hsame : fs = frames :=
        hfront.eq_of_length (Nat.le_antisymm hfront.length_le (hfirst fs hfs))
      simp only [hsame]

end Decoder
end EditorLink.Framing
