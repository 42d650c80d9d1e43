import EditorLink.Proofs.Framing.Header
import Mathlib.Data.Nat.Find

/-!
# EditorLink — how a stream is cut

Two ways of cutting the same stream into chunks, and what a fresh decoder makes of each.

* `Tears`, `TearsFirst` — the header blocks that a cutting tears, and the first of them;
* `drainChunks_eq_whole_iff`, `drainChunks_of_tearsFirst` — what decoding comes to without one
  and with one;
* `drainChunks_eq_drainChunks_iff` — two cuttings come to the same exactly if the first block that
  they tear is the same, or neither tears any;
* `fullBlock` — a header block of the greatest size, which is accepted or not as the cuts fall.

The bytes of an end mark that has come in part are counted as bytes of the header block. This
matters for blocks of 8190 bytes and more alone, since three bytes of a mark are the most that come
without the rest.

A limit on the size of a block is meant without its end mark, and a decoder that has seen the mark
measures it so. The theorem is therefore about the exception: it says of all streams and all pairs of
cuttings whether the exception shows, and `drainChunks_fullBlock` is a pair in which it does, with one
cut behind the first byte of the mark and no other. A stream without blocks of that size is decoded
alike however it is cut, for which `drainChunks_short_frame` is an instance.
-/

namespace EditorLink.Framing

/-- A cutting *tears* the header block behind `n` frames if one of its cuts lies in the end mark of
the block and the bytes before the cut are too many. -/
def Tears (limit : Nat) (chunks : List Bytes) (n : Nat) : Prop :=
  ∃ before after frames, chunks = before ++ after ∧ frames.length = n ∧
    CutsEndMark limit before.flatten after.flatten frames

def TearsFirst (limit : Nat) (chunks : List Bytes) (n : Nat) : Prop :=
  Tears limit chunks n ∧ ∀ m < n, ¬ Tears limit chunks m

/-- Few bytes hold no header block that could be torn. -/
theorem not_tears_of_length_le {limit : Nat} {chunks : List Bytes}
    (h : chunks.flatten.length ≤ maxHeaderBytes) (n : Nat) : ¬ Tears limit chunks n := by
  rintro ⟨before, after, frames, rfl, -, row, breaks, block, part, rest, hbefore,
    -, -, -, -, -, -, -, hlong⟩
  rw [List.flatten_append, hbefore] at h
  simp only [List.length_append] at h
  omega

/-- A cutting has at most one block that it tears first. -/
theorem TearsFirst.eq_iff {limit n m : Nat} {chunks : List Bytes} (h : TearsFirst limit chunks n) :
    TearsFirst limit chunks m ↔ n = m := by
  constructor
  · intro hm
    rcases Nat.lt_trichotomy n m with hlt | heq | hgt
    · exact absurd h.1 (hm.2 n hlt)
    · exact heq
    · exact absurd hm.1 (h.2 m hgt)
  · rintro rfl
    exact h

/-- A cutting that tears header blocks tears a first one. -/
theorem exists_tearsFirst_or_not (limit : Nat) (chunks : List Bytes) :
    (∃ n, TearsFirst limit chunks n) ∨ ∀ n, ¬ Tears limit chunks n := by
  classical
  by_cases h : ∃ n, Tears limit chunks n
  · refine .inl ⟨Nat.find h, Nat.find_spec h, ?_⟩
    intro m hm
    exact Nat.find_min h hm
  · refine .inr ?_
    intro n hn
    exact h ⟨n, hn⟩

namespace Decoder

/-- A block that is torn, by the frames that are found before it. -/
theorem tears_iff {limit n : Nat} {chunks : List Bytes} :
    Tears limit chunks n ↔
      ∃ frames, frames.length = n ∧ (withLimit limit).TornBehind chunks frames := by
  constructor
  · rintro ⟨before, after, frames, hsplit, hlen, hcut⟩
    exact ⟨frames, hlen, before, after, hsplit, tornAt_withLimit_iff.mpr hcut⟩
  · rintro ⟨frames, hlen, before, after, hsplit, htorn⟩
    exact ⟨before, after, frames, hsplit, hlen, tornAt_withLimit_iff.mp htorn⟩

/-- All that a fresh decoder finds in a stream that comes in one piece. -/
def whole (limit : Nat) (bytes : Bytes) : Transcript := ((withLimit limit).extend bytes).drain.1

/-- Only cuttings that tear a header block make a difference. -/
theorem drainChunks_eq_whole_iff {limit : Nat} {chunks : List Bytes} :
    (withLimit limit).drainChunks chunks = whole limit chunks.flatten ↔
      ∀ n, ¬ Tears limit chunks n := by
  rw [whole, drainChunks_eq_iff (decode_withLimit limit)]
  constructor
  · intro h n htears
    obtain ⟨frames, -, htorn⟩ := tears_iff.mp htears
    exact h frames htorn
  · intro h frames htorn
    exact h frames.length (tears_iff.mpr ⟨frames, rfl, htorn⟩)

/-- A cutting that tears a header block ends at the first one: the frames before it are found, and
nothing behind it. -/
theorem drainChunks_of_tearsFirst {limit n : Nat} {chunks : List Bytes}
    (h : TearsFirst limit chunks n) :
    n ≤ (whole limit chunks.flatten).frames.length ∧
      (withLimit limit).drainChunks chunks =
        ⟨(whole limit chunks.flatten).frames.take n, some tooLarge⟩ := by
  obtain ⟨htears, hfirst⟩ := h
  obtain ⟨frames, rfl, htorn⟩ := tears_iff.mp htears
  have hleast : ∀ all, (withLimit limit).TornBehind chunks all → frames.length ≤ all.length := by
    intro all hall
    by_contra hlt
    exact hfirst all.length (Nat.lt_of_not_le hlt) (tears_iff.mpr ⟨all, rfl, hall⟩)
  -- the frames before the cut were drained from the first of the bytes
  have hfront : frames <+: (whole limit chunks.flatten).frames := by
    obtain ⟨before, after, rfl, d', hdrain, -⟩ := htorn
    have hpre := drain_frames_prefix ((withLimit limit).extend before.flatten) after.flatten
    rw [extend_extend, hdrain, ← List.flatten_append] at hpre
    exact hpre
  refine ⟨hfront.length_le, ?_⟩
  rw [drainChunks_of_tornBehind (decode_withLimit limit) htorn hleast,
    ← List.prefix_iff_eq_take.mp hfront]

/-- A cutting that tears a header block comes to something else than one that tears none. -/
theorem drainChunks_ne_of_tears {limit n : Nat} {chunks chunks' : List Bytes}
    (hsame : chunks.flatten = chunks'.flatten) (htears : Tears limit chunks n)
    (hnone : ∀ n, ¬ Tears limit chunks' n) :
    (withLimit limit).drainChunks chunks ≠ (withLimit limit).drainChunks chunks' := by
  intro heq
  rw [drainChunks_eq_whole_iff.mpr hnone, ← hsame] at heq
  exact drainChunks_eq_whole_iff.mp heq n htears

/-- **Two ways of cutting a stream** come to the same exactly if the first header block that they
tear is the same, or neither tears any. -/
theorem drainChunks_eq_drainChunks_iff {limit : Nat} {chunks chunks' : List Bytes}
    (hsame : chunks.flatten = chunks'.flatten) :
    (withLimit limit).drainChunks chunks = (withLimit limit).drainChunks chunks' ↔
      ∀ n, TearsFirst limit chunks n ↔ TearsFirst limit chunks' n := by
  rcases exists_tearsFirst_or_not limit chunks with ⟨n, hn⟩ | hnone <;>
    rcases exists_tearsFirst_or_not limit chunks' with ⟨n', hn'⟩ | hnone'
  · -- both end early, and the number of frames says where
    obtain ⟨hle, hdrain⟩ := drainChunks_of_tearsFirst hn
    obtain ⟨hle', hdrain'⟩ := drainChunks_of_tearsFirst hn'
    rw [← hsame] at hle' hdrain'
    rw [hdrain, hdrain', Transcript.mk.injEq]
    constructor
    · rintro ⟨htake, -⟩ m
      have hlen := congrArg List.length htake
      rw [List.length_take, List.length_take, Nat.min_eq_left hle, Nat.min_eq_left hle'] at hlen
      rw [hn.eq_iff, hn'.eq_iff, hlen]
    · intro hiff
      have hnn := hn'.eq_iff.mp ((hiff n).mp hn)
      exact ⟨by rw [hnn], rfl⟩
  · constructor
    · intro heq
      exact absurd heq (drainChunks_ne_of_tears hsame hn.1 hnone')
    · intro hiff
      exact absurd ((hiff n).mp hn).1 (hnone' n)
  · constructor
    · intro heq
      exact absurd heq.symm (drainChunks_ne_of_tears hsame.symm hn'.1 hnone)
    · intro hiff
      exact absurd ((hiff n').mpr hn').1 (hnone n')
  -- neither tears any block: both come to what the whole stream comes to
  · rw [drainChunks_eq_whole_iff.mpr hnone, drainChunks_eq_whole_iff.mpr hnone', hsame]
    simp only [true_iff]
    intro n
    constructor
    · intro hn
      exact absurd hn.1 (hnone n)
    · intro hn
      exact absurd hn.1 (hnone' n)

/-- A cut within the end mark of a short block does not matter. -/
theorem drainChunks_short_frame :
    (withLimit 2).drainChunks [lengthBlock [' '] 2 ++ [13, 10, 13], [10, 123, 125]] =
      (withLimit 2).drainChunks [lengthBlock [' '] 2 ++ [13, 10, 13, 10, 123, 125]] := by
  have hsame : [lengthBlock [' '] 2 ++ [13, 10, 13], [10, 123, 125]].flatten =
      [lengthBlock [' '] 2 ++ [13, 10, 13, 10, 123, 125]].flatten := by
    simp
  have hshort :
      [lengthBlock [' '] 2 ++ [13, 10, 13, 10, 123, 125]].flatten.length ≤ maxHeaderBytes := by
    simp [length_lengthBlock, maxHeaderBytes, Nat.toDigits_of_lt_base]
  refine (drainChunks_eq_drainChunks_iff hsame).mpr ?_
  intro n
  constructor
  · intro h
    exact absurd h.1 (not_tears_of_length_le (hsame ▸ hshort) n)
  · intro h
    exact absurd h.1 (not_tears_of_length_le hshort n)

-- ---------------------------------------------------------------------------
-- A header block of the greatest size
-- ---------------------------------------------------------------------------

/-- **Any cut in the end mark** that makes a header block too long keeps its frame from
being read. -/
theorem drainChunks_cut_mark {limit : Nat} {block body p r : Bytes} {v : Json}
    (hblock : IsBlock block) (haccept : Header.accept limit block = .ok body.length)
    (hbody : parseBody body = .ok v)
    (hmark : endMark = p ++ r) (hr : r ≠ []) (hshort : block.length ≤ maxHeaderBytes)
    (hlong : maxHeaderBytes < block.length + p.length) :
    (withLimit limit).drainChunks [block ++ p, r ++ body] = ⟨[], some tooLarge⟩ ∧
      (withLimit limit).drainChunks [block ++ (endMark ++ body)] = ⟨[v], none⟩ := by
  constructor
  · have htorn : ((withLimit limit).extend (block ++ p)).TornBy (r ++ body) :=
      tornBy_withLimit_iff.mpr ⟨[], block, p, r, rfl, by simp, hblock, hmark, hr,
        List.prefix_append r body, hshort, hlong⟩
    simp only [drainChunks, drain_of_fault htorn.decode]
  · -- in one piece the block with its body is a frame like any other
    have hsegment : Segment.Reads ⟨[], block, body⟩ limit v := ⟨by simp, hblock, haccept, hbody⟩
    have hdecode := decode_segment hsegment []
    rw [Segment.bytes, List.nil_append, List.append_nil, extend_nil] at hdecode
    simp only [drainChunks, drain_of_frame hdecode, drain_of_missing (decode_withLimit limit)]
    rfl

/-- A header block of 8192 bytes, most of them blanks before the length. -/
def fullBlock : Bytes := lengthBlock (List.replicate 8176 ' ') 2

theorem blank_of_mem_replicate : ∀ c ∈ List.replicate 8176 ' ', c = ' ' :=
  fun _ hc => List.eq_of_mem_replicate hc

theorem length_fullBlock : fullBlock.length = maxHeaderBytes := by
  rw [fullBlock, length_lengthBlock blank_of_mem_replicate, List.length_replicate,
    Nat.toDigits_of_lt_base (by decide)]
  rfl

/-- The full block holds no end mark and does not begin with a line break. -/
theorem isBlock_fullBlock : IsBlock fullBlock := isBlock_lengthBlock blank_of_mem_replicate 2

/-- With its end mark in sight it is accepted. -/
theorem accept_fullBlock : Header.accept 2 fullBlock = .ok 2 := by
  have hshort : (lengthBlock (List.replicate 8176 ' ') 2).length ≤ maxHeaderBytes := by
    rw [← fullBlock, length_fullBlock]
  rw [fullBlock]
  exact accept_lengthBlock blank_of_mem_replicate (by decide) (by decide) (by decide) hshort

/-- **The cut that matters**: in one piece the frame is read; cut behind the first byte of its end
mark the header block is refused, though it is no longer than is accepted. -/
theorem drainChunks_fullBlock :
    fullBlock.length ≤ maxHeaderBytes ∧
      [fullBlock ++ [13], [10, 13, 10, 123, 125]].flatten =
        [fullBlock ++ [13, 10, 13, 10, 123, 125]].flatten ∧
      (withLimit 2).drainChunks [fullBlock ++ [13], [10, 13, 10, 123, 125]] =
        ⟨[], some (.headerTooLarge 8192)⟩ ∧
      (withLimit 2).drainChunks [fullBlock ++ [13, 10, 13, 10, 123, 125]] = ⟨[.obj []], none⟩ := by
  have hread : Json.read [123, 125] = .ok (.obj []) := by cbv
  have hbody : parseBody [123, 125] = .ok (.obj []) := by rw [parseBody, hread]
  have hmark : endMark = [13] ++ [10, 13, 10] := rfl
  have hlong : maxHeaderBytes < fullBlock.length + [(13 : UInt8)].length := by
    rw [length_fullBlock]
    decide
  obtain ⟨hcut, hwhole⟩ := drainChunks_cut_mark isBlock_fullBlock accept_fullBlock hbody hmark
    (by simp) (Nat.le_of_eq length_fullBlock) hlong
  exact ⟨Nat.le_of_eq length_fullBlock, by simp, hcut, hwhole⟩

end Decoder
end EditorLink.Framing
