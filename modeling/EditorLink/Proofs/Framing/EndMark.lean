import EditorLink.Framing.Decoder
import Mathlib.Data.Nat.Find

/-!
# EditorLink — end marks and line breaks

A decoder looks for the first end mark of a header block in the bytes that have come so far. This
module says where it finds one, and what more bytes change about that.

The search goes byte by byte and keeps the index, so that its lemmas are by induction on the bytes and
for any index to begin with. What is wanted of it is one equivalence: the place that is found is the
first at which a mark stands (`endMark?_eq_some_iff`). The rest is derived from that and from where a
mark can stand in an append, without looking at the search again.

A mark has four bytes, of which up to three may have come. Whether those are counted with the block is
a matter of the decoder and not of the search, which finds nothing in them.

## Results

* `endMark?_eq_some_iff` — the place found is the first at which an end mark stands;
* `endMark?_append` — a mark that was found stays where it is;
* `endMark?_append_of_none` — a mark that comes later ends behind the bytes at hand;
* `dropLineBreaks_append` — line breaks dropped early are not missed later.
-/

namespace EditorLink.Framing

def endMark : Bytes := [13, 10, 13, 10]

/-- An end mark stands at place `n`. -/
def MarkAt (bytes : Bytes) (n : Nat) : Prop := endMark <+: bytes.drop n

-- ---------------------------------------------------------------------------
-- Places of end marks
-- ---------------------------------------------------------------------------

theorem not_markAt_nil (n : Nat) : ¬ MarkAt [] n := by
  simp [MarkAt, endMark]

/-- A mark lies wholly within the bytes. -/
theorem MarkAt.add_four_le {bytes : Bytes} {n : Nat} (h : MarkAt bytes n) :
    n + 4 ≤ bytes.length := by
  have hlen := h.length_le
  simp only [endMark, List.length_cons, List.length_nil, List.length_drop] at hlen
  omega

/-- More bytes behind a mark do not move it. -/
theorem MarkAt.append {bytes : Bytes} {n : Nat} (h : MarkAt bytes n) (more : Bytes) :
    MarkAt (bytes ++ more) n := by
  have hlen := h.add_four_le
  unfold MarkAt at *
  rw [List.drop_append_of_le_length (by omega)]
  exact h.trans (List.prefix_append _ _)

/-- More bytes put no end mark among those that were there. -/
theorem MarkAt.of_append {bytes more : Bytes} {n : Nat} (h : MarkAt (bytes ++ more) n)
    (hle : n + 4 ≤ bytes.length) : MarkAt bytes n := by
  unfold MarkAt at *
  -- the four bytes of the mark are all among the first ones
  rw [List.drop_append_of_le_length (by omega)] at h
  refine List.prefix_of_prefix_length_le h (List.prefix_append _ _) ?_
  simp only [endMark, List.length_cons, List.length_nil, List.length_drop]
  omega

theorem endMarkFrom_of_mark {bytes : Bytes} (h : MarkAt bytes 0) (index : Nat) :
    endMarkFrom index bytes = some index := by
  obtain ⟨rest, hrest⟩ := h
  rw [List.drop_zero] at hrest
  rw [← hrest]
  rfl

/-- Else the search goes on with the next byte. -/
theorem endMarkFrom_cons {b : UInt8} {rest : Bytes} (h : ¬ MarkAt (b :: rest) 0) (index : Nat) :
    endMarkFrom index (b :: rest) = endMarkFrom (index + 1) rest := by
  rw [endMarkFrom]
  intro tail hb hrest
  exact h ⟨tail, by rw [hb, hrest]; rfl⟩

/-- The search from `index` finds the first end mark. -/
theorem endMarkFrom_eq_some_iff {bytes : Bytes} {index n : Nat} :
    endMarkFrom index bytes = some n ↔
      ∃ k, n = index + k ∧ MarkAt bytes k ∧ ∀ m < k, ¬ MarkAt bytes m := by
  -- along the search, which goes on with the next byte and the next index
  induction bytes generalizing index with
  | nil => simp [endMarkFrom, not_markAt_nil]
  | cons b rest ih =>
    by_cases h : MarkAt (b :: rest) 0
    · rw [endMarkFrom_of_mark h, Option.some.injEq]
      -- no mark at the front: places are counted from the next byte
      constructor
      · rintro rfl
        exact ⟨0, rfl, h, by omega⟩
      -- a mark at the front is the first one, wherever others are
      · rintro ⟨k, rfl, -, hfirst⟩
        cases k with
        | zero => rfl
        | succ k => exact absurd h (hfirst 0 (by omega))
    · rw [endMarkFrom_cons h, ih]
      constructor
      · rintro ⟨k, rfl, hk, hfirst⟩
        refine ⟨k + 1, by omega, hk, ?_⟩
        intro m hm
        cases m with
        | zero => exact h
        | succ m => exact hfirst m (by omega)
      · rintro ⟨k, rfl, hk, hfirst⟩
        cases k with
        | zero => exact absurd hk h
        | succ k => exact ⟨k, by omega, hk, fun m hm => hfirst (m + 1) (by omega)⟩

/-- **The first mark** is found, and nothing else. -/
theorem endMark?_eq_some_iff {bytes : Bytes} {n : Nat} :
    endMark? bytes = some n ↔ MarkAt bytes n ∧ ∀ m < n, ¬ MarkAt bytes m := by
  unfold endMark?
  rw [endMarkFrom_eq_some_iff]
  constructor
  · rintro ⟨k, rfl, h⟩
    rwa [Nat.zero_add]
  · intro h
    exact ⟨n, by omega, h⟩

/-- None is found only if there is none. -/
theorem endMark?_eq_none_iff {bytes : Bytes} : endMark? bytes = none ↔ ∀ n, ¬ MarkAt bytes n := by
  constructor
  · intro h n hn
    -- the least place with a mark would have been found
    classical
    have hex : ∃ n, MarkAt bytes n := ⟨n, hn⟩
    have hfind : endMark? bytes = some (Nat.find hex) :=
      endMark?_eq_some_iff.mpr ⟨Nat.find_spec hex, fun m hm => Nat.find_min hex hm⟩
    rw [h] at hfind
    cases hfind
  · intro h
    cases hfind : endMark? bytes with
    | none => rfl
    | some n => exact absurd (endMark?_eq_some_iff.mp hfind).1 (h n)

-- ---------------------------------------------------------------------------
-- More bytes
-- ---------------------------------------------------------------------------

/-- A mark that was found stays where it is. -/
theorem endMark?_append {bytes : Bytes} {n : Nat} (h : endMark? bytes = some n) (more : Bytes) :
    endMark? (bytes ++ more) = some n := by
  rw [endMark?_eq_some_iff] at h ⊢
  have hle := h.1.add_four_le
  refine ⟨h.1.append more, ?_⟩
  intro m hm hat
  exact h.2 m hm (hat.of_append (by omega))

/-- A mark that comes later ends behind the bytes at hand. -/
theorem endMark?_append_of_none {bytes more : Bytes} {n : Nat} (h : endMark? bytes = none)
    (hlater : endMark? (bytes ++ more) = some n) : bytes.length < n + 4 := by
  by_contra hge
  have hat := (endMark?_eq_some_iff.mp hlater).1
  exact endMark?_eq_none_iff.mp h n (hat.of_append (by omega))

/-- No mark among all bytes, none among the first of them. -/
theorem endMark?_of_append_eq_none {bytes more : Bytes} (h : endMark? (bytes ++ more) = none) :
    endMark? bytes = none := by
  cases hfind : endMark? bytes with
  | none => rfl
  | some n => rw [endMark?_append hfind more] at h; cases h

-- ---------------------------------------------------------------------------
-- Line breaks
-- ---------------------------------------------------------------------------

/-- Line breaks dropped from the bytes at hand are not missed when more bytes have come. -/
theorem dropLineBreaks_append (bytes more : Bytes) :
    (bytes.dropWhile isLineBreak ++ more).dropWhile isLineBreak =
      (bytes ++ more).dropWhile isLineBreak := by
  induction bytes with
  | nil => rfl
  | cons b rest ih =>
    by_cases hb : isLineBreak b = true
    · simpa [List.dropWhile_cons, hb] using ih
    · simp [hb]

/-- Behind the line breaks comes a byte that is none. -/
theorem dropLineBreaks_append_of_ne_nil {bytes : Bytes} (h : bytes.dropWhile isLineBreak ≠ [])
    (more : Bytes) :
    (bytes ++ more).dropWhile isLineBreak = bytes.dropWhile isLineBreak ++ more := by
  rw [List.dropWhile_append, if_neg (by simpa using h)]

end EditorLink.Framing
