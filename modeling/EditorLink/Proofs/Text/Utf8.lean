import EditorLink.Text.Utf8

/-!
# EditorLink — text as bytes and back

A text is kept as a `String` and goes over the wire as its bytes. What is needed of the two is that bytes of texts one
after the other are the bytes of the texts put together, that decoding is the way back, and that a byte below 128 is a
character of its own and no part of another.

Decoding a sequence of bytes that is no UTF-8 gives nothing. There is no replacement character in this direction; where
the project shows such bytes it has a function of its own for that.

## Results

* `utf8_append`, `utf8_eq_flatMap` — the bytes of a text are those of its characters, in order;
* `decode?_utf8` — decoding is the way back;
* `encodeChar_of_ascii`, `le_of_mem_encodeChar` — one byte below 128, or bytes from 128 on.
-/

namespace EditorLink.Text

-- ---------------------------------------------------------------------------
-- The bytes of a text
-- ---------------------------------------------------------------------------

/-- Texts one after the other. -/
@[simp] theorem utf8_append (s t : String) : utf8 (s ++ t) = utf8 s ++ utf8 t := by
  simp [utf8]

/-- The bytes of characters that are put together. -/
theorem utf8_ofList (cs : List Char) :
    utf8 (String.ofList cs) = cs.flatMap String.utf8EncodeChar := by
  simp [utf8, List.utf8Encode]

/-- **The bytes of a text** are those of its characters. -/
theorem utf8_eq_flatMap (s : String) : utf8 s = s.toList.flatMap String.utf8EncodeChar := by
  rw [← utf8_ofList, String.ofList_toList]

/-- Decoding the bytes of a text gives the text. -/
theorem decode?_utf8 (s : String) : decode? (utf8 s) = some s := by
  have hbytes : (⟨(utf8 s).toArray⟩ : ByteArray) = s.toByteArray := rfl
  unfold decode?
  rw [hbytes, String.fromUTF8?, dif_pos s.isValidUTF8]
  rfl

-- ---------------------------------------------------------------------------
-- The bytes of a character
-- ---------------------------------------------------------------------------

/-- A character of ASCII takes one byte. -/
theorem encodeChar_of_ascii {c : Char} (h : c.toNat < 128) :
    String.utf8EncodeChar c = [UInt8.ofNat c.toNat] := by
  have hle : c.val.toNat ≤ 127 := Nat.le_of_lt_succ h
  unfold String.utf8EncodeChar
  simp only [if_pos hle]
  rfl

/-- A text of such characters takes a byte for each. -/
theorem utf8_ofList_of_ascii {cs : List Char} (h : ∀ c ∈ cs, c.toNat < 128) :
    utf8 (String.ofList cs) = cs.map fun c => UInt8.ofNat c.toNat := by
  rw [utf8_ofList]
  induction cs with
  | nil => rfl
  | cons c rest ih =>
    rw [List.flatMap_cons, encodeChar_of_ascii (h c List.mem_cons_self),
      ih fun d hd => h d (List.mem_cons_of_mem c hd)]
    rfl

/-- The bytes of any other character lie beyond all of these. -/
theorem le_of_mem_encodeChar {c : Char} (h : 128 ≤ c.toNat) {b : UInt8}
    (hb : b ∈ String.utf8EncodeChar c) : 128 ≤ b.toNat := by
  have hlong : ¬ c.val.toNat ≤ 127 := Nat.not_le.mpr h
  unfold String.utf8EncodeChar at hb
  simp only [if_neg hlong] at hb
  generalize c.val.toNat = v at hb
  -- a lead byte is 192 and more, each that follows 128 and six bits
  split at hb
  · simp only [List.mem_cons, List.not_mem_nil, or_false] at hb
    rcases hb with rfl | rfl <;> simp only [UInt8.toNat_ofNat'] <;> omega
  · split at hb
    · simp only [List.mem_cons, List.not_mem_nil, or_false] at hb
      rcases hb with rfl | rfl | rfl <;> simp only [UInt8.toNat_ofNat'] <;> omega
    · simp only [List.mem_cons, List.not_mem_nil, or_false] at hb
      rcases hb with rfl | rfl | rfl | rfl <;> simp only [UInt8.toNat_ofNat'] <;> omega

end EditorLink.Text
