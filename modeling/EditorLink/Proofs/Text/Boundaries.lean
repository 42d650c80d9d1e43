import EditorLink.Proofs.Text.Utf8

/-!
# EditorLink — where characters start in bytes

Bytes that spell a text can be taken apart wherever a character starts, and the parts spell texts.

A character beyond ASCII is spelt by several bytes, and only the first of them can start a character. So a byte below
128 that stands somewhere in a text is a character of its own there, and what stands before it and behind it are texts.
This is what lets a reader that looks for a line end or a colon in bytes agree with one that looks for it in characters.

Where bytes spell no text nothing can be said of the characters in them; the lemmas here have `chars?` on both sides,
which is `none` on both if one part of the bytes is no text.

Small letters are made byte by byte as well. Bytes from 128 on are left alone, so that the letters of ASCII alone change
their case; the characters are changed in the same way.

## Results

* `chars?`, `spell` — characters from bytes and back;
* `exists_spell_of_first`, `prefix_of_spell` — what stands before the start of a character, and behind
  characters;
* `chars?_around` — bytes on both sides of some characters;
* `chars?_map_smallByte` — bytes whose letters are made small.
-/

namespace EditorLink.Text

/-- The characters that a byte list spells, if it is well-formed UTF-8. -/
def chars? (bytes : Bytes) : Option (List Char) := (decode? bytes).map String.toList

def spell (cs : List Char) : Bytes := utf8 (String.ofList cs)

-- ---------------------------------------------------------------------------
-- Spelling
-- ---------------------------------------------------------------------------

@[simp] theorem spell_nil : spell [] = [] := rfl

/-- Characters are spelt one after the other. -/
theorem spell_cons (c : Char) (cs : List Char) :
    spell (c :: cs) = String.utf8EncodeChar c ++ spell cs := by
  simp only [spell, utf8_ofList, List.flatMap_cons]

theorem spell_append (cs ds : List Char) : spell (cs ++ ds) = spell cs ++ spell ds := by
  simp only [spell, utf8_ofList, List.flatMap_append]

/-- What bytes are decoded to has these bytes. -/
theorem utf8_of_decode? {bytes : Bytes} {s : String} (h : decode? bytes = some s) :
    utf8 s = bytes := by
  rw [decode?, String.fromUTF8?] at h
  split at h
  · cases h
    rfl
  · cases h

/-- **Bytes are read as characters** exactly if the characters spell them. -/
theorem chars?_eq_some_iff {bytes : Bytes} {cs : List Char} :
    chars? bytes = some cs ↔ spell cs = bytes := by
  constructor
  · intro h
    obtain ⟨s, hs, rfl⟩ := Option.map_eq_some_iff.mp h
    rw [spell, String.ofList_toList, utf8_of_decode? hs]
  · rintro rfl
    rw [chars?, spell, decode?_utf8, Option.map_some, String.toList_ofList]

/-- What is spelt is read back. -/
@[simp] theorem chars?_spell (cs : List Char) : chars? (spell cs) = some cs :=
  chars?_eq_some_iff.mpr rfl

-- ---------------------------------------------------------------------------
-- Where a character starts
-- ---------------------------------------------------------------------------

/-- The bytes before a byte that starts a character are characters. -/
theorem exists_spell_of_first {ds : List Char} {front back : Bytes} {b : UInt8}
    (hb : b.IsUTF8FirstByte) (h : spell ds = front ++ b :: back) : ∃ cs, spell cs = front := by
  induction ds generalizing front with
  | nil => simp at h
  | cons d ds ih =>
    rw [spell_cons, List.append_eq_append_iff] at h
    rcases h with ⟨more, rfl, hmore⟩ | ⟨more, hd, hmore⟩
    · obtain ⟨cs, rfl⟩ := ih hmore
      exact ⟨d :: cs, spell_cons d cs⟩
    · cases more with
      | nil => exact ⟨[d], by rw [spell_cons, hd, spell_nil, List.append_nil, List.append_nil]⟩
      | cons x more =>
        -- among the bytes of one character only the first starts one
        obtain ⟨rfl, -⟩ := List.cons.inj hmore
        have hlt : front.length < (String.utf8EncodeChar d).length := by
          rw [hd, List.length_append, List.length_cons]
          omega
        have hat : (String.utf8EncodeChar d)[front.length] = b := by
          simp only [hd, List.getElem_append_right (Nat.le_refl _), Nat.sub_self,
            List.getElem_cons_zero]
        have hfirst := UInt8.isUTF8FirstByte_getElem_utf8EncodeChar.mp (hat.symm ▸ hb)
        exact ⟨[], (List.length_eq_zero_iff.mp hfirst).symm⟩

/-- Characters whose bytes stand in front are the first characters. -/
theorem prefix_of_spell {cs ds : List Char} {bytes : Bytes} (h : spell cs ++ bytes = spell ds) :
    cs <+: ds := by
  have hspell : ∀ es : List Char, es.utf8Encode = ⟨(spell es).toArray⟩ := fun _ => rfl
  refine List.isPrefix_of_utf8Encode_append_eq_utf8Encode ⟨bytes.toArray⟩ ?_
  rw [hspell, hspell, ← h]
  ext1
  simp

/-- The spelling of a character begins with a first byte. -/
theorem exists_cons_spell (c : Char) (cs : List Char) :
    ∃ b rest, spell (c :: cs) = b :: rest ∧ b.IsUTF8FirstByte := by
  obtain ⟨b, rest, hbytes⟩ :=
    List.exists_cons_of_ne_nil (String.utf8EncodeChar_ne_nil (c := c))
  have hfirst := UInt8.isUTF8FirstByte_getElem_zero_utf8EncodeChar (c := c)
  simp only [hbytes, List.getElem_cons_zero] at hfirst
  exact ⟨b, rest ++ spell cs, by rw [spell_cons, hbytes, List.cons_append], hfirst⟩

/-- **Characters between bytes** are found where they stand, and all of it is a text if the bytes on both
sides are texts. -/
theorem chars?_around (front back : Bytes) (c : Char) (cs : List Char) :
    chars? (front ++ (spell (c :: cs) ++ back)) =
      (chars? front).bind fun before =>
        (chars? back).map fun behind => before ++ (c :: cs ++ behind) := by
  ext ds
  simp only [Option.bind_eq_some_iff, Option.map_eq_some_iff, chars?_eq_some_iff]
  constructor
  · intro h
    -- the text is cut where the characters start, and then behind them
    obtain ⟨b, rest, hbytes, hb⟩ := exists_cons_spell c cs
    obtain ⟨before, rfl⟩ : ∃ before, spell before = front := by
      rw [hbytes, List.cons_append] at h
      exact exists_spell_of_first hb h
    obtain ⟨es, rfl⟩ := prefix_of_spell h.symm
    rw [spell_append] at h
    have hes := List.append_cancel_left h
    obtain ⟨behind, rfl⟩ := prefix_of_spell hes.symm
    rw [spell_append] at hes
    exact ⟨before, rfl, behind, List.append_cancel_left hes, rfl⟩
  · rintro ⟨before, rfl, behind, rfl, rfl⟩
    rw [spell_append, spell_append]

/-- Characters before some bytes are read apart from them. -/
theorem chars?_spell_append (cs : List Char) (bytes : Bytes) :
    chars? (spell cs ++ bytes) = (chars? bytes).map (cs ++ ·) := by
  cases cs with
  | nil => simp
  | cons c cs =>
    have haround := chars?_around [] bytes c cs
    rwa [List.nil_append, ← spell_nil, chars?_spell] at haround

theorem chars?_append_spell (bytes : Bytes) (cs : List Char) :
    chars? (bytes ++ spell cs) = (chars? bytes).map (· ++ cs) := by
  cases cs with
  | nil => simp
  | cons c cs =>
    have haround := chars?_around bytes [] c cs
    rw [List.append_nil, ← spell_nil, chars?_spell] at haround
    rw [haround]
    cases chars? bytes <;> simp

-- ---------------------------------------------------------------------------
-- Small letters
-- ---------------------------------------------------------------------------

/-- The byte of the small letter for that of a capital letter of ASCII. -/
def smallByte (b : UInt8) : UInt8 := if 65 ≤ b ∧ b ≤ 90 then b + 32 else b

/-- A byte that is a capital letter becomes the small one. -/
theorem toNat_smallByte (b : UInt8) :
    (smallByte b).toNat = if 65 ≤ b.toNat ∧ b.toNat ≤ 90 then b.toNat + 32 else b.toNat := by
  unfold smallByte
  simp only [UInt8.le_iff_toNat_le, UInt8.reduceToNat]
  split
  · simp only [UInt8.toNat_add, UInt8.reduceToNat]
    omega
  · rfl

/-- A byte from 128 on stays one. -/
theorem le_smallByte {b : UInt8} (h : 128 ≤ b.toNat) : 128 ≤ (smallByte b).toNat := by
  rw [toNat_smallByte]
  split <;> omega

/-- A character that is a capital letter of ASCII becomes the small one. -/
theorem toNat_toLower (c : Char) :
    c.toLower.toNat = if 65 ≤ c.toNat ∧ c.toNat ≤ 90 then c.toNat + 32 else c.toNat := by
  have hcapital : (c.val ≥ 'A'.val ∧ c.val ≤ 'Z'.val) ↔ 65 ≤ c.toNat ∧ c.toNat ≤ 90 := by
    simp [UInt32.le_iff_toNat_le]
  by_cases h : c.val ≥ 'A'.val ∧ c.val ≤ 'Z'.val
  · have hrange := hcapital.mp h
    have hlower : c.toLower.toNat = (c.val + ('a'.val - 'A'.val)).toNat :=
      congrArg Char.toNat (dif_pos h)
    rw [hlower, if_pos hrange, UInt32.toNat_add]
    exact Nat.mod_eq_of_lt (by simp; omega)
  · have hlower : c.toLower = c := dif_neg h
    rw [hlower, if_neg (mt hcapital.mpr h)]

/-- Any other character beyond ASCII stays as it is. -/
theorem toLower_of_le {c : Char} (h : 128 ≤ c.toNat) : c.toLower = c := by
  rw [← Char.toNat_inj, toNat_toLower, if_neg (by omega)]

/-- Bytes that are small and none of ASCII were not changed. -/
theorem map_smallByte_of_le {bytes : Bytes} (h : ∀ b ∈ bytes.map smallByte, 128 ≤ b.toNat) :
    bytes.map smallByte = bytes := by
  refine (List.map_congr_left fun b hb => ?_).trans (List.map_id bytes)
  have hle := h _ (List.mem_map_of_mem hb)
  rw [toNat_smallByte] at hle
  rw [id, ← UInt8.toNat_inj, toNat_smallByte, if_neg]
  split at hle <;> omega

/-- The small letter is spelled by the small bytes. -/
theorem encodeChar_toLower (c : Char) :
    String.utf8EncodeChar c.toLower = (String.utf8EncodeChar c).map smallByte := by
  rcases Nat.lt_or_ge c.toNat 128 with hlt | hge
  · have hlower := toNat_toLower c
    have hlt' : c.toLower.toNat < 128 := by
      rw [hlower]
      split <;> omega
    rw [encodeChar_of_ascii hlt, encodeChar_of_ascii hlt', List.map_singleton, List.singleton_inj,
      ← UInt8.toNat_inj, toNat_smallByte]
    simp only [UInt8.toNat_ofNat']
    split <;> split at hlower <;> omega
  · rw [toLower_of_le hge]
    refine (map_smallByte_of_le fun b hb => ?_).symm
    obtain ⟨a, ha, rfl⟩ := List.mem_map.mp hb
    exact le_smallByte (le_of_mem_encodeChar hge ha)

/-- Letters can be made small before they are spelt or behind that. -/
theorem spell_map_toLower (cs : List Char) :
    spell (cs.map Char.toLower) = (spell cs).map smallByte := by
  induction cs with
  | nil => rfl
  | cons c cs ih => rw [List.map_cons, spell_cons, spell_cons, List.map_append, ih, encodeChar_toLower]

/-- Bytes that spell a character when their letters are small spell one as they are. -/
theorem exists_char_of_small {bytes : Bytes} {d : Char}
    (h : bytes.map smallByte = String.utf8EncodeChar d) :
    ∃ c, String.utf8EncodeChar c = bytes ∧ c.toLower = d := by
  rcases Nat.lt_or_ge d.toNat 128 with hlt | hge
  · rw [encodeChar_of_ascii hlt] at h
    obtain ⟨b, rfl, hb⟩ := List.map_eq_singleton_iff.mp h
    have hnat := congrArg UInt8.toNat hb
    rw [toNat_smallByte, UInt8.toNat_ofNat'] at hnat
    have hsmall : b.toNat < 128 := by
      split at hnat <;> omega
    have hchar : (Char.ofUInt8 b).toNat = b.toNat := rfl
    refine ⟨Char.ofUInt8 b, ?_, ?_⟩
    · rw [encodeChar_of_ascii (by omega), hchar, UInt8.ofNat_toNat]
    · rw [← Char.toNat_inj, toNat_toLower, hchar]
      omega
  · have hbytes : bytes.map smallByte = bytes := by
      refine map_smallByte_of_le fun b hb => ?_
      rw [h] at hb
      exact le_of_mem_encodeChar hge hb
    exact ⟨d, by rw [← h, hbytes], toLower_of_le hge⟩

/-- **Small letters** are those of the text, and bytes are a text if they are one when their letters are
small. -/
theorem chars?_map_smallByte (bytes : Bytes) :
    chars? (bytes.map smallByte) = (chars? bytes).map (List.map Char.toLower) := by
  ext ds
  simp only [Option.map_eq_some_iff, chars?_eq_some_iff]
  constructor
  · intro h
    induction ds generalizing bytes with
    | nil =>
      obtain rfl := List.map_eq_nil_iff.mp h.symm
      exact ⟨[], rfl, rfl⟩
    | cons d ds ih =>
      rw [spell_cons, eq_comm, List.map_eq_append_iff] at h
      obtain ⟨front, back, rfl, hfront, hback⟩ := h
      obtain ⟨c, rfl, rfl⟩ := exists_char_of_small hfront
      obtain ⟨cs, rfl, rfl⟩ := ih back hback.symm
      exact ⟨c :: cs, spell_cons c cs, rfl⟩
  · rintro ⟨cs, rfl, rfl⟩
    exact spell_map_toLower cs

end EditorLink.Text
