import EditorLink.Json.Reader
import EditorLink.Json.Writer
import EditorLink.Proofs.Decimal.Digits

/-!
# EditorLink — strings and integers, written and read

Strings are written between quotes, and the characters that may not stand there by escapes: seven by a letter, the
other control characters by four digits. The reader takes bytes and not characters, so that the bytes of a character
beyond ASCII go through it one by one as ordinary bytes; it is decoded as UTF-8 at the end of the string.

Integers are written by their digits, with a sign before them if they are negative. The reader gathers digits as
long as the number fits into 64 bits, which every integer that was written does. Where a point or an exponent follows
it would read a double; `Delimited` excludes it, since what is written puts a comma or a bracket there.

The lemmas say what is read from the bytes of one character or one number with anything behind it, so that they can be
used at any place in a text.

## Results

* `utf8_writeString` — a string is written one character at a time, between quotes;
* `readBytes_escaped` — what is written for a character is read as the character;
* `readString_write` — so for a string, whatever follows;
* `gather_digits` — digits are gathered into the number that they spell;
* `readNumber_natural`, `readNumber_negative` — an integer is read back, if nothing follows that could
  belong to a number.
-/

namespace EditorLink.Json

-- ---------------------------------------------------------------------------
-- Strings
-- ---------------------------------------------------------------------------

/-- What is written for the characters of a string. -/
def escapedBytes (cs : List Char) : Bytes := cs.flatMap fun c => Text.utf8 (escaped c)

/-- What was written for more characters stands behind what was written before. -/
theorem utf8_foldl_escaped (cs : List Char) (written : String) :
    Text.utf8 (cs.foldl (fun written c => written ++ escaped c) written) =
      Text.utf8 written ++ escapedBytes cs := by
  induction cs generalizing written with
  | nil => simp [escapedBytes]
  | cons c rest ih =>
    rw [List.foldl_cons, ih, Text.utf8_append, List.append_assoc]
    rfl

/-- A string is written one character at a time, between quotes. -/
theorem utf8_writeString (s : String) :
    Text.utf8 (writeString s) = 34 :: (escapedBytes s.toList ++ [34]) := by
  have hquote : Text.utf8 "\"" = [34] := rfl
  rw [writeString, Text.utf8_append, utf8_foldl_escaped, hquote, List.singleton_append,
    List.cons_append]

def isOrdinary (b : UInt8) : Bool := b != 34 && b != 92 && 32 ≤ b

/-- A byte is ordinary unless it is a quote, a backslash or below the blank. -/
theorem isOrdinary_of_toNat {b : UInt8} (hquote : b.toNat ≠ 34) (hslash : b.toNat ≠ 92)
    (hlow : 32 ≤ b.toNat) : isOrdinary b = true := by
  simp only [isOrdinary, Bool.and_eq_true, bne_iff_ne, ne_eq, decide_eq_true_eq]
  refine ⟨⟨?_, ?_⟩, ?_⟩
  · rintro rfl
    exact hquote rfl
  · rintro rfl
    exact hslash rfl
  · exact UInt8.le_iff_toNat_le.mpr hlow

/-- Ordinary bytes are read as they are. -/
theorem readBytes_ordinary {bytes : Bytes} (h : ∀ b ∈ bytes, isOrdinary b = true)
    (done rest : Bytes) :
    readBytes .plain done (bytes ++ rest) = readBytes .plain (bytes.reverse ++ done) rest := by
  induction bytes generalizing done with
  | nil => rfl
  | cons b bytes ih =>
    have hb := h b List.mem_cons_self
    simp only [isOrdinary, Bool.and_eq_true, bne_iff_ne, ne_eq, decide_eq_true_eq] at hb
    have hlow : ¬ b < 32 := UInt8.not_lt.mpr hb.2
    rw [List.cons_append, readBytes]
    simp only [beq_iff_eq, hb.1.1, hb.1.2, hlow, if_false]
    rw [ih fun c hc => h c (List.mem_cons_of_mem b hc), List.reverse_cons, List.append_assoc,
      List.singleton_append]

/-- A control character is written as four digits of base sixteen. -/
theorem readBytes_control {n : Nat} (h : n < 32) (done rest : Bytes) :
    readBytes .plain done
        (92 :: 117 :: 48 :: 48 :: UInt8.ofNat (hexDigit (n / 16)).toNat ::
          UInt8.ofNat (hexDigit (n % 16)).toNat :: rest) =
      readBytes .plain (UInt8.ofNat n :: done) rest := by
  -- there are few control characters: each table is checked as a whole
  have hhex : ∀ n < 32, hexNumber? [48, 48, UInt8.ofNat (hexDigit (n / 16)).toNat,
      UInt8.ofNat (hexDigit (n % 16)).toNat] = some n := by decide
  have hunit : ∀ n < 32, String.utf8EncodeChar (Char.ofNat n) = [UInt8.ofNat n] := by decide
  have hcode : codeUnit none n = .ok ([UInt8.ofNat n], .plain) := by
    simp only [codeUnit]
    rw [if_neg (by omega), if_neg (by omega), hunit n h]
  simp [readBytes, hhex n h, hcode]

/-- The characters that are written as a backslash and a letter. -/
def letterEscapes : List (Char × UInt8) :=
  [('"', 34), ('\\', 92), ('\n', 110), ('\r', 114), ('\t', 116), ('\x08', 98), ('\x0c', 102)]

/-- A backslash and a letter are read as the byte that they stand for. -/
theorem readBytes_letter {b e : UInt8} (h : escape? e = some b) (he : e ≠ 117) (done rest : Bytes) :
    readBytes .plain done (92 :: e :: rest) = readBytes .plain (b :: done) rest := by
  simp [readBytes, h, he]

/-- A control character without a letter is written by its number. -/
theorem escaped_of_control {c : Char} (hletter : c ∉ letterEscapes.map Prod.fst)
    (h : c.toNat < 32) :
    Text.utf8 (escaped c) = [92, 117, 48, 48, UInt8.ofNat (hexDigit (c.toNat / 16)).toNat,
      UInt8.ofNat (hexDigit (c.toNat % 16)).toNat] := by
  have hascii : ∀ n < 32, (hexDigit (n / 16)).toNat < 128 ∧ (hexDigit (n % 16)).toNat < 128 := by
    decide
  obtain ⟨h₁, h₂⟩ := hascii c.toNat h
  simp only [letterEscapes, List.map_cons, List.map_nil, List.mem_cons, List.not_mem_nil, not_or,
    or_false] at hletter
  simp only [escaped, beq_iff_eq, hletter, h, if_false, if_true]
  rw [Text.utf8_ofList_of_ascii]
  · rfl
  · simp only [List.mem_cons, List.not_mem_nil, or_false]
    rintro d (rfl | rfl | rfl | rfl | rfl | rfl)
    · decide
    · decide
    · decide
    · decide
    · exact h₁
    · exact h₂

/-- Any other character is written by its own bytes. -/
theorem escaped_of_ordinary {c : Char} (hletter : c ∉ letterEscapes.map Prod.fst)
    (h : 32 ≤ c.toNat) :
    Text.utf8 (escaped c) = String.utf8EncodeChar c := by
  simp only [letterEscapes, List.map_cons, List.map_nil, List.mem_cons, List.not_mem_nil, not_or,
    or_false] at hletter
  simp only [escaped, beq_iff_eq, hletter, Nat.not_lt.mpr h, if_false]
  rw [Text.utf8_eq_flatMap]
  simp

/-- What is written for a character is read as the character. -/
theorem readBytes_escaped (c : Char) (done rest : Bytes) :
    readBytes .plain done (Text.utf8 (escaped c) ++ rest) =
      readBytes .plain ((String.utf8EncodeChar c).reverse ++ done) rest := by
  by_cases hletter : c ∈ letterEscapes.map Prod.fst
  · obtain ⟨⟨_, e⟩, hmem, rfl⟩ := List.mem_map.mp hletter
    -- a letter stands for the character, and is read as the character
    have htable : ∀ p ∈ letterEscapes, Text.utf8 (escaped p.1) = [92, p.2] ∧ p.2 ≠ 117 ∧
        escape? p.2 = some (UInt8.ofNat p.1.toNat) ∧
        String.utf8EncodeChar p.1 = [UInt8.ofNat p.1.toNat] := by
      decide
    obtain ⟨hwritten, he, hread, hencode⟩ := htable _ hmem
    rw [hwritten, hencode]
    exact readBytes_letter hread he done rest
  · rcases Nat.lt_or_ge c.toNat 32 with hlow | hhigh
    · rw [escaped_of_control hletter hlow, Text.encodeChar_of_ascii (by omega)]
      exact readBytes_control hlow done rest
    · rw [escaped_of_ordinary hletter hhigh]
      apply readBytes_ordinary
      intro b hb
      rcases Nat.lt_or_ge c.toNat 128 with hascii | hlong
      · rw [Text.encodeChar_of_ascii hascii, List.mem_singleton] at hb
        have hb' : b.toNat = c.toNat := by
          rw [hb, UInt8.toNat_ofNat']
          omega
        -- the two characters of ASCII that are no ordinary bytes are written with a letter
        apply isOrdinary_of_toNat
        · intro hquote
          exact hletter
            (by rw [Char.toNat_inj.mp (hb'.symm.trans hquote : c.toNat = '"'.toNat)]; decide)
        · intro hslash
          exact hletter
            (by rw [Char.toNat_inj.mp (hb'.symm.trans hslash : c.toNat = '\\'.toNat)]; decide)
        · omega
      · have hbig := Text.le_of_mem_encodeChar hlong hb
        exact isOrdinary_of_toNat (by omega) (by omega) (by omega)

/-- The characters of a string are read up to the closing quote. -/
theorem readBytes_escapedBytes (cs : List Char) (done rest : Bytes) :
    readBytes .plain done (escapedBytes cs ++ 34 :: rest) =
      .ok (done.reverse ++ cs.flatMap String.utf8EncodeChar, rest) := by
  induction cs generalizing done with
  | nil => simp [escapedBytes, readBytes]
  | cons c cs ih =>
    rw [escapedBytes, List.flatMap_cons, List.append_assoc, readBytes_escaped, ← escapedBytes, ih]
    simp only [List.reverse_append, List.reverse_reverse, List.flatMap_cons, List.append_assoc]

/-- **A string** is read back, whatever follows. -/
theorem readString_write (s : String) (rest : Bytes) :
    readString (escapedBytes s.toList ++ 34 :: rest) = .ok (s, rest) := by
  rw [readString, readBytes_escapedBytes, List.reverse_nil, List.nil_append, ← Text.utf8_eq_flatMap]
  simp only [Text.decode?_utf8]

-- ---------------------------------------------------------------------------
-- Integers
-- ---------------------------------------------------------------------------

/-- A digit is one to the reader as well. -/
theorem isDigit_ofNat {c : Char} (h : c.isDigit = true) :
    isDigit (UInt8.ofNat c.toNat) = true ∧ (UInt8.ofNat c.toNat).toNat = c.toNat := by
  obtain ⟨hlo, hhi⟩ := Decimal.toNat_of_isDigit h
  have hnat : (UInt8.ofNat c.toNat).toNat = c.toNat := by
    rw [UInt8.toNat_ofNat']
    omega
  refine ⟨?_, hnat⟩
  simp only [isDigit, Bool.and_eq_true, decide_eq_true_eq, UInt8.le_iff_toNat_le, hnat]
  exact ⟨hlo, hhi⟩

/-- Digits are gathered into the number that they spell. -/
theorem gather_digits {limit n : Nat} {cs : List Char} {rest : Bytes}
    (hdigits : ∀ c ∈ cs, c.isDigit = true) (hlimit : Nat.ofDigitChars 10 cs n ≤ limit)
    (hrest : digitNext rest = false) (taken : Nat) :
    gather limit n taken ((cs.map fun c => UInt8.ofNat c.toNat) ++ rest) =
      (Nat.ofDigitChars 10 cs n, taken + cs.length, rest) := by
  -- along the digits; the number so far only grows, so that it never passes the limit
  induction cs generalizing n taken with
  | nil =>
    cases rest with
    | nil => simp [gather]
    | cons b rest =>
      have hb : isDigit b = false := hrest
      simp [gather, hb]
  | cons c cs ih =>
    obtain ⟨hdigit, hnat⟩ := isDigit_ofNat (hdigits c List.mem_cons_self)
    have hstep : n * 10 + ((UInt8.ofNat c.toNat).toNat - 48) = 10 * n + (c.toNat - '0'.toNat) := by
      rw [hnat, Nat.mul_comm]
      rfl
    rw [Nat.ofDigitChars_cons] at hlimit ⊢
    have hle := Nat.le_trans (Decimal.le_ofDigitChars cs _) hlimit
    rw [List.map_cons, List.cons_append, gather, hstep, hdigit, if_pos (by simpa using hle),
      ih (fun d hd => hdigits d (List.mem_cons_of_mem c hd)) hlimit, List.length_cons]
    congr 2
    omega

/-- The digits of an integer are read up to what is no digit. -/
theorem readNumber_repr {n : Nat} (h : n ≤ maxSignificand) {rest : Bytes}
    (hrest : digitNext rest = false) (negative : Bool) :
    readNumber negative (Text.utf8 n.repr ++ rest) = readTail negative n rest := by
  obtain ⟨c, cs, hdigits⟩ := List.exists_cons_of_ne_nil (Nat.toDigits_ne_nil (n := n) (b := 10))
  have hall : ∀ d ∈ c :: cs, d.isDigit = true := fun d hd =>
    Decimal.isDigit_of_mem_toDigits (n := n) (hdigits ▸ hd)
  obtain ⟨hdigit, hnat⟩ := isDigit_ofNat (hall c List.mem_cons_self)
  -- the first digit is the number to start from
  have hvalue : Nat.ofDigitChars 10 cs (c.toNat - 48) = n := by
    have hof := Nat.ofDigitChars_ten_toDigits (n := n)
    rw [hdigits, Nat.ofDigitChars_cons] at hof
    simpa using hof
  rw [Decimal.utf8_repr, hdigits, List.map_cons, List.cons_append, readNumber]
  dsimp only
  rcases Nat.eq_zero_or_pos n with rfl | hpos
  · -- zero is one digit
    rw [Nat.toDigits_zero] at hdigits
    obtain ⟨rfl, rfl⟩ := List.cons.inj hdigits
    simp [hrest]
  · -- a positive number has no leading zero
    have hzero : UInt8.ofNat c.toNat ≠ 48 := by
      intro heq
      rw [heq] at hnat
      exact Decimal.head_toDigits_ne_zero hpos hdigits (Char.toNat_inj.mp hnat.symm)
    have hgather := gather_digits (fun d hd => hall d (List.mem_cons_of_mem c hd))
      (Nat.le_trans (Nat.le_of_eq hvalue) h) hrest 0
    rw [hvalue] at hgather
    simp only [beq_iff_eq, hzero, if_false, hdigit, if_true, hnat, hgather, hrest]
    rfl

/-- What may follow a value inside a text: nothing, or a byte that ends the value. -/
def Delimited (rest : Bytes) : Prop := ∀ b ∈ rest.head?, b = 44 ∨ b = 93 ∨ b = 125

theorem Delimited.digitNext {rest : Bytes} (h : Delimited rest) : digitNext rest = false := by
  cases rest with
  | nil => rfl
  | cons b rest =>
    rcases h b rfl with rfl | rfl | rfl <;> rfl

/-- **A natural number** is read back. -/
theorem readNumber_natural {n : Nat} (h : n < UInt64.size) {rest : Bytes} (hrest : Delimited rest) :
    readNumber false (Text.utf8 n.repr ++ rest) = .ok (.int n, rest) := by
  rw [readNumber_repr (Nat.le_sub_one_of_lt h) hrest.digitNext]
  cases rest with
  | nil => rfl
  | cons b rest =>
    rcases hrest b rfl with rfl | rfl | rfl <;> rfl

/-- **A negative number** is read back behind its sign. -/
theorem readNumber_negative {n : Nat} (hpos : 0 < n) (h : n ≤ signedBound) {rest : Bytes}
    (hrest : Delimited rest) :
    readNumber true (Text.utf8 n.repr ++ rest) = .ok (.int (-n), rest) := by
  have hsize : n ≤ maxSignificand := Nat.le_trans h (by decide)
  rw [readNumber_repr hsize hrest.digitNext]
  cases rest with
  | nil => simp [readTail, hpos, h]
  | cons b rest =>
    rcases hrest b rfl with rfl | rfl | rfl <;> simp [readTail, hpos, h]

end EditorLink.Json
