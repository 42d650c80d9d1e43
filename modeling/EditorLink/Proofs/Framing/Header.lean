import EditorLink.Framing.Encoder
import EditorLink.Proofs.Decimal.Digits
import EditorLink.Proofs.Framing.Segments

/-!
# EditorLink — header blocks of one line

The header block that is written with each message, and others like it: a single line with a length,
blanks before its digits. It is the one kind of block that the project writes itself, and with many blanks it is also
the kind that shows what happens at the greatest size.

A line of this kind is taken apart again by the reader: the name stands before the colon, the blanks are dropped, and
the digits spell the length. So the block gives the length that was written, as long as that is positive and has at
most 64 bits. No claim is made about blocks of several lines, which are the subject of
`EditorLink.Proofs.Framing.Spellings`.

## Results

* `lengthLine`, `lengthOf_lengthLine` — such a line, and the length that it gives;
* `isBlock_lengthBlock` — it is a header block;
* `headerOf_eq` — the header that is written is such a block with its end mark;
* `length_encode_pos` — no frame is empty.
-/

namespace EditorLink

theorem Text.isBlank_of_isDigit {c : Char} (h : c.isDigit = true) : Text.isBlank c = false := by
  have hrange := Decimal.toNat_of_isDigit h
  simp [Text.isBlank, Text.blankRanges]
  omega

-- ---------------------------------------------------------------------------
-- Blanks at the ends
-- ---------------------------------------------------------------------------

/-- A text that starts and ends with no blank. -/
structure Text.Trimmed (core : List Char) : Prop where
  first : ∃ c rest, core = c :: rest ∧ Text.isBlank c = false
  last : ∃ rest c, core = rest ++ [c] ∧ Text.isBlank c = false

/-- Of such a text with blanks before it the text is left. -/
theorem Text.trim_append {blanks core : List Char} (hblanks : ∀ c ∈ blanks, Text.isBlank c = true)
    (h : Text.Trimmed core) : Text.trim (blanks ++ core) = core := by
  have hfront : core.dropWhile Text.isBlank = core := by
    obtain ⟨c, rest, rfl, hc⟩ := h.first
    rw [List.dropWhile_cons_of_neg (by simp [hc])]
  have hback : core.reverse.dropWhile Text.isBlank = core.reverse := by
    obtain ⟨rest, c, rfl, hc⟩ := h.last
    rw [List.reverse_append, List.reverse_singleton, List.singleton_append,
      List.dropWhile_cons_of_neg (by simp [hc])]
  rw [Text.trim, List.dropWhile_append_of_pos hblanks, hfront, hback, List.reverse_reverse]

/-- Where no blank is at either end none is dropped. -/
theorem Text.trim_of_trimmed {core : List Char} (h : Text.Trimmed core) :
    Text.trim core = core := by
  have hnone : ∀ c ∈ ([] : List Char), Text.isBlank c = true := by simp
  exact Text.trim_append hnone h

theorem Text.trimmed_toDigits (n : Nat) : Text.Trimmed (Nat.toDigits 10 n) := by
  have hdigit : ∀ c ∈ Nat.toDigits 10 n, Text.isBlank c = false := fun c hc =>
    Text.isBlank_of_isDigit (Decimal.isDigit_of_mem_toDigits hc)
  constructor
  · obtain ⟨c, rest, heq⟩ := List.exists_cons_of_ne_nil (Nat.toDigits_ne_nil (n := n) (b := 10))
    exact ⟨c, rest, heq, hdigit c (by rw [heq]; exact List.mem_cons_self)⟩
  · have hlast := List.dropLast_concat_getLast (Nat.toDigits_ne_nil (n := n) (b := 10))
    exact ⟨_, _, hlast.symm, hdigit _ (List.getLast_mem _)⟩

namespace Framing

-- ---------------------------------------------------------------------------
-- One line
-- ---------------------------------------------------------------------------

def writtenName : List Char := "Content-Length".toList

def lengthLine (blanks digits : List Char) : List Char := writtenName ++ ':' :: (blanks ++ digits)

namespace Header

/-- A text without carriage returns is one line. -/
theorem splitLines_of_not_mem {line : List Char} (h : '\r' ∉ line) : splitLines line = [line] := by
  induction line with
  | nil => rfl
  | cons c rest ih =>
    rw [List.mem_cons, not_or] at h
    obtain ⟨hc, hrest⟩ := h
    rw [splitLines, ih hrest]
    intro tail heq
    exact absurd heq.symm hc

/-- A name without a colon ends at the first. -/
theorem splitColon_append {name : List Char} (h : ':' ∉ name) (value : List Char) :
    splitColon (name ++ ':' :: value) = some (name, value) := by
  induction name with
  | nil => rfl
  | cons c rest ih =>
    rw [List.mem_cons, not_or] at h
    obtain ⟨hc, hrest⟩ := h
    simp [splitColon, Ne.symm hc, ih hrest]

/-- The digits of a number of 64 bits are a length. -/
theorem length?_toDigits {n : Nat} (h : n < UInt64.size) :
    length? (Nat.toDigits 10 n) = some n := by
  -- digits start with no sign
  have hplus : Decimal.dropPlus (Nat.toDigits 10 n) = Nat.toDigits 10 n := by
    rw [Decimal.dropPlus]
    intro rest heq
    have hdigit : '+'.isDigit = true :=
      Decimal.isDigit_of_mem_toDigits (n := n) (by rw [heq]; exact List.mem_cons_self)
    cases hdigit
  rw [length?, Decimal.unsigned?, hplus, Decimal.natural?_toDigits]
  simp [h]

/-- A line with a length, blanks before the digits. -/
theorem trimmed_lengthLine (blanks : List Char) (n : Nat) :
    Text.Trimmed (lengthLine blanks (Nat.toDigits 10 n)) := by
  constructor
  · have hname : writtenName = 'C' :: "ontent-Length".toList := rfl
    refine ⟨'C', "ontent-Length".toList ++ ':' :: (blanks ++ Nat.toDigits 10 n), ?_, by decide⟩
    simp only [lengthLine, hname, List.cons_append]
  · obtain ⟨rest, c, heq, hc⟩ := (Text.trimmed_toDigits n).last
    refine ⟨writtenName ++ ':' :: (blanks ++ rest), c, ?_, hc⟩
    simp only [lengthLine, heq, List.append_assoc, List.cons_append]

/-- The text of the length is its digits, however many blanks stand before them. -/
theorem lengthText?_lengthLine {blanks : List Char} (hblanks : ∀ c ∈ blanks, c = ' ') (n : Nat) :
    lengthText? (lengthLine blanks (Nat.toDigits 10 n)) = some (Nat.toDigits 10 n) := by
  have hsplit : splitColon (lengthLine blanks (Nat.toDigits 10 n)) =
      some (writtenName, blanks ++ Nat.toDigits 10 n) := splitColon_append (by decide) _
  have hvalue : Text.trim (blanks ++ Nat.toDigits 10 n) = Nat.toDigits 10 n := by
    refine Text.trim_append ?_ (Text.trimmed_toDigits n)
    intro c hc
    rw [hblanks c hc]
    decide
  have hname : (Text.trim writtenName).map Char.toLower = lengthName := rfl
  rw [lengthText?, hsplit]
  simp only [hname, beq_self_eq_true, if_true, hvalue]

/-- Nothing on the line is a control character. -/
theorem printable_lengthLine {blanks : List Char} (hblanks : ∀ c ∈ blanks, c = ' ') (n : Nat) :
    ∀ c ∈ lengthLine blanks (Nat.toDigits 10 n), 32 ≤ c.toNat ∧ c.toNat < 128 := by
  have hall : writtenName.all (fun c => 32 ≤ c.toNat ∧ c.toNat < 128) = true := rfl
  have hname : ∀ c ∈ writtenName, 32 ≤ c.toNat ∧ c.toNat < 128 := fun c hc =>
    of_decide_eq_true (List.all_eq_true.mp hall c hc)
  intro c hc
  rw [lengthLine, List.mem_append, List.mem_cons, List.mem_append] at hc
  rcases hc with hc | rfl | hc | hc
  · exact hname c hc
  · decide
  · rw [hblanks c hc]
    decide
  · have hrange := Decimal.toNat_of_isDigit (Decimal.isDigit_of_mem_toDigits hc)
    omega

/-- The length on a line, blanks and the digits of a number behind its colon. -/
theorem lengthOf_lengthLine {blanks : List Char} (hblanks : ∀ c ∈ blanks, c = ' ') {n : Nat}
    (hpos : 0 < n) (hsize : n < UInt64.size) :
    lengthOf (Text.utf8 (String.ofList (lengthLine blanks (Nat.toDigits 10 n)))) = .ok n := by
  have hreturn : '\r' ∉ lengthLine blanks (Nat.toDigits 10 n) := by
    intro hmem
    exact absurd (printable_lengthLine hblanks n _ hmem).1 (by decide)
  -- the line is one line, and trimming leaves it as it is
  have hlines : lines (lengthLine blanks (Nat.toDigits 10 n)) =
      [lengthLine blanks (Nat.toDigits 10 n)] := by
    rw [lines, splitLines_of_not_mem hreturn,
      List.map_singleton, Text.trim_of_trimmed (trimmed_lengthLine blanks n)]
  obtain ⟨k, rfl⟩ := Nat.exists_eq_succ_of_ne_zero (Nat.ne_of_gt hpos)
  rw [lengthOf, Text.decode?_utf8]
  simp only [String.toList_ofList, hlines, scan, lengthText?_lengthLine hblanks,
    length?_toDigits hsize]

end Header

-- ---------------------------------------------------------------------------
-- As bytes
-- ---------------------------------------------------------------------------

/-- Bytes without line breaks are a header block. -/
theorem isBlock_of_no_breaks {block : Bytes} (hne : block ≠ [])
    (h : ∀ b ∈ block, isLineBreak b = false) : IsBlock block := by
  constructor
  · obtain ⟨b, rest, rfl⟩ := List.exists_cons_of_ne_nil hne
    exact ⟨b, rest, rfl, h b List.mem_cons_self⟩
  · rw [endMark?_eq_some_iff]
    refine ⟨⟨[], by rw [List.append_nil, List.drop_left]⟩, ?_⟩
    intro m hm hat
    -- a mark further in front would start with a byte of the block
    obtain ⟨tail, htail⟩ := hat
    rw [List.drop_append_of_le_length (Nat.le_of_lt hm), List.drop_eq_getElem_cons hm] at htail
    have hb := h block[m] (List.getElem_mem hm)
    rw [← (List.cons.inj htail).1] at hb
    cases hb

def lengthBlock (blanks : List Char) (n : Nat) : Bytes :=
  Text.utf8 (String.ofList (lengthLine blanks (Nat.toDigits 10 n)))

/-- The block has one byte for each character. -/
theorem lengthBlock_eq_map {blanks : List Char} (hblanks : ∀ c ∈ blanks, c = ' ') (n : Nat) :
    lengthBlock blanks n =
      (lengthLine blanks (Nat.toDigits 10 n)).map fun c => UInt8.ofNat c.toNat :=
  Text.utf8_ofList_of_ascii fun c hc => (Header.printable_lengthLine hblanks n c hc).2

/-- The name with its colon has fifteen bytes. -/
theorem length_lengthBlock {blanks : List Char} (hblanks : ∀ c ∈ blanks, c = ' ') (n : Nat) :
    (lengthBlock blanks n).length = 15 + blanks.length + (Nat.toDigits 10 n).length := by
  have hname : writtenName.length = 14 := rfl
  rw [lengthBlock_eq_map hblanks, List.length_map, lengthLine, List.length_append, List.length_cons,
    List.length_append, hname]
  omega

/-- A line that gives a length is a header block. -/
theorem isBlock_lengthBlock {blanks : List Char} (hblanks : ∀ c ∈ blanks, c = ' ') (n : Nat) :
    IsBlock (lengthBlock blanks n) := by
  refine isBlock_of_no_breaks ?_ ?_
  · intro hnil
    have hlen := length_lengthBlock hblanks n
    rw [hnil, List.length_nil] at hlen
    omega
  · intro b hb
    rw [lengthBlock_eq_map hblanks, List.mem_map] at hb
    obtain ⟨c, hc, rfl⟩ := hb
    obtain ⟨hlo, hhi⟩ := Header.printable_lengthLine hblanks n c hc
    rw [isLineBreak, Bool.or_eq_false_iff, beq_eq_false_iff_ne, beq_eq_false_iff_ne]
    constructor
    all_goals
      intro heq
      have hnat := congrArg UInt8.toNat heq
      simp only [UInt8.toNat_ofNat', UInt8.reduceToNat] at hnat
      omega

/-- A decoder accepts such a block if it is no longer than a header block may be. -/
theorem accept_lengthBlock {limit n : Nat} {blanks : List Char} (hblanks : ∀ c ∈ blanks, c = ' ')
    (hpos : 0 < n) (hsize : n < UInt64.size) (hlimit : n ≤ limit)
    (hshort : (lengthBlock blanks n).length ≤ maxHeaderBytes) :
    Header.accept limit (lengthBlock blanks n) = .ok n := by
  rw [Header.accept, if_neg (Nat.not_lt.mpr hshort), lengthBlock,
    Header.lengthOf_lengthLine hblanks hpos hsize]
  simp only [if_neg (Nat.not_lt.mpr hlimit)]

/-- **The header that is written** has one blank. -/
theorem headerOf_eq (n : Nat) : headerOf n = lengthBlock [' '] n ++ endMark := by
  have hfront : Text.utf8 "Content-Length: " =
      (writtenName ++ [':', ' ']).flatMap String.utf8EncodeChar := rfl
  have hback : Text.utf8 "\r\n\r\n" = endMark := rfl
  -- the same line once as text and once as bytes
  have hdigits : Text.utf8 n.repr = (Nat.toDigits 10 n).flatMap String.utf8EncodeChar := by
    rw [Nat.repr_eq_ofList_toDigits, Text.utf8_ofList]
  have hline : (lengthLine [' '] (Nat.toDigits 10 n)).flatMap String.utf8EncodeChar =
      (writtenName ++ [':', ' ']).flatMap String.utf8EncodeChar ++
        (Nat.toDigits 10 n).flatMap String.utf8EncodeChar := by
    rw [← List.flatMap_append]
    simp only [lengthLine, List.append_assoc, List.cons_append, List.nil_append]
  calc headerOf n
      = Text.utf8 "Content-Length: " ++ Text.utf8 n.repr ++ Text.utf8 "\r\n\r\n" := by
        rw [← Text.utf8_append, ← Text.utf8_append]
        rfl
    _ = lengthBlock [' '] n ++ endMark := by
        rw [hfront, hdigits, hback, lengthBlock, Text.utf8_ofList, hline]

/-- No frame is empty. -/
theorem length_encode_pos (v : Json) : 0 < (encode v).length := by
  have hmark : endMark.length = 4 := rfl
  rw [encode, frameOf, headerOf_eq, List.length_append, List.length_append, hmark]
  omega

end Framing
end EditorLink
