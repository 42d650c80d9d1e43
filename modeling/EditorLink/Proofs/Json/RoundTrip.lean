import EditorLink.Proofs.Json.Scalars

/-!
# EditorLink — values, written and read

A value that is written is read back with its members in key order, whatever follows that ends a
value. This is proved along the value; the bytes behind an item or a member are the rest of the
list that it stands in.

The reader has fuel, which bounds the steps, and room, which bounds the arrays and objects in one another. Of fuel two
for each byte is enough, so that `read` never runs out of it; room is a limit of the format, and a value that is nested
too deep is refused. Both go down along the text, and each lemma says how much is needed.

Doubles are left out, since their texts are not modelled; so are integers of more than 64 bits, which no value holds
that was read. Strings are exact: each character is written by its own bytes or by an escape, and is read as that
character (`EditorLink.Proofs.Json.Scalars`).

What follows a value matters for one kind only. A number ends where no digit, point or exponent follows, and in an
array or an object a comma or a bracket does (`Delimited`).

## Results

* `NoDouble`, `InRange` — values without doubles, whose texts are exact, and with integers that fit;
* `normalize_of_wellFormed` — a value that reading gives is in order already;
* `itemsTail`, `membersTail` — what is written behind an item or a member;
* `readValue_write` — a value is read back from the front of a text;
* `read_write_normalize` — a whole text is read back.
-/

namespace EditorLink.Json

-- ---------------------------------------------------------------------------
-- Values without doubles
-- ---------------------------------------------------------------------------

mutual

/-- No double stands anywhere in the value. -/
def NoDouble : Json → Prop
  | .double _ => False
  | .arr items => NoDoubleItems items
  | .obj members => NoDoubleMembers members
  | _ => True

def NoDoubleItems : List Json → Prop
  | [] => True
  | v :: rest => NoDouble v ∧ NoDoubleItems rest

def NoDoubleMembers : Members → Prop
  | [] => True
  | (_, v) :: rest => NoDouble v ∧ NoDoubleMembers rest

end

mutual

/-- All integers in the value fit 64 bits. -/
def InRange : Json → Prop
  | .int n => integerRange n
  | .arr items => InRangeItems items
  | .obj members => InRangeMembers members
  | _ => True

def InRangeItems : List Json → Prop
  | [] => True
  | v :: rest => InRange v ∧ InRangeItems rest

def InRangeMembers : Members → Prop
  | [] => True
  | (_, v) :: rest => InRange v ∧ InRangeMembers rest

end

mutual

/-- In a value that reading gives integers fit. -/
theorem WellFormed.inRange {v : Json} (h : WellFormed v) : InRange v := by
  match v with
  | .null | .bool _ | .double _ | .str _ => trivial
  | .int n => exact h
  | .arr items => exact WellFormedItems.inRange h
  | .obj members => exact WellFormedMembers.inRange h.2

theorem WellFormedItems.inRange {items : List Json} (h : WellFormedItems items) :
    InRangeItems items := by
  match items with
  | [] => trivial
  | v :: rest => exact ⟨h.1.inRange, h.2.inRange⟩

theorem WellFormedMembers.inRange {members : Members} (h : WellFormedMembers members) :
    InRangeMembers members := by
  match members with
  | [] => trivial
  | (k, v) :: rest => exact ⟨h.1.inRange, h.2.inRange⟩

end

-- ---------------------------------------------------------------------------
-- The bytes of arrays and objects
-- ---------------------------------------------------------------------------

/-- What is written behind an item: the items that follow, and the closing bracket. -/
def itemsTail : List Json → Bytes
  | [] => [93]
  | v :: rest => 44 :: (Text.utf8 (write v) ++ itemsTail rest)

def memberBytes (k : String) (v : Json) : Bytes :=
  34 :: (escapedBytes k.toList ++ 34 :: 58 :: Text.utf8 (write v))

/-- What is written behind a member: the members that follow, and the closing brace. -/
def membersTail : Members → Bytes
  | [] => [125]
  | (k, v) :: rest => 44 :: (memberBytes k v ++ membersTail rest)

/-- Behind the first item stands a comma or the bracket that closes. -/
theorem utf8_writeItems (v : Json) (rest : List Json) :
    Text.utf8 (writeItems (v :: rest)) ++ [93] = Text.utf8 (write v) ++ itemsTail rest := by
  have hcomma : Text.utf8 "," = [44] := rfl
  induction rest generalizing v with
  | nil => rw [writeItems, itemsTail]
  | cons w rest ih =>
    rw [writeItems, itemsTail, Text.utf8_append, Text.utf8_append, hcomma, List.append_assoc, ih,
      List.append_assoc, List.singleton_append]

theorem utf8_write_arr (v : Json) (rest : List Json) :
    Text.utf8 (write (.arr (v :: rest))) = 91 :: (Text.utf8 (write v) ++ itemsTail rest) := by
  have hopen : Text.utf8 "[" = [91] := rfl
  have hclose : Text.utf8 "]" = [93] := rfl
  rw [write, Text.utf8_append, Text.utf8_append, hopen, hclose, List.append_assoc, utf8_writeItems,
    List.singleton_append]

/-- A member is its key, a colon and its value. -/
theorem utf8_member (k : String) (v : Json) :
    Text.utf8 (writeString k ++ ":" ++ write v) = memberBytes k v := by
  have hcolon : Text.utf8 ":" = [58] := rfl
  rw [Text.utf8_append, Text.utf8_append, utf8_writeString, hcolon, memberBytes, List.append_assoc,
    List.cons_append, List.append_assoc]
  rfl

/-- Behind the first member stands a comma or the brace that closes. -/
theorem utf8_writeMembers (k : String) (v : Json) (rest : Members) :
    Text.utf8 (writeMembers ((k, v) :: rest)) ++ [125] = memberBytes k v ++ membersTail rest := by
  have hcomma : Text.utf8 "," = [44] := rfl
  induction rest generalizing k v with
  | nil => rw [writeMembers, membersTail, utf8_member]
  | cons m rest ih =>
    obtain ⟨k', v'⟩ := m
    rw [writeMembers, membersTail, Text.utf8_append, Text.utf8_append, utf8_member, hcomma,
      List.append_assoc, ih, List.append_assoc, List.singleton_append]

theorem utf8_write_obj (k : String) (v : Json) (rest : Members) :
    Text.utf8 (write (.obj ((k, v) :: rest))) = 123 :: (memberBytes k v ++ membersTail rest) := by
  have hopen : Text.utf8 "\x7b" = [123] := rfl
  have hclose : Text.utf8 "\x7d" = [125] := rfl
  rw [write, Text.utf8_append, Text.utf8_append, hopen, hclose, List.append_assoc,
    utf8_writeMembers, List.singleton_append]

/-- Nothing that could belong to a number stands behind an item. -/
theorem delimited_itemsTail (items : List Json) (rest : Bytes) :
    Delimited (itemsTail items ++ rest) := by
  intro b hb
  cases items <;> simp [itemsTail] at hb <;> simp [← hb]

theorem delimited_membersTail (members : Members) (rest : Bytes) :
    Delimited (membersTail members ++ rest) := by
  intro b hb
  cases members <;> simp [membersTail] at hb <;> simp [← hb]

-- ---------------------------------------------------------------------------
-- Members in order
-- ---------------------------------------------------------------------------

/-- The keys before a key in ascending members are smaller. -/
theorem Ascending.lt_of_mem {done : Members} {k : String} {v : Json} {rest : Members}
    (h : Ascending (done ++ (k, v) :: rest)) : ∀ m ∈ done, m.1 < k := by
  induction done with
  | nil => simp
  | cons m done ih =>
    obtain ⟨k₀, v₀⟩ := m
    have htail : Ascending (done ++ (k, v) :: rest) := by
      cases done with
      | nil => exact h.2
      | cons m' done => exact h.2
    intro m hm
    rcases List.mem_cons.mp hm with rfl | hm
    · cases done with
      | nil => exact h.1
      | cons m' done => exact String.lt_trans h.1 (ih htail m' List.mem_cons_self)
    · exact ih htail m hm

/-- A key behind all others is added at the end. -/
theorem put_of_lt {done : Members} {k : String} {v : Json} (h : ∀ m ∈ done, m.1 < k) :
    put k v done = done ++ [(k, v)] := by
  induction done with
  | nil => rfl
  | cons m done ih =>
    obtain ⟨k₀, v₀⟩ := m
    have hlt : k₀ < k := h (k₀, v₀) List.mem_cons_self
    have hne : k ≠ k₀ := by
      rintro rfl
      exact String.lt_irrefl k hlt
    rw [put, if_neg (String.lt_asymm hlt), if_neg hne, ih fun m hm =>
      h m (List.mem_cons_of_mem _ hm)]
    rfl

mutual

/-- **A value that reading gives is in order**: to normalize it changes nothing. -/
theorem normalize_of_wellFormed {v : Json} (h : WellFormed v) : normalize v = v := by
  match v with
  | .null | .bool _ | .int _ | .double _ | .str _ => rfl
  | .arr items => rw [normalize, normalizeItems_of_wellFormed h]
  | .obj members =>
    have hascending : Ascending ([] ++ members) := h.1
    rw [normalize, normalizeMembers_of_ascending hascending h.2, List.nil_append]

theorem normalizeItems_of_wellFormed {items : List Json} (h : WellFormedItems items) :
    normalizeItems items = items := by
  match items with
  | [] => rfl
  | v :: rest =>
    rw [normalizeItems, normalize_of_wellFormed h.1, normalizeItems_of_wellFormed h.2]

/-- Members in key order are added one behind the other. -/
theorem normalizeMembers_of_ascending {done members : Members}
    (hascending : Ascending (done ++ members)) (h : WellFormedMembers members) :
    normalizeMembers done members = done ++ members := by
  match members with
  | [] => rw [normalizeMembers, List.append_nil]
  | (k, v) :: rest =>
    rw [normalizeMembers, normalize_of_wellFormed h.1, put_of_lt hascending.lt_of_mem]
    rw [List.append_cons] at hascending
    rw [normalizeMembers_of_ascending hascending h.2, ← List.append_cons]

end

-- ---------------------------------------------------------------------------
-- The front of a text
-- ---------------------------------------------------------------------------

/-- No blank stands where a value begins. -/
theorem skipBlanks_cons {b : UInt8} (h : isBlank b = false) (rest : Bytes) :
    skipBlanks (b :: rest) = b :: rest := by
  rw [skipBlanks, List.dropWhile_cons_of_neg (by simp [h])]

/-- A digit is no other byte that a value may start with, and no blank. -/
theorem isDigit_not_mem {b : UInt8} (h : isDigit b = true) :
    b ∉ [9, 10, 13, 32, 34, 45, 93, 102, 110, 116] := by
  intro hmem
  simp only [List.mem_cons, List.not_mem_nil, or_false] at hmem
  rcases hmem with rfl | rfl | rfl | rfl | rfl | rfl | rfl | rfl | rfl | rfl <;> cases h

theorem readValue_null (fuel room : Nat) (rest : Bytes) :
    readValue (fuel + 1) room (110 :: 117 :: 108 :: 108 :: rest) = .ok (.null, rest) := by
  rw [readValue, skipBlanks_cons rfl]
  rfl

theorem readValue_true (fuel room : Nat) (rest : Bytes) :
    readValue (fuel + 1) room (116 :: 114 :: 117 :: 101 :: rest) = .ok (.bool true, rest) := by
  rw [readValue, skipBlanks_cons rfl]
  rfl

theorem readValue_false (fuel room : Nat) (rest : Bytes) :
    readValue (fuel + 1) room (102 :: 97 :: 108 :: 115 :: 101 :: rest) =
      .ok (.bool false, rest) := by
  rw [readValue, skipBlanks_cons rfl]
  rfl

theorem readValue_string (fuel room : Nat) (s : String) (rest : Bytes) :
    readValue (fuel + 1) room (34 :: (escapedBytes s.toList ++ 34 :: rest)) =
      .ok (.str s, rest) := by
  rw [readValue, skipBlanks_cons rfl]
  dsimp only
  rw [readString_write]
  rfl

theorem readValue_minus (fuel room : Nat) (rest : Bytes) :
    readValue (fuel + 1) room (45 :: rest) = readNumber true rest := by
  rw [readValue, skipBlanks_cons rfl]
  rfl

theorem readValue_digit (fuel room : Nat) {b : UInt8} (h : isDigit b = true) (rest : Bytes) :
    readValue (fuel + 1) room (b :: rest) = readNumber false (b :: rest) := by
  have hother := isDigit_not_mem h
  simp only [List.mem_cons, List.not_mem_nil, or_false, not_or] at hother
  rw [readValue, skipBlanks_cons (by simp [isBlank, hother])]
  simp only [beq_iff_eq, hother, h, if_false, if_true]

/-- A bracket begins an array, which takes some of the room. -/
theorem readValue_bracket (fuel room : Nat) (rest : Bytes) :
    readValue (fuel + 1) (room + 1) (91 :: rest) = readItems fuel room none rest := by
  rw [readValue, skipBlanks_cons rfl]
  rfl

theorem readValue_brace (fuel room : Nat) (rest : Bytes) :
    readValue (fuel + 1) (room + 1) (123 :: rest) = readMembers fuel room none rest := by
  rw [readValue, skipBlanks_cons rfl]
  rfl

-- ---------------------------------------------------------------------------
-- Integers
-- ---------------------------------------------------------------------------

/-- The first byte of a natural number is a digit. -/
theorem exists_digit_utf8_repr (n : Nat) :
    ∃ b rest, Text.utf8 n.repr = b :: rest ∧ isDigit b = true := by
  obtain ⟨c, cs, hdigits⟩ := List.exists_cons_of_ne_nil (Nat.toDigits_ne_nil (n := n) (b := 10))
  have hc : c.isDigit = true :=
    Decimal.isDigit_of_mem_toDigits (n := n) (by rw [hdigits]; exact List.mem_cons_self)
  rw [Decimal.utf8_repr, hdigits]
  exact ⟨_, _, rfl, (isDigit_ofNat hc).1⟩

theorem utf8_write_negSucc (n : Nat) :
    Text.utf8 (write (.int (Int.negSucc n))) = 45 :: Text.utf8 (n + 1).repr := by
  have hminus : Text.utf8 "-" = [45] := rfl
  have hrepr : toString (Int.negSucc n) = "-" ++ (n + 1).repr := rfl
  rw [write, hrepr, Text.utf8_append, hminus, List.singleton_append]

/-- An integer of 64 bits is read back. -/
theorem readValue_int {n : Int} (h : integerRange n) (fuel room : Nat) {rest : Bytes}
    (hrest : Delimited rest) :
    readValue (fuel + 1) room (Text.utf8 (write (.int n)) ++ rest) = .ok (.int n, rest) := by
  obtain ⟨hlo, hhi⟩ := h
  cases n with
  | ofNat n =>
    -- a natural number has no sign and starts with a digit
    have hwrite : write (.int (Int.ofNat n)) = n.repr := rfl
    obtain ⟨b, digits, heq, hdigit⟩ := exists_digit_utf8_repr n
    rw [hwrite, heq, List.cons_append, readValue_digit fuel room hdigit, ← List.cons_append, ← heq]
    exact readNumber_natural (Int.ofNat_lt.mp hhi) hrest
  | negSucc n =>
    have hbound : n + 1 ≤ signedBound := by
      rw [Int.negSucc_eq] at hlo
      omega
    rw [utf8_write_negSucc, List.cons_append, readValue_minus,
      readNumber_negative (Nat.succ_pos n) hbound hrest]
    rfl

/-- The first byte of a value is no blank, and closes no list. -/
theorem write_front {v : Json} (h : NoDouble v) :
    ∃ b rest, Text.utf8 (write v) = b :: rest ∧ isBlank b = false ∧ b ≠ 93 := by
  cases v with
  | null => exact ⟨110, [117, 108, 108], rfl, rfl, by decide⟩
  | bool b =>
    cases b with
    | false => exact ⟨102, [97, 108, 115, 101], rfl, rfl, by decide⟩
    | true => exact ⟨116, [114, 117, 101], rfl, rfl, by decide⟩
  | int n =>
    cases n with
    | ofNat n =>
      obtain ⟨b, digits, heq, hdigit⟩ := exists_digit_utf8_repr n
      have hother := isDigit_not_mem hdigit
      simp only [List.mem_cons, List.not_mem_nil, or_false, not_or] at hother
      exact ⟨b, digits, heq, by simp [isBlank, hother], by simp [hother]⟩
    | negSucc n => exact ⟨45, _, utf8_write_negSucc n, rfl, by decide⟩
  | double d => exact h.elim
  | str s => exact ⟨34, _, utf8_writeString s, rfl, by decide⟩
  | arr items =>
    cases items with
    | nil => exact ⟨91, [93], rfl, rfl, by decide⟩
    | cons v rest => exact ⟨91, _, utf8_write_arr v rest, rfl, by decide⟩
  | obj members =>
    cases members with
    | nil => exact ⟨123, [125], rfl, rfl, by decide⟩
    | cons m rest => exact ⟨123, _, utf8_write_obj m.1 m.2 rest, rfl, by decide⟩

-- ---------------------------------------------------------------------------
-- Values
-- ---------------------------------------------------------------------------

theorem readItems_first {v v' : Json} (h : NoDouble v) (fuel room : Nat) {tail rest : Bytes}
    (hv : readValue fuel room (Text.utf8 (write v) ++ tail) = .ok (v', rest)) :
    readItems (fuel + 1) room none (Text.utf8 (write v) ++ tail) =
      readItems fuel room (some [v']) rest := by
  obtain ⟨b, bytes, heq, hblank, hclose⟩ := write_front h
  rw [heq, List.cons_append] at hv ⊢
  -- its equations need to know whether items were read before
  rw [readItems.eq_def]
  simp only [skipBlanks_cons hblank, beq_iff_eq, hclose, if_false, hv]

theorem readItems_next {v v' : Json} (h : NoDouble v) (fuel room : Nat) (done : List Json)
    {tail rest : Bytes} (hv : readValue fuel room (Text.utf8 (write v) ++ tail) = .ok (v', rest)) :
    readItems (fuel + 1) room (some done) (44 :: (Text.utf8 (write v) ++ tail)) =
      readItems fuel room (some (v' :: done)) rest := by
  obtain ⟨b, bytes, heq, hblank, hclose⟩ := write_front h
  rw [heq, List.cons_append] at hv ⊢
  have hcomma : skipBlanks (44 :: b :: (bytes ++ tail)) = 44 :: b :: (bytes ++ tail) :=
    skipBlanks_cons rfl _
  rw [readItems.eq_def]
  simp [hcomma, skipBlanks_cons hblank, hclose, hv]

/-- The bracket ends the array with the items in the order in which they stand. -/
theorem readItems_close (fuel room : Nat) (done : List Json) (rest : Bytes) :
    readItems (fuel + 1) room (some done) (93 :: rest) = .ok (.arr done.reverse, rest) := by
  have hbracket : skipBlanks (93 :: rest) = 93 :: rest := skipBlanks_cons rfl rest
  rw [readItems.eq_def]
  simp [hbracket]

/-- A member: its key is read back, and its value is put in its place. -/
theorem readMember_write (k : String) {v v' : Json} (fuel room : Nat) (done : Members)
    {tail rest : Bytes} (hv : readValue fuel room (Text.utf8 (write v) ++ tail) = .ok (v', rest)) :
    readMember (fuel + 1) room done
        (escapedBytes k.toList ++ 34 :: 58 :: (Text.utf8 (write v) ++ tail)) =
      readMembers fuel room (some (put k v' done)) rest := by
  rw [readMember, readString_write]
  simp only [skipBlanks_cons (b := 58) rfl]
  simp [hv]

theorem readMembers_close (fuel room : Nat) (done : Members) (rest : Bytes) :
    readMembers (fuel + 1) room (some done) (125 :: rest) = .ok (.obj done, rest) := by
  have hbrace : skipBlanks (125 :: rest) = 125 :: rest := skipBlanks_cons rfl rest
  rw [readMembers.eq_def]
  simp [hbrace]

theorem readItems_empty (fuel room : Nat) (rest : Bytes) :
    readItems (fuel + 1) room none (93 :: rest) = .ok (.arr [], rest) := by
  have hbracket : skipBlanks (93 :: rest) = 93 :: rest := skipBlanks_cons rfl rest
  rw [readItems.eq_def]
  simp [hbracket]

theorem readMembers_empty (fuel room : Nat) (rest : Bytes) :
    readMembers (fuel + 1) room none (125 :: rest) = .ok (.obj [], rest) := by
  have hbrace : skipBlanks (125 :: rest) = 125 :: rest := skipBlanks_cons rfl rest
  rw [readMembers.eq_def]
  simp [hbrace]

/-- Two quotes and a colon besides key and value. -/
theorem length_memberBytes (k : String) (v : Json) :
    (memberBytes k v).length =
      (escapedBytes k.toList).length + (Text.utf8 (write v)).length + 3 := by
  simp only [memberBytes, List.length_cons, List.length_append]
  omega

/-- The bytes of a member one by one, down to its value. -/
theorem memberBytes_append (k : String) (v : Json) (rest : Bytes) :
    memberBytes k v ++ rest =
      34 :: (escapedBytes k.toList ++ 34 :: 58 :: (Text.utf8 (write v) ++ rest)) := by
  simp only [memberBytes, List.cons_append, List.append_assoc]

theorem readMembers_first (fuel room : Nat) (rest : Bytes) :
    readMembers (fuel + 1) room none (34 :: rest) = readMember fuel room [] rest := by
  have hquote : skipBlanks (34 :: rest) = 34 :: rest := skipBlanks_cons rfl rest
  rw [readMembers.eq_def]
  simp [hquote]

theorem readMembers_next (fuel room : Nat) (done : Members) (rest : Bytes) :
    readMembers (fuel + 1) room (some done) (44 :: 34 :: rest) =
      readMember fuel room done rest := by
  have hcomma : skipBlanks (44 :: 34 :: rest) = 44 :: 34 :: rest := skipBlanks_cons rfl _
  have hquote : skipBlanks (34 :: rest) = 34 :: rest := skipBlanks_cons rfl rest
  rw [readMembers.eq_def]
  simp [hcomma, hquote]

mutual

/-- **A value is read back** from the front of a text, with its members in order. -/
theorem readValue_write {v : Json} {fuel room : Nat} {rest : Bytes} (hrange : InRange v)
    (hdouble : NoDouble v) (hroom : depth v ≤ room)
    (hfuel : 2 * (Text.utf8 (write v)).length ≤ fuel) (hrest : Delimited rest) :
    readValue fuel room (Text.utf8 (write v) ++ rest) = .ok (normalize v, rest) := by
  obtain ⟨b, bytes, hfront, -, -⟩ := write_front hdouble
  -- a value is written with at least one byte, and each byte brings fuel for two calls
  obtain ⟨fuel, rfl⟩ : ∃ n, fuel = n + 1 := by
    rw [hfront, List.length_cons] at hfuel
    exact ⟨fuel - 1, by omega⟩
  match v with
  | .null =>
    have hwrite : Text.utf8 (write .null) = [110, 117, 108, 108] := rfl
    rw [hwrite]
    exact readValue_null fuel room rest
  | .bool true =>
    have hwrite : Text.utf8 (write (.bool true)) = [116, 114, 117, 101] := rfl
    rw [hwrite]
    exact readValue_true fuel room rest
  | .bool false =>
    have hwrite : Text.utf8 (write (.bool false)) = [102, 97, 108, 115, 101] := rfl
    rw [hwrite]
    exact readValue_false fuel room rest
  | .int n => exact readValue_int hrange fuel room hrest
  | .double d => exact hdouble.elim
  | .str s =>
    rw [write, utf8_writeString, List.cons_append, List.append_assoc, List.singleton_append]
    exact readValue_string fuel room s rest
  | .arr [] =>
    obtain ⟨room, rfl⟩ : ∃ n, room = n + 1 := ⟨room - 1, by simp only [depth] at hroom; omega⟩
    have hwrite : Text.utf8 (write (.arr [])) = [91, 93] := rfl
    rw [hwrite] at hfuel ⊢
    obtain ⟨fuel, rfl⟩ : ∃ n, fuel = n + 1 :=
      ⟨fuel - 1, by simp only [List.length_cons] at hfuel; omega⟩
    exact (readValue_bracket _ room _).trans (readItems_empty fuel room rest)
  | .arr (v :: items) =>
    obtain ⟨room, rfl⟩ : ∃ n, room = n + 1 := ⟨room - 1, by simp only [depth] at hroom; omega⟩
    simp only [depth, depthItems] at hroom
    rw [utf8_write_arr] at hfuel ⊢
    rw [List.length_cons, List.length_append] at hfuel
    obtain ⟨fuel, rfl⟩ : ∃ n, fuel = n + 1 := ⟨fuel - 1, by omega⟩
    rw [List.cons_append, List.append_assoc, readValue_bracket]
    rw [readItems_first hdouble.1 fuel room (readValue_write hrange.1 hdouble.1 (by omega) (by omega)
      (delimited_itemsTail items rest))]
    exact readItems_write hrange.2 hdouble.2 (by omega) (by omega)
  | .obj [] =>
    obtain ⟨room, rfl⟩ : ∃ n, room = n + 1 := ⟨room - 1, by simp only [depth] at hroom; omega⟩
    have hwrite : Text.utf8 (write (.obj [])) = [123, 125] := rfl
    rw [hwrite] at hfuel ⊢
    obtain ⟨fuel, rfl⟩ : ∃ n, fuel = n + 1 :=
      ⟨fuel - 1, by simp only [List.length_cons] at hfuel; omega⟩
    exact (readValue_brace _ room _).trans (readMembers_empty fuel room rest)
  | .obj ((k, v) :: members) =>
    obtain ⟨room, rfl⟩ : ∃ n, room = n + 1 := ⟨room - 1, by simp only [depth] at hroom; omega⟩
    simp only [depth, depthMembers] at hroom
    rw [utf8_write_obj] at hfuel ⊢
    rw [List.length_cons, List.length_append, length_memberBytes] at hfuel
    obtain ⟨fuel, rfl⟩ : ∃ n, fuel = n + 2 := ⟨fuel - 2, by omega⟩
    rw [List.cons_append, List.append_assoc, readValue_brace, memberBytes_append, readMembers_first,
      readMember_write k fuel room [] (readValue_write hrange.1 hdouble.1 (by omega) (by omega)
        (delimited_membersTail members rest))]
    exact readMembers_write hrange.2 hdouble.2 (by omega) (by omega)

/-- The items of an array are read back behind those at hand. -/
theorem readItems_write {items done : List Json} {fuel room : Nat} {rest : Bytes}
    (hrange : InRangeItems items) (hdouble : NoDoubleItems items) (hroom : depthItems items ≤ room)
    (hfuel : 2 * (itemsTail items).length ≤ fuel) :
    readItems fuel room (some done) (itemsTail items ++ rest) =
      .ok (.arr (done.reverse ++ normalizeItems items), rest) := by
  match items with
  | [] =>
    obtain ⟨fuel, rfl⟩ : ∃ n, fuel = n + 1 :=
      ⟨fuel - 1, by simp only [itemsTail, List.length_cons] at hfuel; omega⟩
    rw [normalizeItems, List.append_nil]
    exact readItems_close fuel room done rest
  | v :: items =>
    simp only [itemsTail, List.length_cons, List.length_append] at hfuel
    simp only [depthItems] at hroom
    obtain ⟨fuel, rfl⟩ : ∃ n, fuel = n + 1 := ⟨fuel - 1, by omega⟩
    rw [itemsTail, List.cons_append, List.append_assoc, readItems_next hdouble.1 fuel room done
      (readValue_write hrange.1 hdouble.1 (by omega) (by omega) (delimited_itemsTail items rest)),
      readItems_write hrange.2 hdouble.2 (by omega) (by omega), List.reverse_cons,
      List.append_assoc, List.singleton_append, normalizeItems]

/-- The members of an object are read back and added to those at hand. -/
theorem readMembers_write {members done : Members} {fuel room : Nat} {rest : Bytes}
    (hrange : InRangeMembers members) (hdouble : NoDoubleMembers members)
    (hroom : depthMembers members ≤ room) (hfuel : 2 * (membersTail members).length ≤ fuel) :
    readMembers fuel room (some done) (membersTail members ++ rest) =
      .ok (.obj (normalizeMembers done members), rest) := by
  match members with
  | [] =>
    obtain ⟨fuel, rfl⟩ : ∃ n, fuel = n + 1 :=
      ⟨fuel - 1, by simp only [membersTail, List.length_cons] at hfuel; omega⟩
    exact readMembers_close fuel room done rest
  | (k, v) :: members =>
    simp only [membersTail, List.length_cons, List.length_append, length_memberBytes] at hfuel
    simp only [depthMembers] at hroom
    obtain ⟨fuel, rfl⟩ : ∃ n, fuel = n + 2 := ⟨fuel - 2, by omega⟩
    rw [membersTail, List.cons_append, List.append_assoc, memberBytes_append, readMembers_next,
      readMember_write k fuel room _ (readValue_write hrange.1 hdouble.1 (by omega) (by omega)
        (delimited_membersTail members rest)),
      readMembers_write hrange.2 hdouble.2 (by omega) (by omega), normalizeMembers]

end

/-- **A text is read back**: the compact text of a value with at most 127 arrays and objects open
gives the value with its members in order. -/
theorem read_write_normalize {v : Json} (hrange : InRange v) (hdouble : NoDouble v)
    (hdepth : depth v ≤ maxDepth) :
    read (Text.utf8 (write v)) = .ok (normalize v) := by
  have hrest : Delimited [] := by
    intro b hb
    cases hb
  have hfuel : 2 * (Text.utf8 (write v)).length ≤ 2 * (Text.utf8 (write v)).length + 2 := by omega
  have hvalue := readValue_write hrange hdouble hdepth hfuel hrest
  rw [List.append_nil] at hvalue
  rw [read, readFront, hvalue]
  rfl

end EditorLink.Json
