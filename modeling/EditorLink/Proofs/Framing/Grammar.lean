import EditorLink.Proofs.Framing.Header
import EditorLink.Proofs.Text.Boundaries

/-!
# EditorLink — the grammar of header blocks

Which length a header block gives, said without the way in which its lines are gone through.

A block is UTF-8, lines with line ends between them. A line gives a length if what stands before its first colon is
the name of the length, in letters of any case and with blanks around it; the value is what stands behind, without the
blanks around it. A value denotes a number of 64 bits: digits, before which a plus sign may stand. Of all the values
the first that denotes none is the fault of the block. If all denote one the last one counts, and a zero there is as
good as none; a block without any gives no length. Lines that give none do not matter, not even if they have no colon.

The reader goes through the lines one after the other and stops at the first value that is bad. The grammar is a
relation without an order of steps. They are compared by way of the list of values on the lines (`values?`), which is
also what the lemmas on spellings are about: two blocks with the same values come to the same.

## Results

* `GivesLength`, `Denotes` — a line that gives a length, and the number that its value stands for;
* `Values`, `Settles`, `Grammar` — what a block comes to;
* `splitLines_intercalate`, `intercalate_splitLines` — lines with line ends between them;
* `givesLength_iff`, `denotes_iff` — one line, and one value;
* `values?`, `lengthOf_eq` — a block comes to what the values on its lines come to;
* `lengthOf_eq_iff` — the length that a block gives is the one of the grammar.
-/

namespace EditorLink

-- ---------------------------------------------------------------------------
-- Blanks at the ends
-- ---------------------------------------------------------------------------

namespace Text

theorem isBlank_toLower (c : Char) : isBlank c.toLower = isBlank c := by
  have hlower := toNat_toLower c
  rw [Bool.eq_iff_iff]
  simp only [isBlank, blankRanges, List.any_cons, List.any_nil, Bool.or_false, Bool.or_eq_true,
    Bool.and_eq_true, decide_eq_true_eq]
  split at hlower <;> omega

/-- Blanks around a text are trimmed off with its own. -/
theorem trim_blanks {before after : List Char} (hbefore : ∀ c ∈ before, isBlank c = true)
    (hafter : ∀ c ∈ after, isBlank c = true) (cs : List Char) :
    trim (before ++ (cs ++ after)) = trim cs := by
  unfold trim
  rw [List.dropWhile_append_of_pos hbefore, List.dropWhile_append]
  split
  · rename_i hnil
    rw [List.dropWhile_eq_nil_iff.mpr hafter, List.isEmpty_iff.mp hnil]
  · have hreverse : ∀ c ∈ after.reverse, isBlank c = true := fun c hc =>
      hafter c (List.mem_reverse.mp hc)
    rw [List.reverse_append, List.dropWhile_append_of_pos hreverse]

/-- A text is what is left of it when it is trimmed, with blanks around. -/
theorem exists_blanks (cs : List Char) :
    ∃ before after, (∀ c ∈ before, isBlank c = true) ∧ (∀ c ∈ after, isBlank c = true) ∧
      cs = before ++ (trim cs ++ after) := by
  refine ⟨cs.takeWhile isBlank, ((cs.dropWhile isBlank).reverse.takeWhile isBlank).reverse,
    fun c hc => List.mem_takeWhile_imp hc,
    fun c hc => List.mem_takeWhile_imp (List.mem_reverse.mp hc), ?_⟩
  rw [trim, ← List.reverse_append, List.takeWhile_append_dropWhile, List.reverse_reverse,
    List.takeWhile_append_dropWhile]

/-- Blanks are dropped in letters of either case. -/
theorem trim_map_toLower (cs : List Char) :
    trim (cs.map Char.toLower) = (trim cs).map Char.toLower := by
  have hblank : isBlank ∘ Char.toLower = isBlank := funext isBlank_toLower
  rw [trim, trim, List.dropWhile_map, hblank, ← List.map_reverse, List.dropWhile_map, hblank,
    List.map_reverse]

end Text

namespace Framing.Header

-- ---------------------------------------------------------------------------
-- The grammar
-- ---------------------------------------------------------------------------

def lineEnd : List Char := ['\r', '\n']

/-- A text without a line end is one line. -/
def IsLine (line : List Char) : Prop := ¬ lineEnd <:+: line

instance : DecidablePred IsLine := fun line => inferInstanceAs (Decidable (¬ lineEnd <:+: line))

/-- The case of the letters of ASCII aside, the names are one. -/
def SameName (name name' : List Char) : Prop := name.map Char.toLower = name'.map Char.toLower

/-- A line that gives a length: what stands before its first colon is the name of the length, and the value
stands behind it. Blanks at the ends of the line, the name and the value do not count. -/
def GivesLength (line value : List Char) : Prop :=
  ∃ name rest, Text.trim line = name ++ ':' :: rest ∧ ':' ∉ name ∧
    SameName (Text.trim name) writtenName ∧ value = Text.trim rest

/-- Digits, with a plus sign before them if there is one, for a number of 64 bits. -/
def Denotes (value : List Char) (n : Nat) : Prop :=
  ∃ digits, (value = digits ∨ value = '+' :: digits) ∧ digits ≠ [] ∧
    (∀ c ∈ digits, c.isDigit = true) ∧ n = Nat.ofDigitChars 10 digits 0 ∧ n < UInt64.size

/-- The values on those of the lines that give a length, in the order of the lines. -/
inductive Values : List (List Char) → List (List Char) → Prop
  | nil : Values [] []
  | length {line value : List Char} {lines values : List (List Char)} :
    GivesLength line value → Values lines values → Values (line :: lines) (value :: values)
  | other {line : List Char} {lines values : List (List Char)} :
    (∀ value, ¬ GivesLength line value) → Values lines values → Values (line :: lines) values

/-- What the values come to. The first that denotes no number is a fault, and otherwise the last counts. -/
inductive Settles : List (List Char) → Except Fault Nat → Prop
  | invalid {before after : List (List Char)} {value : List Char}
    (hbefore : ∀ v ∈ before, ∃ n, Denotes v n) (hvalue : ∀ n, ¬ Denotes value n) :
    Settles (before ++ value :: after) (.error (.invalidLength (String.ofList value)))
  | absent : Settles [] (.error .missingLength)
  | zero {before : List (List Char)} {value : List Char}
    (hbefore : ∀ v ∈ before, ∃ n, Denotes v n) (hvalue : Denotes value 0) :
    Settles (before ++ [value]) (.error .missingLength)
  | length {before : List (List Char)} {value : List Char} {n : Nat}
    (hbefore : ∀ v ∈ before, ∃ n, Denotes v n) (hvalue : Denotes value n) (hpos : 0 < n) :
    Settles (before ++ [value]) (.ok n)

/-- What a block comes to: it is no text, or it is cut into lines and the values on them settle it. -/
inductive Grammar (block : Bytes) : Except Fault Nat → Prop
  | unreadable (hblock : ∀ text, Text.spell text ≠ block) : Grammar block (.error .invalidHeader)
  | settled {lines values : List (List Char)} {r : Except Fault Nat}
    (hblock : Text.spell (lineEnd.intercalate lines) = block) (hne : lines ≠ [])
    (hlines : ∀ line ∈ lines, IsLine line) (hvalues : Values lines values)
    (hsettles : Settles values r) : Grammar block r

-- ---------------------------------------------------------------------------
-- Lines
-- ---------------------------------------------------------------------------

theorem isLine_nil : IsLine [] := by simp [IsLine, lineEnd]

/-- A line ends at no character if it does not end at the first. -/
theorem isLine_cons_iff {c : Char} {rest : List Char} :
    IsLine (c :: rest) ↔ ¬ (c = '\r' ∧ rest.head? = some '\n') ∧ IsLine rest := by
  rw [IsLine, List.infix_cons_iff, not_or, ← IsLine]
  refine and_congr_left fun _ => not_congr ⟨?_, ?_⟩
  · rintro ⟨tail, htail⟩
    obtain ⟨rfl, rfl⟩ := List.cons.inj htail
    exact ⟨rfl, rfl⟩
  · rintro ⟨rfl, hhead⟩
    obtain ⟨tail, rfl⟩ := List.head?_eq_some_iff.mp hhead
    exact ⟨tail, rfl⟩

/-- Texts one behind the other are a line if both are, and no line end stands where they meet. -/
theorem isLine_append_iff {front back : List Char} :
    IsLine (front ++ back) ↔
      ¬ (front.getLast? = some '\r' ∧ back.head? = some '\n') ∧ IsLine front ∧ IsLine back := by
  induction front with
  | nil => simp [isLine_nil]
  | cons c rest ih =>
    rw [List.cons_append, isLine_cons_iff, isLine_cons_iff, ih]
    cases rest with
    | nil => simp [isLine_nil]
    | cons d rest =>
      rw [List.getLast?_cons_cons, List.cons_append, List.head?_cons, List.head?_cons, and_assoc]
      exact and_left_comm

/-- There is always a line, if an empty one. -/
theorem splitLines_ne_nil (text : List Char) : splitLines text ≠ [] := by
  fun_cases splitLines text <;> simp_all

/-- A line end between two texts parts their lines. -/
theorem splitLines_append (front back : List Char) :
    splitLines (front ++ (lineEnd ++ back)) = splitLines front ++ splitLines back := by
  fun_induction splitLines front with
  | case1 => rfl
  | case2 rest ih => exact congrArg ([] :: ·) ih
  | case3 c rest hopen line lines hlines ih =>
    -- the line end behind the text starts no earlier than it stands
    have hopen' : ∀ tail, c = '\r' → rest ++ (lineEnd ++ back) = '\n' :: tail → False := by
      intro tail hr htail
      cases rest with
      | nil => cases htail
      | cons d rest =>
        obtain ⟨rfl, -⟩ := List.cons.inj htail
        exact hopen rest hr rfl
    rw [List.cons_append, splitLines, ih, hlines]
    · rfl
    · exact hopen'
  | case4 c rest hopen hnil ih => exact absurd hnil (splitLines_ne_nil rest)

/-- A text without a line end is one line. -/
theorem splitLines_of_isLine {line : List Char} (h : IsLine line) : splitLines line = [line] := by
  induction line with
  | nil => rfl
  | cons c rest ih =>
    obtain ⟨hopen, hrest⟩ := isLine_cons_iff.mp h
    rw [splitLines, ih hrest]
    rintro tail rfl rfl
    exact hopen ⟨rfl, rfl⟩

/-- **Lines with line ends between them** are split into the lines. -/
theorem splitLines_intercalate {lines : List (List Char)} (hne : lines ≠ [])
    (h : ∀ line ∈ lines, IsLine line) : splitLines (lineEnd.intercalate lines) = lines := by
  induction lines with
  | nil => exact absurd rfl hne
  | cons line rest ih =>
    have hline : splitLines line = [line] := splitLines_of_isLine (h line List.mem_cons_self)
    cases rest with
    | nil => rw [List.intercalate_singleton, hline]
    | cons next rest =>
      have hrest := ih (List.cons_ne_nil _ _) fun l hl => h l (List.mem_cons_of_mem line hl)
      rw [List.intercalate_cons_cons, List.append_assoc, splitLines_append, hline, hrest,
        List.singleton_append]

/-- Put together again the lines are the text. -/
theorem intercalate_splitLines (text : List Char) :
    lineEnd.intercalate (splitLines text) = text := by
  fun_induction splitLines text with
  | case1 => rfl
  | case2 rest ih =>
    rw [List.intercalate_cons_of_ne_nil (splitLines_ne_nil rest), ih]
    rfl
  | case3 c rest hopen line lines hlines ih =>
    rw [List.intercalate_cons_cons_left, ← hlines, ih]
  | case4 c rest hopen hnil ih => exact absurd hnil (splitLines_ne_nil rest)

/-- What the text is parted into are lines. -/
theorem isLine_of_mem_splitLines {text line : List Char} (h : line ∈ splitLines text) :
    IsLine line := by
  fun_induction splitLines text generalizing line with
  | case1 =>
    rw [List.mem_singleton.mp h]
    exact isLine_nil
  | case2 rest ih =>
    rcases List.mem_cons.mp h with rfl | h
    · exact isLine_nil
    · exact ih h
  | case3 c rest hopen first lines hlines ih =>
    have hrest := intercalate_splitLines rest
    rw [hlines] at ih hrest
    rcases List.mem_cons.mp h with rfl | h
    · rw [isLine_cons_iff]
      refine ⟨?_, ih List.mem_cons_self⟩
      -- the rest of the text starts as its first line does
      rintro ⟨hr, hhead⟩
      obtain ⟨tail, rfl⟩ := List.head?_eq_some_iff.mp hhead
      rw [List.intercalate_cons_cons_left] at hrest
      exact hopen _ hr hrest.symm
    · exact ih (List.mem_cons_of_mem first h)
  | case4 c rest hopen hnil ih => exact absurd hnil (splitLines_ne_nil rest)

-- ---------------------------------------------------------------------------
-- One line
-- ---------------------------------------------------------------------------

/-- Without a colon a line has no name. -/
theorem splitColon_eq_none {line : List Char} (h : ':' ∉ line) : splitColon line = none := by
  induction line with
  | nil => rfl
  | cons c rest ih =>
    rw [List.mem_cons, not_or] at h
    obtain ⟨hc, hrest⟩ := h
    simp [splitColon, Ne.symm hc, ih hrest]

/-- A line with a colon gives the length text if its name is the right one. -/
theorem lengthText?_of_colon {name : List Char} (h : ':' ∉ name) (rest : List Char) :
    lengthText? (name ++ ':' :: rest) =
      if (Text.trim name).map Char.toLower = lengthName then some (Text.trim rest) else none := by
  rw [lengthText?, splitColon_append h]
  simp only [beq_iff_eq]

/-- A line without a colon gives none. -/
theorem lengthText?_of_no_colon {line : List Char} (h : ':' ∉ line) : lengthText? line = none := by
  rw [lengthText?, splitColon_eq_none h]

theorem not_colon_of_blank {blanks : List Char} (h : ∀ c ∈ blanks, Text.isBlank c = true) :
    ':' ∉ blanks := by
  intro hmem
  have hblank := h ':' hmem
  cases hblank

/-- **Blanks around a line** do not matter. -/
theorem lengthText?_blanks {before after : List Char}
    (hbefore : ∀ c ∈ before, Text.isBlank c = true) (hafter : ∀ c ∈ after, Text.isBlank c = true)
    (line : List Char) : lengthText? (before ++ (line ++ after)) = lengthText? line := by
  have hfront := not_colon_of_blank hbefore
  have hback := not_colon_of_blank hafter
  by_cases hline : ':' ∈ line
  · obtain ⟨name, rest, rfl, hname⟩ := List.eq_append_cons_of_mem hline
    have hnone : ∀ c ∈ ([] : List Char), Text.isBlank c = true := nofun
    have htrim := Text.trim_blanks hbefore hnone name
    have htrim' := Text.trim_blanks hnone hafter rest
    rw [List.append_nil] at htrim
    have hcolon :
        before ++ (name ++ ':' :: rest ++ after) = (before ++ name) ++ ':' :: (rest ++ after) := by
      simp only [List.append_assoc, List.cons_append]
    rw [hcolon, lengthText?_of_colon (by simp [hfront, hname]), lengthText?_of_colon hname, htrim]
    rw [List.nil_append] at htrim'
    rw [htrim']
  · rw [lengthText?_of_no_colon hline, lengthText?_of_no_colon]
    simp [hfront, hline, hback]

/-- Blanks around a line do not matter. -/
theorem lengthText?_trim (line : List Char) : lengthText? (Text.trim line) = lengthText? line := by
  obtain ⟨before, after, hbefore, hafter, hline⟩ := Text.exists_blanks line
  have hblanks := lengthText?_blanks hbefore hafter (Text.trim line)
  rw [← hline] at hblanks
  exact hblanks.symm

/-- **One line**: the reader takes its value just where the grammar says that it gives one. -/
theorem givesLength_iff {line value : List Char} :
    GivesLength line value ↔ lengthText? line = some value := by
  have hlower : writtenName.map Char.toLower = lengthName := rfl
  rw [← lengthText?_trim, GivesLength]
  constructor
  · rintro ⟨name, rest, hline, hname, hsame, rfl⟩
    rw [hline, lengthText?_of_colon hname, if_pos (hsame.trans hlower)]
  · intro h
    by_cases hline : ':' ∈ Text.trim line
    · obtain ⟨name, rest, heq, hname⟩ := List.eq_append_cons_of_mem hline
      rw [heq, lengthText?_of_colon hname] at h
      split at h
      · rename_i hsame
        exact ⟨name, rest, heq, hname, hsame.trans hlower.symm, (Option.some.inj h).symm⟩
      · cases h
    · rw [lengthText?_of_no_colon hline] at h
      cases h

-- ---------------------------------------------------------------------------
-- One value
-- ---------------------------------------------------------------------------

/-- Digits, and the number that they spell. -/
theorem natural?_eq_some_iff {digits : List Char} {n : Nat} :
    Decimal.natural? digits = some n ↔
      digits ≠ [] ∧ (∀ c ∈ digits, c.isDigit = true) ∧ n = Nat.ofDigitChars 10 digits 0 := by
  have hvalue : digits.foldl (fun n c => n * 10 + (c.toNat - 48)) 0 = Nat.ofDigitChars 10 digits 0 := by
    rw [Nat.ofDigitChars_eq_foldl]
    have hzero : '0'.toNat = 48 := rfl
    simp only [Nat.mul_comm, hzero]
  rw [Decimal.natural?, hvalue]
  split
  · rename_i h
    simp only [Bool.or_eq_true, List.isEmpty_iff, Bool.not_eq_true', List.all_eq_false] at h
    constructor
    · intro h'
      cases h'
    · rintro ⟨hne, hall, -⟩
      rcases h with h | ⟨c, hc, hdigit⟩
      · exact absurd h hne
      · exact absurd (hall c hc) hdigit
  · rename_i h
    simp only [Bool.or_eq_true, List.isEmpty_iff, Bool.not_eq_true', not_or, Bool.not_eq_false,
      List.all_eq_true] at h
    rw [Option.some.injEq]
    exact ⟨fun heq => ⟨h.1, h.2, heq.symm⟩, fun heq => heq.2.2.symm⟩

/-- **One value**: the reader accepts it just where the grammar says what it denotes. -/
theorem denotes_iff {value : List Char} {n : Nat} : Denotes value n ↔ length? value = some n := by
  rw [length?, Decimal.unsigned?, Option.filter_eq_some_iff, natural?_eq_some_iff, decide_eq_true_eq]
  constructor
  · rintro ⟨digits, hvalue, hne, hall, hn, hlt⟩
    have hdrop : Decimal.dropPlus value = digits := by
      rcases hvalue with rfl | rfl
      · rw [Decimal.dropPlus]
        rintro rest rfl
        exact absurd (hall '+' List.mem_cons_self) (by decide)
      · rfl
    rw [hdrop]
    exact ⟨⟨hne, hall, hn⟩, hlt⟩
  · rintro ⟨⟨hne, hall, hn⟩, hlt⟩
    refine ⟨Decimal.dropPlus value, ?_, hne, hall, hn, hlt⟩
    unfold Decimal.dropPlus
    split
    · exact .inr rfl
    · exact .inl rfl

-- ---------------------------------------------------------------------------
-- The values of a block
-- ---------------------------------------------------------------------------

/-- The values on the lines of a text that give a length. -/
def valuesOf (text : List Char) : List (List Char) := (splitLines text).filterMap lengthText?

/-- The values of a block, if it is a text. -/
def values? (block : Bytes) : Option (List (List Char)) := (Text.chars? block).map valuesOf

/-- The length on the last of some values, starting from `length`. -/
def scanValues (length : Option Nat) : List (List Char) → Except Fault (Option Nat)
  | [] => .ok length
  | value :: rest =>
    match length? value with
    | some n => scanValues (some n) rest
    | none => .error (.invalidLength (String.ofList value))

/-- A length that is missing or zero is none. -/
def conclude : Except Fault (Option Nat) → Except Fault Nat
  | .error fault => .error fault
  | .ok none => .error .missingLength
  | .ok (some 0) => .error .missingLength
  | .ok (some n) => .ok n

/-- Going through the lines is going through the values on them. -/
theorem scan_eq (length : Option Nat) (lines : List (List Char)) :
    scan length lines = scanValues length (lines.filterMap lengthText?) := by
  induction lines generalizing length with
  | nil => rfl
  | cons line rest ih =>
    rw [scan]
    cases hline : lengthText? line with
    | none => rw [List.filterMap_cons_none hline, ← ih]
    | some value =>
      rw [List.filterMap_cons_some hline, scanValues]
      cases hvalue : length? value with
      | none => simp only [hvalue]
      | some n => simpa only [hvalue] using ih (some n)

/-- That the lines are trimmed makes no difference to the values on them. -/
theorem filterMap_lines (text : List Char) : (lines text).filterMap lengthText? = valuesOf text := by
  have htrim : lengthText? ∘ Text.trim = lengthText? := funext lengthText?_trim
  rw [lines, List.filterMap_map, htrim, valuesOf]

/-- **A block comes to** what its values come to. -/
theorem lengthOf_eq (block : Bytes) :
    lengthOf block =
      match values? block with
      | none => .error .invalidHeader
      | some values => conclude (scanValues none values) := by
  rw [lengthOf, values?, Text.chars?]
  cases Text.decode? block with
  | none => rfl
  | some text =>
    simp only [Option.map_some, scan_eq, filterMap_lines]
    cases scanValues none (valuesOf text.toList) with
    | error fault => rfl
    | ok length => rcases length with _ | _ | n <;> rfl

/-- Blocks with the same values come to the same. -/
theorem lengthOf_congr {block block' : Bytes} (h : values? block = values? block') :
    lengthOf block = lengthOf block' := by
  rw [lengthOf_eq, lengthOf_eq, h]

-- ---------------------------------------------------------------------------
-- What the values come to
-- ---------------------------------------------------------------------------

section Settles

variable {lines values before : List (List Char)} {r : Except Fault Nat}

/-- Behind values that denote numbers the scan goes on. -/
theorem exists_scanValues_append (h : ∀ v ∈ before, ∃ n, Denotes v n) (length : Option Nat) :
    ∃ length', ∀ rest, scanValues length (before ++ rest) = scanValues length' rest := by
  induction before generalizing length with
  | nil => exact ⟨length, fun _ => rfl⟩
  | cons value before ih =>
    obtain ⟨n, hn⟩ := h value List.mem_cons_self
    obtain ⟨length', hrest⟩ := ih (fun v hv => h v (List.mem_cons_of_mem value hv)) (some n)
    refine ⟨length', fun rest => ?_⟩
    rw [List.cons_append, scanValues, denotes_iff.mp hn]
    exact hrest rest

/-- What the values settle is what going through them comes to. -/
theorem conclude_of_settles (h : Settles values r) : conclude (scanValues none values) = r := by
  cases h with
  | invalid hbefore hvalue =>
    obtain ⟨length, hscan⟩ := exists_scanValues_append hbefore none
    have hnone : length? _ = none :=
      Option.eq_none_iff_forall_ne_some.mpr fun n hn => hvalue n (denotes_iff.mpr hn)
    rw [hscan, scanValues, hnone]
    rfl
  | absent => rfl
  | zero hbefore hvalue =>
    obtain ⟨length, hscan⟩ := exists_scanValues_append hbefore none
    rw [hscan, scanValues, denotes_iff.mp hvalue]
    rfl
  | @length _ _ n hbefore hvalue hpos =>
    obtain ⟨length, hscan⟩ := exists_scanValues_append hbefore none
    obtain ⟨k, rfl⟩ := Nat.exists_eq_succ_of_ne_zero (Nat.ne_of_gt hpos)
    rw [hscan, scanValues, denotes_iff.mp hvalue]
    rfl

/-- All values denote numbers, or there is a first one that does not. -/
theorem denoting_cases (values : List (List Char)) :
    (∀ v ∈ values, ∃ n, Denotes v n) ∨
      ∃ before value after, values = before ++ value :: after ∧
        (∀ v ∈ before, ∃ n, Denotes v n) ∧ ∀ n, ¬ Denotes value n := by
  induction values with
  | nil => exact .inl nofun
  | cons value rest ih =>
    by_cases hvalue : ∃ n, Denotes value n
    · rcases ih with hall | ⟨before, bad, after, rfl, hbefore, hbad⟩
      · exact .inl (List.forall_mem_cons.mpr ⟨hvalue, hall⟩)
      · have hbefore' : ∀ v ∈ value :: before, ∃ n, Denotes v n :=
          List.forall_mem_cons.mpr ⟨hvalue, hbefore⟩
        exact .inr ⟨value :: before, bad, after, rfl, hbefore', hbad⟩
    · exact .inr ⟨[], value, rest, rfl, nofun, not_exists.mp hvalue⟩

/-- Any values settle something. -/
theorem exists_settles (values : List (List Char)) : ∃ r, Settles values r := by
  rcases denoting_cases values with hall | ⟨before, value, after, rfl, hbefore, hvalue⟩
  · rcases List.eq_nil_or_concat values with rfl | ⟨before, value, rfl⟩
    · exact ⟨_, .absent⟩
    · rw [List.concat_eq_append] at hall ⊢
      have hbefore : ∀ v ∈ before, ∃ n, Denotes v n := fun v hv => hall v (by simp [hv])
      obtain ⟨n, hn⟩ := hall value (by simp)
      rcases Nat.eq_zero_or_pos n with rfl | hpos
      · exact ⟨_, .zero hbefore hn⟩
      · exact ⟨_, .length hbefore hn hpos⟩
  · exact ⟨_, .invalid hbefore hvalue⟩

/-- The values on the lines, one for each line that gives one. -/
theorem values_iff : Values lines values ↔ lines.filterMap lengthText? = values := by
  constructor
  · intro h
    induction h with
    | nil => rfl
    | length hline _ ih => rw [List.filterMap_cons_some (givesLength_iff.mp hline), ih]
    | @other line _ _ hline _ ih =>
      have hnone : lengthText? line = none :=
        Option.eq_none_iff_forall_ne_some.mpr fun value hv => hline value (givesLength_iff.mpr hv)
      rw [List.filterMap_cons_none hnone, ih]
  · rintro rfl
    induction lines with
    | nil => exact .nil
    | cons line rest ih =>
      cases hline : lengthText? line with
      | none =>
        rw [List.filterMap_cons_none hline]
        refine .other (fun value hvalue => ?_) ih
        rw [givesLength_iff, hline] at hvalue
        cases hvalue
      | some value =>
        rw [List.filterMap_cons_some hline]
        exact .length (givesLength_iff.mpr hline) ih

/-- **What a block comes to** is right by the grammar. -/
theorem grammar_lengthOf (block : Bytes) : Grammar block (lengthOf block) := by
  cases hchars : Text.chars? block with
  | none =>
    have hlength : lengthOf block = .error .invalidHeader := by
      rw [lengthOf_eq, values?, hchars]
      rfl
    rw [hlength]
    refine .unreadable fun text htext => ?_
    rw [Text.chars?_eq_some_iff.mpr htext] at hchars
    cases hchars
  | some text =>
    obtain ⟨r, hr⟩ := exists_settles (valuesOf text)
    have hlength : lengthOf block = r := by
      rw [lengthOf_eq, values?, hchars]
      exact conclude_of_settles hr
    have hblock : Text.spell (lineEnd.intercalate (splitLines text)) = block := by
      rw [intercalate_splitLines, Text.chars?_eq_some_iff.mp hchars]
    rw [hlength]
    exact .settled hblock (splitLines_ne_nil text) (fun _ => isLine_of_mem_splitLines)
      (values_iff.mpr rfl) hr

theorem lengthOf_of_grammar {block : Bytes} (h : Grammar block r) : lengthOf block = r := by
  cases h with
  | unreadable hblock =>
    have hchars : Text.chars? block = none :=
      Option.eq_none_iff_forall_ne_some.mpr fun text h => hblock text (Text.chars?_eq_some_iff.mp h)
    rw [lengthOf_eq, values?, hchars]
    rfl
  | @settled lines values _ hblock hne hlines hvalues hsettles =>
    have hvalues' : values? block = some values := by
      rw [← hblock, values?, Text.chars?_spell, Option.map_some, valuesOf,
        splitLines_intercalate hne hlines, values_iff.mp hvalues]
    rw [lengthOf_eq, hvalues']
    exact conclude_of_settles hsettles

/-- **The length that a block gives** is the one that the grammar gives it. -/
theorem lengthOf_eq_iff {block : Bytes} : lengthOf block = r ↔ Grammar block r := by
  constructor
  · rintro rfl
    exact grammar_lengthOf block
  · exact lengthOf_of_grammar

end Settles

end Framing.Header
end EditorLink
