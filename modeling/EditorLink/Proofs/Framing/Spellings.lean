import EditorLink.Proofs.Framing.Grammar

/-!
# EditorLink — what does not matter in a header block

Lines that give no length, the case of letters in a name, and blanks around a line, a name or a value may be
put anywhere in a header block, whatever bytes it holds.

Blocks are bytes and not characters here, since the block around such a line may be no text at all. A block is joined
from pieces, each of which is a line if it holds no line end; characters in several bytes do not matter, as a line end
and a colon are bytes that stand for themselves wherever they stand. The reader looks at a block as a whole before it
parts it, so that one line which is no UTF-8 spoils it: this is why the values of a block are an `Option`, and why a
line may be put in place of another only if it is a text as well.

Blanks are those that trimming drops, which are not all characters that look blank. A line that is only blanks gives no
length, like one without a colon.

## Results

* `Other`, `Respelled` — lines that do not matter, and spellings of a line that do not differ;
* `values?_joined` — the values of a block, line by line;
* `values?_insert`, `values?_replace` — one line more, and another line in place of one;
* `values?_of_respelled` — another spelling of a line has the same values;
* `lengthOf_grammar` — the grammar holds for all bytes, and such changes never show.
-/

namespace EditorLink.Framing.Header

-- ---------------------------------------------------------------------------
-- Changes that do not matter
-- ---------------------------------------------------------------------------

/-- Byte strings with line ends between them. -/
def joined (pieces : List Bytes) : Bytes := (Text.spell lineEnd).intercalate pieces

/-- Bytes without a line end. -/
def Unbroken (line : Bytes) : Prop := ¬ Text.spell lineEnd <:+: line

instance : DecidablePred Unbroken := fun line =>
  inferInstanceAs (Decidable (¬ Text.spell lineEnd <:+: line))

/-- A line of text that gives no length. -/
def Other (line : Bytes) : Prop :=
  ∃ text, Text.spell text = line ∧ IsLine text ∧ ∀ value, ¬ GivesLength text value

/-- Blanks of which none is part of a line end. -/
def Blanks (cs : List Char) : Prop := ∀ c ∈ cs, Text.isBlank c = true ∧ c ≠ '\r' ∧ c ≠ '\n'

def Padding (bytes : Bytes) : Prop := ∃ blanks, Text.spell blanks = bytes ∧ Blanks blanks

/-- The case of letters of ASCII aside, the bytes are the same. -/
def SameLetters (bytes bytes' : Bytes) : Prop :=
  bytes.map Text.smallByte = bytes'.map Text.smallByte

instance : DecidableRel SameLetters := fun bytes bytes' =>
  inferInstanceAs (Decidable (bytes.map Text.smallByte = bytes'.map Text.smallByte))

/-- The byte of a colon. -/
def colon : UInt8 := 58

/-- Another spelling of a line: blanks around it, and if it has a colon, the name before its first colon
with letters of another case, blanks around the name and around the value. -/
inductive Respelled : Bytes → Bytes → Prop
  | line {before line after : Bytes} (hbefore : Padding before) (hafter : Padding after) :
    Respelled line (before ++ (line ++ after))
  | parts {name name' value before after before' after' : Bytes} (hname : colon ∉ name)
    (hletters : SameLetters name name') (hbefore : Padding before) (hafter : Padding after)
    (hbefore' : Padding before') (hafter' : Padding after') :
    Respelled (name ++ colon :: value)
      (before ++ (name' ++ after) ++ colon :: (before' ++ (value ++ after')))

-- ---------------------------------------------------------------------------
-- One line in a block
-- ---------------------------------------------------------------------------

/-- The values of two texts with a line end between them. -/
theorem valuesOf_append (front back : List Char) :
    valuesOf (front ++ (lineEnd ++ back)) = valuesOf front ++ valuesOf back := by
  rw [valuesOf, splitLines_append, List.filterMap_append, valuesOf, valuesOf]

/-- The value of one line, if it has one. -/
theorem valuesOf_of_isLine {line : List Char} (h : IsLine line) :
    valuesOf line = (lengthText? line).toList := by
  rw [valuesOf, splitLines_of_isLine h]
  cases hline : lengthText? line <;> simp [hline]

/-- A line end between bytes parts their values. -/
theorem values?_around (front back : Bytes) :
    values? (front ++ (Text.spell lineEnd ++ back)) =
      (values? front).bind fun values => (values? back).map (values ++ ·) := by
  rw [values?, values?, values?, lineEnd, Text.chars?_around]
  cases Text.chars? front with
  | none => rfl
  | some before =>
    cases Text.chars? back with
    | none => rfl
    | some behind => exact congrArg some (valuesOf_append before behind)

/-- The values of a piece, and those of what is behind it. -/
def prepend (piece : Bytes) (rest : Option (List (List Char))) : Option (List (List Char)) :=
  (values? piece).bind fun values => rest.map (values ++ ·)

/-- **Line by line**: a block has the values of its pieces, if all of them are texts. -/
theorem values?_joined (pieces : List Bytes) :
    values? (joined pieces) = pieces.foldr prepend (some []) := by
  induction pieces with
  | nil =>
    rw [joined, List.intercalate_nil, ← Text.spell_nil, values?, Text.chars?_spell, Option.map_some,
      valuesOf_of_isLine isLine_nil]
    rfl
  | cons piece rest ih =>
    cases rest with
    | nil =>
      rw [joined, List.intercalate_singleton, List.foldr_cons, List.foldr_nil, prepend]
      cases values? piece <;> simp
    | cons next rest =>
      rw [List.foldr_cons, ← ih, prepend, joined, List.intercalate_cons_cons, List.append_assoc,
        values?_around]
      rfl

/-- **One line more** that has no value changes nothing. -/
theorem values?_insert {line : Bytes} (h : values? line = some []) (before after : List Bytes) :
    values? (joined (before ++ line :: after)) = values? (joined (before ++ after)) := by
  have hline : ∀ rest, prepend line rest = rest := by
    intro rest
    rw [prepend, h]
    cases rest <;> rfl
  rw [values?_joined, values?_joined, List.foldr_append, List.foldr_append, List.foldr_cons, hline]

/-- **Another line** with the same values changes nothing. -/
theorem values?_replace {line line' : Bytes} (h : values? line' = values? line)
    (before after : List Bytes) :
    values? (joined (before ++ line' :: after)) = values? (joined (before ++ line :: after)) := by
  have hline : prepend line' = prepend line := by
    funext rest
    rw [prepend, h, prepend]
  rw [values?_joined, values?_joined, List.foldr_append, List.foldr_append, List.foldr_cons,
    List.foldr_cons, hline]

/-- A line that does not matter has no value. -/
theorem values?_of_other {line : Bytes} (h : Other line) : values? line = some [] := by
  obtain ⟨text, rfl, htext, hnone⟩ := h
  have hlength : lengthText? text = none :=
    Option.eq_none_iff_forall_ne_some.mpr fun value hv => hnone value (givesLength_iff.mpr hv)
  rw [values?, Text.chars?_spell, Option.map_some, valuesOf_of_isLine htext, hlength]
  rfl

-- ---------------------------------------------------------------------------
-- Other spellings
-- ---------------------------------------------------------------------------

/-- A character that comes before the letters is no small letter. -/
theorem toLower_eq_iff {c d : Char} (hd : d.toNat < 65) : c.toLower = d ↔ c = d := by
  rw [← Char.toNat_inj, ← Char.toNat_inj, Text.toNat_toLower]
  split <;> omega

/-- A line stays one in small letters. -/
theorem isLine_map_toLower {cs : List Char} : IsLine (cs.map Char.toLower) ↔ IsLine cs := by
  induction cs with
  | nil => rfl
  | cons c cs ih =>
    have hr : c.toLower = '\r' ↔ c = '\r' := toLower_eq_iff (by decide)
    have hn : (cs.map Char.toLower).head? = some '\n' ↔ cs.head? = some '\n' := by
      simp [List.head?_map, Option.map_eq_some_iff, toLower_eq_iff (d := '\n') (by decide)]
    rw [List.map_cons, isLine_cons_iff, isLine_cons_iff, ih, hr, hn]

theorem colon_mem_map_toLower {cs : List Char} : ':' ∈ cs.map Char.toLower ↔ ':' ∈ cs := by
  simp [List.mem_map, toLower_eq_iff (d := ':') (by decide)]

/-- What stands on either side of a colon are parts of the line. -/
theorem isLine_colon_iff {name rest : List Char} :
    IsLine (name ++ ':' :: rest) ↔ IsLine name ∧ IsLine rest := by
  rw [isLine_append_iff, isLine_cons_iff]
  simp

theorem Blanks.blank {cs : List Char} (h : Blanks cs) : ∀ c ∈ cs, Text.isBlank c = true :=
  fun c hc => (h c hc).1

theorem Blanks.isLine {cs : List Char} (h : Blanks cs) : IsLine cs := by
  rintro ⟨front, back, rfl⟩
  exact (h '\r' (by simp [lineEnd])).2.1 rfl

/-- A line with blanks around it is a line. -/
theorem Blanks.isLine_around {before after line : List Char} (hbefore : Blanks before)
    (hafter : Blanks after) (hline : IsLine line) : IsLine (before ++ (line ++ after)) := by
  rw [isLine_append_iff, isLine_append_iff]
  refine ⟨?_, hbefore.isLine, ?_, hline, hafter.isLine⟩
  · rintro ⟨hlast, -⟩
    exact (hbefore _ (List.mem_of_getLast? hlast)).2.1 rfl
  · rintro ⟨-, hhead⟩
    exact (hafter _ (List.mem_of_head? hhead)).2.2 rfl

/-- Bytes without a line end spell a line. -/
theorem isLine_of_unbroken {line : Bytes} {text : List Char} (h : Unbroken line)
    (htext : Text.chars? line = some text) : IsLine text := by
  rintro ⟨front, back, rfl⟩
  rw [Text.chars?_eq_some_iff, Text.spell_append, Text.spell_append] at htext
  exact h ⟨_, _, htext⟩

/-- Bytes without a colon spell a text without one. -/
theorem colon_not_mem_of_chars? {name : Bytes} {text : List Char} (h : colon ∉ name)
    (htext : Text.chars? name = some text) : ':' ∉ text := by
  intro hmem
  obtain ⟨front, back, rfl⟩ := List.append_of_mem hmem
  rw [Text.chars?_eq_some_iff, Text.spell_append, Text.spell_cons] at htext
  rw [← htext] at h
  exact h (List.mem_append_right _ (List.mem_append_left _ (by decide)))

/-- What stands on either side of a colon is a text for itself. -/
theorem chars?_colon (name value : Bytes) :
    Text.chars? (name ++ colon :: value) =
      (Text.chars? name).bind fun n => (Text.chars? value).map fun v => n ++ ':' :: v :=
  Text.chars?_around name value ':' []

/-- Blanks around bytes are blanks around their text. -/
theorem chars?_padding {before after : List Char} (bytes : Bytes) :
    Text.chars? (Text.spell before ++ (bytes ++ Text.spell after)) =
      (Text.chars? bytes).map fun text => before ++ (text ++ after) := by
  rw [Text.chars?_spell_append, Text.chars?_append_spell, Option.map_map]
  rfl

/-- The values of two lines are the same if the one is a text exactly when the other is, and then gives the
same length. -/
theorem values?_congr {line line' : Bytes}
    (hnone : Text.chars? line = none → Text.chars? line' = none)
    (hsome : ∀ text, Text.chars? line = some text → ∃ text', Text.chars? line' = some text' ∧
      valuesOf text' = valuesOf text) :
    values? line' = values? line := by
  rw [values?, values?]
  cases hchars : Text.chars? line with
  | none => rw [hnone hchars]
  | some text =>
    obtain ⟨text', htext', hvalues⟩ := hsome text hchars
    rw [htext', Option.map_some, Option.map_some, hvalues]

/-- **Blanks around a line** change nothing. -/
theorem values?_padding {before after line : Bytes} (hline : Unbroken line) (hbefore : Padding before)
    (hafter : Padding after) : values? (before ++ (line ++ after)) = values? line := by
  obtain ⟨before, rfl, hbefore⟩ := hbefore
  obtain ⟨after, rfl, hafter⟩ := hafter
  refine values?_congr ?_ ?_
  · intro hnone
    rw [chars?_padding, hnone]
    rfl
  · intro text htext
    have htext' := isLine_of_unbroken hline htext
    refine ⟨before ++ (text ++ after), by rw [chars?_padding, htext]; rfl, ?_⟩
    rw [valuesOf_of_isLine (hbefore.isLine_around hafter htext'), valuesOf_of_isLine htext',
      lengthText?_blanks hbefore.blank hafter.blank]

/-- Names that are the same but for their letters, each with blanks around, go with the same values. -/
theorem valuesOf_parts {name name' value before after before' after' : List Char}
    (hline : IsLine (name ++ ':' :: value)) (hname : ':' ∉ name) (hsame : SameName name' name)
    (hbefore : Blanks before) (hafter : Blanks after) (hbefore' : Blanks before')
    (hafter' : Blanks after') :
    valuesOf ((before ++ (name' ++ after)) ++ ':' :: (before' ++ (value ++ after'))) =
      valuesOf (name ++ ':' :: value) := by
  obtain ⟨hnameLine, hvalueLine⟩ := isLine_colon_iff.mp hline
  have hnameLine' : IsLine name' := by
    rw [← isLine_map_toLower, hsame, isLine_map_toLower]
    exact hnameLine
  have hname' : ':' ∉ before ++ (name' ++ after) := by
    have hcolon : ':' ∉ name' := by
      rw [← colon_mem_map_toLower, hsame, colon_mem_map_toLower]
      exact hname
    simp [not_colon_of_blank hbefore.blank, not_colon_of_blank hafter.blank, hcolon]
  have hline' := isLine_colon_iff.mpr ⟨hbefore.isLine_around hafter hnameLine',
    hbefore'.isLine_around hafter' hvalueLine⟩
  have hlower : (Text.trim name').map Char.toLower = (Text.trim name).map Char.toLower := by
    rw [← Text.trim_map_toLower, hsame, Text.trim_map_toLower]
  rw [valuesOf_of_isLine hline', valuesOf_of_isLine hline, lengthText?_of_colon hname',
    lengthText?_of_colon hname, Text.trim_blanks hbefore.blank hafter.blank,
    Text.trim_blanks hbefore'.blank hafter'.blank, hlower]

/-- The letters aside, the one name is a text exactly when the other is, and then the texts are the same. -/
theorem SameLetters.chars? {name name' : Bytes} (h : SameLetters name name') :
    (Text.chars? name').map (List.map Char.toLower) = (Text.chars? name).map (List.map Char.toLower) := by
  rw [← Text.chars?_map_smallByte, ← Text.chars?_map_smallByte, h]

/-- **The case of a name, and blanks around name and value** change nothing. -/
theorem values?_parts {name name' value before after before' after' : Bytes}
    (hline : Unbroken (name ++ colon :: value)) (hname : colon ∉ name)
    (hletters : SameLetters name name') (hbefore : Padding before) (hafter : Padding after)
    (hbefore' : Padding before') (hafter' : Padding after') :
    values? (before ++ (name' ++ after) ++ colon :: (before' ++ (value ++ after'))) =
      values? (name ++ colon :: value) := by
  obtain ⟨before, rfl, hbefore⟩ := hbefore
  obtain ⟨after, rfl, hafter⟩ := hafter
  obtain ⟨before', rfl, hbefore'⟩ := hbefore'
  obtain ⟨after', rfl, hafter'⟩ := hafter'
  have hsame := hletters.chars?
  refine values?_congr ?_ ?_
  · rw [chars?_colon, chars?_colon, chars?_padding, chars?_padding]
    cases hchars : Text.chars? name with
    | none =>
      rw [hchars, Option.map_none, Option.map_eq_none_iff] at hsame
      rw [hsame]
      exact fun _ => rfl
    | some n =>
      cases Text.chars? value with
      | none => cases Text.chars? name' <;> exact fun _ => rfl
      | some v => exact nofun
  · intro text htext
    have htext' := isLine_of_unbroken hline htext
    rw [chars?_colon, Option.bind_eq_some_iff] at htext
    obtain ⟨n, hn, htext⟩ := htext
    obtain ⟨v, hv, rfl⟩ := Option.map_eq_some_iff.mp htext
    rw [hn, Option.map_some, Option.map_eq_some_iff] at hsame
    obtain ⟨n', hn', hsame⟩ := hsame
    have hcolon := colon_not_mem_of_chars? hname hn
    refine ⟨_, ?_, valuesOf_parts htext' hcolon hsame hbefore hafter hbefore' hafter'⟩
    rw [chars?_colon, chars?_padding, chars?_padding, hn', hv]
    rfl

/-- **Another spelling of a line** has the same values. -/
theorem values?_of_respelled {line line' : Bytes} (hline : Unbroken line) (h : Respelled line line') :
    values? line' = values? line := by
  cases h with
  | line hbefore hafter => exact values?_padding hline hbefore hafter
  | parts hname hletters hbefore hafter hbefore' hafter' =>
    exact values?_parts hline hname hletters hbefore hafter hbefore' hafter'

/-- **Header blocks.** For all bytes the length that a block gives is the one of its grammar. A further line
that gives no length, wherever it stands, and another spelling of a line never change it. -/
theorem lengthOf_grammar :
    (∀ block r, lengthOf block = r ↔ Grammar block r) ∧
      (∀ before line after, Other line →
        lengthOf (joined (before ++ line :: after)) = lengthOf (joined (before ++ after))) ∧
      ∀ before line line' after, Unbroken line → Respelled line line' →
        lengthOf (joined (before ++ line' :: after)) = lengthOf (joined (before ++ line :: after)) := by
  refine ⟨fun block r => lengthOf_eq_iff, ?_, ?_⟩
  · intro before line after hline
    exact lengthOf_congr (values?_insert (values?_of_other hline) before after)
  · intro before line line' after hline h
    exact lengthOf_congr (values?_replace (values?_of_respelled hline h) before after)

theorem lengthOf_grammar_shouted :
    let line := Text.spell writtenName ++ colon :: Text.spell ['7']
    let shouted := Text.spell ['\t'] ++
        (Text.spell (writtenName.map Char.toUpper) ++ Text.spell [' ']) ++
      colon :: (Text.spell [' '] ++ (Text.spell ['7'] ++ Text.spell [' ']))
    Other (Text.spell ['x']) ∧ Unbroken line ∧ Respelled line shouted ∧
      lengthOf (joined [Text.spell ['x'], shouted]) = .ok 7 := by
  intro line shouted
  have hother : Other (Text.spell ['x']) := by
    refine ⟨['x'], rfl, by decide, fun value hvalue => ?_⟩
    cases givesLength_iff.mp hvalue
  have hline : Unbroken line := by decide +kernel
  have htab : Padding (Text.spell ['\t']) := ⟨['\t'], rfl, List.forall_mem_singleton.mpr (by decide)⟩
  have hblank : Padding (Text.spell [' ']) := ⟨[' '], rfl, List.forall_mem_singleton.mpr (by decide)⟩
  have hspelled : Respelled line shouted :=
    .parts (by decide +kernel) (by decide +kernel) htab hblank hblank hblank
  have hlength : GivesLength (writtenName ++ ':' :: ['7']) ['7'] :=
    ⟨writtenName, ['7'], rfl, by decide, rfl, rfl⟩
  have hvalues : Values [writtenName ++ ':' :: ['7']] ([] ++ [['7']]) := .length hlength .nil
  have hseven : Denotes ['7'] 7 :=
    ⟨['7'], .inl rfl, by decide, List.forall_mem_singleton.mpr rfl, rfl, by decide⟩
  have hblock : Text.spell (lineEnd.intercalate [writtenName ++ ':' :: ['7']]) = joined [line] := by
    decide +kernel
  refine ⟨hother, hline, hspelled, ?_⟩
  calc lengthOf (joined [Text.spell ['x'], shouted])
      = lengthOf (joined [shouted]) := lengthOf_grammar.2.1 [] _ [_] hother
    _ = lengthOf (joined [line]) := lengthOf_grammar.2.2 [] _ _ [] hline hspelled
    _ = .ok 7 := (lengthOf_grammar.1 _ _).mpr
        (.settled hblock (by simp) (by decide +kernel) hvalues (.length nofun hseven (by decide)))

end EditorLink.Framing.Header
