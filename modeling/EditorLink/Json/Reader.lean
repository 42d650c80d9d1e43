import EditorLink.Json.Fault
import EditorLink.Json.Value

/-!
# EditorLink — reading JSON

Each reader takes the unread bytes and answers with what it read and the rest, or with a fault.

* `readString` — the rest of a string behind its opening quote, one byte at a time;
* `readNumber` — a number behind its sign;
* `readValue` — a value, counting down the arrays and objects that may still be opened;
* `read` — a whole text.

Objects come out with their members in key order and the last of equal keys.
-/

namespace EditorLink.Json

/-- The blanks allowed between tokens. -/
def isBlank (b : UInt8) : Bool := b == 32 || b == 10 || b == 13 || b == 9

def skipBlanks (input : Bytes) : Bytes := input.dropWhile isBlank

def isDigit (b : UInt8) : Bool := 48 ≤ b && b ≤ 57

def digitNext : Bytes → Bool
  | b :: _ => isDigit b
  | [] => false

/-- Reads the remaining letters of a literal. -/
def readLiteral : (letters : List UInt8) → Bytes → Except Fault Bytes
  | [], rest => .ok rest
  | _ :: _, [] => .error ⟨.endInValue, []⟩
  | l :: letters, b :: rest =>
    if b == l then readLiteral letters rest else .error ⟨.expectedLiteral, rest⟩

-- ---------------------------------------------------------------------------
-- Strings
-- ---------------------------------------------------------------------------

/-- The value of a digit of base sixteen. -/
def hexValue? (b : UInt8) : Option Nat :=
  if 48 ≤ b && b ≤ 57 then some (b.toNat - 48)
  else if 97 ≤ b && b ≤ 102 then some (b.toNat - 87)
  else if 65 ≤ b && b ≤ 70 then some (b.toNat - 55)
  else none

/-- The number that four digits of base sixteen spell. -/
def hexNumber? (digits : List UInt8) : Option Nat :=
  digits.foldl (fun n b => do return (← n) * 16 + (← hexValue? b)) (some 0)

/-- The byte that a letter behind a backslash stands for. -/
def escape? (b : UInt8) : Option UInt8 :=
  if b == 34 || b == 92 || b == 47 then some b
  else if b == 98 then some 8
  else if b == 102 then some 12
  else if b == 110 then some 10
  else if b == 114 then some 13
  else if b == 116 then some 9
  else none

/-- Where the reader of a string stands. -/
inductive InString where
  /-- Between characters. -/
  | plain
  /-- Behind a backslash. -/
  | escape
  /-- Behind a backslash and a `u`, with the digits so far, last first; after a leading surrogate `high`. -/
  | code (high : Option Nat) (digits : List UInt8)
  /-- Behind a leading surrogate: a backslash has to follow. -/
  | pairSlash (high : Nat)
  /-- Behind a leading surrogate and a backslash: a `u` has to follow. -/
  | pairLetter (high : Nat)

/-- What four digits behind a backslash and a `u` lead to: bytes and the next place, or a reason to stop. -/
def codeUnit (high : Option Nat) (n : Nat) : Except Cause (List UInt8 × InString) :=
  match high with
  | none =>
    if 0xDC00 ≤ n ∧ n ≤ 0xDFFF then .error .loneSurrogate
    else if 0xD800 ≤ n ∧ n ≤ 0xDBFF then .ok ([], .pairSlash n)
    else .ok (String.utf8EncodeChar (Char.ofNat n), .plain)
  | some h =>
    if n < 0xDC00 ∨ 0xDFFF < n then .error .loneSurrogate
    else
      .ok (String.utf8EncodeChar (Char.ofNat ((h - 0xD800) * 0x400 + (n - 0xDC00) + 0x10000)), .plain)

/-- Reads the bytes of a string up to its closing quote. `done` holds what was read, last first. -/
def readBytes (place : InString) (done : List UInt8) : Bytes → Except Fault (Bytes × Bytes)
  | [] => .error ⟨.endInString, []⟩
  | b :: rest =>
    match place with
    | .plain =>
      -- a quote ends the string, a backslash starts an escape
      if b == 34 then .ok (done.reverse, rest)
      else if b == 92 then readBytes .escape done rest
      else if b < 32 then .error ⟨.controlCharacter, rest⟩
      else readBytes .plain (b :: done) rest
    | .escape =>
      -- a `u` announces four digits
      if b == 117 then readBytes (.code none []) done rest
      else match escape? b with
        | some c => readBytes .plain (c :: done) rest
        | none => .error ⟨.invalidEscape, rest⟩
    | .code high digits =>
      if digits.length < 3 then readBytes (.code high (b :: digits)) done rest
      else match hexNumber? (b :: digits).reverse with
        | none => .error ⟨.invalidEscape, rest⟩
        | some n => match codeUnit high n with
          | .error cause => .error ⟨cause, rest⟩
          | .ok (bytes, place) => readBytes place (bytes.reverse ++ done) rest
    | .pairSlash high =>
      if b == 92 then readBytes (.pairLetter high) done rest else .error ⟨.unpairedEscape, rest⟩
    | .pairLetter high =>
      if b == 117 then readBytes (.code (some high) []) done rest else .error ⟨.unpairedEscape, rest⟩

/-- Reads a string behind its opening quote. Its bytes have to be UTF-8. -/
def readString (input : Bytes) : Except Fault (String × Bytes) :=
  match readBytes .plain [] input with
  | .error fault => .error fault
  | .ok (bytes, rest) =>
    match Text.decode? bytes with
    | some s => .ok (s, rest)
    | none =>
      -- escapes spell whole characters, so the first bad byte is the same before and after they are read
      .error (Fault.atNext .invalidCodePoint (input.drop ((Text.malformedAt input).getD 0)))

-- ---------------------------------------------------------------------------
-- Numbers
-- ---------------------------------------------------------------------------

def maxSignificand : Nat := UInt64.size - 1

def maxExponent : Nat := 2147483647

/-- Gathers digits into `n` as long as it stays at most `limit`; answers with the number, how many
digits were taken, and the rest, which starts with a digit exactly if that one was too much. -/
def gather (limit n taken : Nat) : Bytes → Nat × Nat × Bytes
  | [] => (n, taken, [])
  | b :: rest =>
    if isDigit b && n * 10 + (b.toNat - 48) ≤ limit then
      gather limit (n * 10 + (b.toNat - 48)) (taken + 1) rest
    else (n, taken, b :: rest)

/-- The double of the parts of a number. -/
def doubleOf (negative : Bool) (significand : Nat) (e : Int) (rest : Bytes) :
    Except Fault (Json × Bytes) :=
  match Double.ofParts? negative significand e with
  | some d => .ok (.double d, rest)
  | none => .error ⟨.numberOutOfRange, rest⟩

/-- Reads an exponent behind its `e`. -/
def readExponent (negative : Bool) (significand : Nat) (start : Int) (input : Bytes) :
    Except Fault (Json × Bytes) :=
  let (down, input) : Bool × Bytes := match input with
    | 43 :: rest => (false, rest)
    | 45 :: rest => (true, rest)
    | rest => (false, rest)
  match input with
  | [] => .error ⟨.endInValue, []⟩
  | b :: rest =>
    if !isDigit b then .error ⟨.invalidNumber, rest⟩
    else
      let (e, _, rest) := gather maxExponent (b.toNat - 48) 0 rest
      if digitNext rest then
        -- beyond any exponent that counts: infinite, or as small as nothing
        if significand != 0 && !down then .error ⟨.numberOutOfRange, rest.drop 1⟩
        else doubleOf negative 0 0 (rest.dropWhile isDigit)
      else doubleOf negative significand (if down then start - e else start + e) rest

/-- Reads what may follow the digits of a number that is a double: an exponent or nothing. -/
def readScale (negative : Bool) (significand : Nat) (e : Int) (input : Bytes) :
    Except Fault (Json × Bytes) :=
  match input with
  | 101 :: rest => readExponent negative significand e rest
  | 69 :: rest => readExponent negative significand e rest
  | rest => doubleOf negative significand e rest

/-- Reads a fraction behind its point. Digits that do not fit the significand are dropped. -/
def readFraction (negative : Bool) (significand : Nat) (e : Int) (input : Bytes) :
    Except Fault (Json × Bytes) :=
  let (significand, taken, rest) := gather maxSignificand significand 0 input
  if digitNext rest then readScale negative significand (e - taken) (rest.dropWhile isDigit)
  else if taken == 0 then
    .error (Fault.atNext (if rest.isEmpty then .endInValue else .invalidNumber) rest)
  else readScale negative significand (e - taken) rest

/-- Reads what may follow the whole digits of a number. -/
def readTail (negative : Bool) (significand : Nat) (input : Bytes) : Except Fault (Json × Bytes) :=
  match input with
  | 46 :: rest => readFraction negative significand 0 rest
  | 101 :: rest => readExponent negative significand 0 rest
  | 69 :: rest => readExponent negative significand 0 rest
  | rest =>
    -- a negative number that no integer of 64 bits is, zero among them, becomes a double
    if !negative then .ok (.int significand, rest)
    else if 0 < significand ∧ significand ≤ signedBound then .ok (.int (-significand), rest)
    else doubleOf true significand 0 rest

def readNumber (negative : Bool) (input : Bytes) : Except Fault (Json × Bytes) :=
  match input with
  | [] => .error ⟨.endInValue, []⟩
  | b :: rest =>
    if b == 48 then
      if digitNext rest then .error (Fault.atNext .invalidNumber rest) else readTail negative 0 rest
    else if isDigit b then
      let (significand, _, rest) := gather maxSignificand (b.toNat - 48) 0 rest
      if digitNext rest then
        let long := rest.takeWhile isDigit
        match rest.dropWhile isDigit with
        | 46 :: rest => readFraction negative significand long.length rest
        | rest => readScale negative significand long.length rest
      else readTail negative significand rest
    else .error ⟨.invalidNumber, rest⟩

-- ---------------------------------------------------------------------------
-- Values
-- ---------------------------------------------------------------------------

/-- How many arrays and objects may be open at once. -/
def maxDepth : Nat := 127

mutual

/-- Reads a value. `room` is how many more arrays and objects may be opened; `fuel` bounds the calls,
and twice the length of the input, and two, is always enough. -/
def readValue (fuel room : Nat) (input : Bytes) : Except Fault (Json × Bytes) :=
  match fuel with
  | 0 => .error ⟨.endInValue, []⟩
  | fuel + 1 =>
    match skipBlanks input with
    | [] => .error ⟨.endInValue, []⟩
    | b :: rest =>
      -- the first byte decides: a letter of a literal, a quote, a sign, a digit, a bracket, a brace
      if b == 110 then return (.null, ← readLiteral [117, 108, 108] rest)
      else if b == 116 then return (.bool true, ← readLiteral [114, 117, 101] rest)
      else if b == 102 then return (.bool false, ← readLiteral [97, 108, 115, 101] rest)
      else if b == 34 then return (← readString rest).map .str id
      else if b == 45 then readNumber true rest
      else if isDigit b then readNumber false (b :: rest)
      else if b == 91 then
        match room with
        | 0 => .error ⟨.tooDeep, rest⟩
        | room + 1 => readItems fuel room none rest
      else if b == 123 then
        match room with
        | 0 => .error ⟨.tooDeep, rest⟩
        | room + 1 => readMembers fuel room none rest
      else .error ⟨.expectedValue, rest⟩

/-- Reads the items of an array up to its closing bracket. `done` holds those read, last first; it is
`none` behind the opening bracket. -/
def readItems (fuel room : Nat) (done : Option (List Json)) (input : Bytes) :
    Except Fault (Json × Bytes) :=
  match fuel with
  | 0 => .error ⟨.endInList, []⟩
  | fuel + 1 =>
    match skipBlanks input, done with
    | [], _ => .error ⟨.endInList, []⟩
    | b :: rest, none =>
      if b == 93 then .ok (.arr [], rest)
      else match readValue fuel room (b :: rest) with
        | .error fault => .error fault
        | .ok (v, rest) => readItems fuel room (some [v]) rest
    | b :: rest, some items =>
      if b == 93 then .ok (.arr items.reverse, rest)
      else if b == 44 then
        -- behind a comma an item has to follow
        match skipBlanks rest with
        | [] => .error ⟨.endInValue, []⟩
        | c :: rest =>
          if c == 93 then .error ⟨.trailingComma, rest⟩
          else match readValue fuel room (c :: rest) with
            | .error fault => .error fault
            | .ok (v, rest) => readItems fuel room (some (v :: items)) rest
      else .error ⟨.expectedCommaOrListEnd, rest⟩

/-- Reads the members of an object up to its closing brace. `done` holds those read, in key order; it
is `none` behind the opening brace. -/
def readMembers (fuel room : Nat) (done : Option Members) (input : Bytes) :
    Except Fault (Json × Bytes) :=
  match fuel with
  | 0 => .error ⟨.endInObject, []⟩
  | fuel + 1 =>
    match skipBlanks input, done with
    | [], _ => .error ⟨.endInObject, []⟩
    | b :: rest, none =>
      if b == 125 then .ok (.obj [], rest)
      else if b == 34 then readMember fuel room [] rest
      else .error ⟨.keyNotString, rest⟩
    | b :: rest, some members =>
      if b == 125 then .ok (.obj members, rest)
      else if b == 44 then
        -- behind a comma a key has to follow
        match skipBlanks rest with
        | [] => .error ⟨.endInValue, []⟩
        | c :: rest =>
          if c == 34 then readMember fuel room members rest
          else if c == 125 then .error ⟨.trailingComma, rest⟩
          else .error ⟨.keyNotString, rest⟩
      else .error ⟨.expectedCommaOrObjectEnd, rest⟩

/-- Reads a member behind the opening quote of its key, and the members that follow. -/
def readMember (fuel room : Nat) (members : Members) (input : Bytes) :
    Except Fault (Json × Bytes) :=
  match fuel with
  | 0 => .error ⟨.endInObject, []⟩
  | fuel + 1 =>
    match readString input with
    | .error fault => .error fault
    | .ok (key, rest) =>
      match skipBlanks rest with
      | [] => .error ⟨.endInObject, []⟩
      | b :: rest =>
        if b == 58 then
          match readValue fuel room rest with
          | .error fault => .error fault
          | .ok (v, rest) => readMembers fuel room (some (put key v members)) rest
        else .error ⟨.expectedColon, rest⟩

end

def readFront (input : Bytes) : Except Fault (Json × Bytes) :=
  readValue (2 * input.length + 2) maxDepth input

/-- Reads a whole text: one value, blanks around it. -/
def read (input : Bytes) : Except SyntaxFault Json :=
  match readFront input with
  | .error fault => .error (fault.within input)
  | .ok (v, rest) =>
    match skipBlanks rest with
    | [] => .ok v
    | rest => .error ((Fault.atNext .trailingCharacters rest).within input)

end EditorLink.Json
