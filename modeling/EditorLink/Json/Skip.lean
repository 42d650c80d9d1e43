import EditorLink.Json.Reader

/-!
# EditorLink — passing over JSON

A value that nobody wants is passed over and not read. What is open is kept on a list, so that there is no
limit to its depth. Less is asked of such a value than of one that is read:

* a string may hold bytes that are not UTF-8, and escapes that spell no character;
* a number may be as big as it likes;
* a comma asks for a further item or member, whatever comes instead.
-/

namespace EditorLink.Json

inductive Enclosure where
  | list
  | object
  deriving Repr, DecidableEq

def Enclosure.closing : Enclosure → UInt8
  | .list => 93
  | .object => 125

/-- What is wrong with a text that ends within an enclosure. -/
def Enclosure.endCause : Enclosure → Cause
  | .list => .endInList
  | .object => .endInObject

/-- What is wrong with a byte behind an item or a member. -/
def Enclosure.commaCause : Enclosure → Cause
  | .list => .expectedCommaOrListEnd
  | .object => .expectedCommaOrObjectEnd

-- ---------------------------------------------------------------------------
-- Strings and numbers
-- ---------------------------------------------------------------------------

/-- Passes over a string behind its opening quote. -/
def skipString : Bytes → Except Fault Bytes
  | [] => .error ⟨.endInString, []⟩
  | 92 :: 117 :: a :: b :: c :: d :: rest =>
    if (hexNumber? [a, b, c, d]).isSome then skipString rest else .error ⟨.invalidEscape, rest⟩
  | 92 :: 117 :: _ => .error ⟨.endInString, []⟩
  | 92 :: b :: rest =>
    if (escape? b).isSome then skipString rest else .error ⟨.invalidEscape, rest⟩
  | 92 :: [] => .error ⟨.endInString, []⟩
  | b :: rest =>
    if b == 34 then .ok rest
    else if b < 32 then .error ⟨.controlCharacter, b :: rest⟩
    else skipString rest

def skipExponent (input : Bytes) : Except Fault Bytes :=
  let digits := match input with
    | 43 :: rest => rest
    | 45 :: rest => rest
    | rest => rest
  if digitNext digits then .ok (digits.dropWhile isDigit) else .error (.atNext .invalidNumber digits)

def skipScale : Bytes → Except Fault Bytes
  | 101 :: rest => skipExponent rest
  | 69 :: rest => skipExponent rest
  | rest => .ok rest

def skipTail : Bytes → Except Fault Bytes
  | 46 :: rest =>
    if digitNext rest then skipScale (rest.dropWhile isDigit) else .error (.atNext .invalidNumber rest)
  | rest => skipScale rest

def skipNumber (input : Bytes) : Except Fault Bytes :=
  match input with
  | 48 :: rest => if digitNext rest then .error (.atNext .invalidNumber rest) else skipTail rest
  | input =>
    if digitNext input then skipTail (input.dropWhile isDigit) else .error (.atNext .invalidNumber input)

-- ---------------------------------------------------------------------------
-- Values
-- ---------------------------------------------------------------------------

def skipKey (input : Bytes) : Except Fault Bytes :=
  match skipBlanks input with
  | [] => .error ⟨.endInObject, []⟩
  | b :: rest =>
    if b == 34 then
      match skipString rest with
      | .error fault => .error fault
      | .ok rest =>
        match skipBlanks rest with
        | [] => .error ⟨.endInObject, []⟩
        | b :: rest => if b == 58 then .ok rest else .error ⟨.expectedColon, rest⟩
    else .error ⟨.keyNotString, rest⟩

/-- Goes to the value of the next item or member. -/
def skipToValue (enclosure : Enclosure) (input : Bytes) : Except Fault Bytes :=
  match enclosure with
  | .list => .ok input
  | .object => skipKey input

mutual

/-- Passes over a value and what follows it in the enclosures around it, the innermost first. `fuel` bounds
the calls, and twice the length of the input, and two, is always enough. -/
def skipValue (fuel : Nat) (around : List Enclosure) (input : Bytes) : Except Fault Bytes :=
  match fuel with
  | 0 => .error ⟨.endInValue, []⟩
  | fuel + 1 =>
    let scalar (read : Except Fault Bytes) : Except Fault Bytes :=
      match read with
      | .error fault => .error fault
      | .ok rest => skipRest fuel around true rest
    match skipBlanks input with
    | [] => .error ⟨.endInValue, []⟩
    | b :: rest =>
      if b == 110 then scalar (readLiteral [117, 108, 108] rest)
      else if b == 116 then scalar (readLiteral [114, 117, 101] rest)
      else if b == 102 then scalar (readLiteral [97, 108, 115, 101] rest)
      else if b == 34 then scalar (skipString rest)
      else if b == 45 then scalar (skipNumber rest)
      else if isDigit b then scalar (skipNumber (b :: rest))
      else if b == 91 then skipRest fuel (.list :: around) false rest
      else if b == 123 then skipRest fuel (.object :: around) false rest
      else .error ⟨.expectedValue, rest⟩

/-- Passes over what is left of the enclosures around a place; `behind` tells that it is behind an item or a
member, and not behind the opening bracket. -/
def skipRest (fuel : Nat) (around : List Enclosure) (behind : Bool) (input : Bytes) :
    Except Fault Bytes :=
  match fuel, around with
  | _, [] => .ok input
  | 0, enclosure :: _ => .error ⟨enclosure.endCause, []⟩
  | fuel + 1, enclosure :: outer =>
    let next (rest : Bytes) : Except Fault Bytes :=
      match skipToValue enclosure rest with
      | .error fault => .error fault
      | .ok rest => skipValue fuel around rest
    match skipBlanks input with
    | [] => .error ⟨enclosure.endCause, []⟩
    | b :: rest =>
      if b == enclosure.closing then skipRest fuel outer true rest
      else if !behind then next (b :: rest)
      else if b == 44 then next rest
      else .error ⟨enclosure.commaCause, rest⟩

end

/-- Passes over the value at the front of a text. -/
def skip (input : Bytes) : Except Fault Bytes := skipValue (2 * input.length + 2) [] input

end EditorLink.Json
