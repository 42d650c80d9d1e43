import EditorLink.Decimal.Numeral
import EditorLink.Framing.Fault
import EditorLink.Text.Blank

/-!
# EditorLink — header blocks

A frame starts with a block of header lines, of which one gives the length of the body:

* `Header.lines` — the lines of a block, without the blanks at their ends;
* `Header.lengthText?` — the value of a line that names a length;
* `Header.lengthOf` — the length that a block gives: the last such line counts, and the first of them
  that holds no number is a fault.
-/

namespace EditorLink.Framing.Header

/-- Splits a text at its line ends, a carriage return and a line feed each. -/
def splitLines : List Char → List (List Char)
  | [] => [[]]
  | '\r' :: '\n' :: rest => [] :: splitLines rest
  | c :: rest =>
    match splitLines rest with
    | line :: lines => (c :: line) :: lines
    | [] => [[c]]

/-- The lines of a block, without the blanks at their ends. -/
def lines (block : List Char) : List (List Char) := (splitLines block).map Text.trim

/-- The name of the line that gives the length, in small letters: case does not matter. -/
def lengthName : List Char := "content-length".toList

/-- The parts of a line before and behind its first colon. -/
def splitColon : List Char → Option (List Char × List Char)
  | [] => none
  | c :: rest =>
    if c == ':' then some ([], rest)
    else (splitColon rest).map fun (name, value) => (c :: name, value)

/-- The value of a line that names a length. -/
def lengthText? (line : List Char) : Option (List Char) :=
  match splitColon line with
  | some (name, value) =>
    if (Text.trim name).map Char.toLower == lengthName then some (Text.trim value) else none
  | none => none

def length? (value : List Char) : Option Nat := Decimal.unsigned? UInt64.size value

/-- The length on the last line that names one, starting from `length`. -/
def scan (length : Option Nat) : List (List Char) → Except Fault (Option Nat)
  | [] => .ok length
  | line :: rest =>
    match lengthText? line with
    | none => scan length rest
    | some value =>
      match length? value with
      | some n => scan (some n) rest
      | none => .error (.invalidLength (String.ofList value))

/-- The length of the body that a header block announces. -/
def lengthOf (block : Bytes) : Except Fault Nat :=
  match Text.decode? block with
  | none => .error .invalidHeader
  | some text =>
    match scan none (lines text.toList) with
    | .error fault => .error fault
    | .ok none => .error .missingLength
    | .ok (some 0) => .error .missingLength
    | .ok (some n) => .ok n

end EditorLink.Framing.Header
