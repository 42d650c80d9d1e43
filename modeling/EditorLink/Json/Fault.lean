import EditorLink.Text.Utf8

/-!
# EditorLink — why a text is not JSON

A reader that gives up says why and leaves what it had not read. From the two lengths follows the
place: lines count from one, columns count the bytes read of the line.

* `Cause`, `Cause.text` — the reasons and their wording;
* `Fault` — a reason and the unread rest, as the reader sees it;
* `SyntaxFault` — a reason and a place, as everyone else sees it.
-/

namespace EditorLink.Json

inductive Cause where
  | endInValue
  | endInList
  | endInObject
  | endInString
  | expectedValue
  | expectedLiteral
  | expectedColon
  | expectedCommaOrListEnd
  | expectedCommaOrObjectEnd
  | trailingComma
  | trailingCharacters
  | keyNotString
  | invalidNumber
  | numberOutOfRange
  | invalidEscape
  | unpairedEscape
  | loneSurrogate
  | controlCharacter
  | invalidCodePoint
  | tooDeep
  deriving Repr, DecidableEq

def Cause.text : Cause → String
  | .endInValue => "EOF while parsing a value"
  | .endInList => "EOF while parsing a list"
  | .endInObject => "EOF while parsing an object"
  | .endInString => "EOF while parsing a string"
  | .expectedValue => "expected value"
  | .expectedLiteral => "expected ident"
  | .expectedColon => "expected `:`"
  | .expectedCommaOrListEnd => "expected `,` or `]`"
  | .expectedCommaOrObjectEnd => "expected `,` or `\x7d`"
  | .trailingComma => "trailing comma"
  | .trailingCharacters => "trailing characters"
  | .keyNotString => "key must be a string"
  | .invalidNumber => "invalid number"
  | .numberOutOfRange => "number out of range"
  | .invalidEscape => "invalid escape"
  | .unpairedEscape => "unexpected end of hex escape"
  | .loneSurrogate => "lone leading surrogate in hex escape"
  | .controlCharacter => "control character (\\u0000-\\u001F) found while parsing a string"
  | .invalidCodePoint => "invalid unicode code point"
  | .tooDeep => "recursion limit exceeded"

structure Fault where
  cause : Cause
  rest : Bytes
  deriving Repr, DecidableEq

/-- A fault found at the next byte before it was read: the place includes that byte. -/
def Fault.atNext (cause : Cause) (rest : Bytes) : Fault := ⟨cause, rest.drop 1⟩

/-- A place in a text. -/
structure Place where
  line : Nat
  column : Nat
  deriving Repr, DecidableEq

/-- The place reached by reading `read`. -/
def Place.after (read : Bytes) : Place :=
  read.foldl (fun p b => if b == 10 then ⟨p.line + 1, 0⟩ else ⟨p.line, p.column + 1⟩) ⟨1, 0⟩

/-- The place at which `rest` is what remains of `input`. -/
def Place.before (input rest : Bytes) : Place := Place.after (input.take (input.length - rest.length))

def Place.text (p : Place) : String := s!"line {p.line} column {p.column}"

/-- A reason and the place of it. -/
structure SyntaxFault where
  cause : Cause
  place : Place
  deriving Repr, DecidableEq

def SyntaxFault.message (f : SyntaxFault) : String := s!"{f.cause.text} at {f.place.text}"

/-- A fault met while reading `input`, with its place. -/
def Fault.within (input : Bytes) (f : Fault) : SyntaxFault := ⟨f.cause, Place.before input f.rest⟩

end EditorLink.Json
