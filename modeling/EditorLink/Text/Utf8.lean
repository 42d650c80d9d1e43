/-!
# EditorLink — text as bytes

Everything that crosses the wire is a list of bytes; everything the program reasons about is text.
This module joins the two:

* `utf8` / `decode?` — the UTF-8 form of a text, and the strict way back;
* `malformedAt` — where a byte list stops being UTF-8;
* `lossy` — a readable text for bytes that need not be UTF-8.
-/

namespace EditorLink

/-- What is read from or written to a stream. -/
abbrev Bytes := List UInt8

namespace Text

def utf8 (s : String) : Bytes := s.toUTF8.data.toList

/-- The text that a byte list spells, if it is well-formed UTF-8. -/
def decode? (bytes : Bytes) : Option String :=
  String.fromUTF8? ⟨bytes.toArray⟩

/-- A byte that continues a multi-byte character. -/
def isContinuation (b : UInt8) : Bool := 0x80 ≤ b && b ≤ 0xBF

/-- The second byte that may follow lead byte `b`, as a closed range. It excludes overlong forms,
surrogates and everything above the last code point. -/
def secondRange (b : UInt8) : UInt8 × UInt8 :=
  if b == 0xE0 then (0xA0, 0xBF)
  else if b == 0xED then (0x80, 0x9F)
  else if b == 0xF0 then (0x90, 0xBF)
  else if b == 0xF4 then (0x80, 0x8F)
  else (0x80, 0xBF)

/-- How many bytes the character led by `b` takes; zero if no character starts so. -/
def width (b : UInt8) : Nat :=
  if b < 0x80 then 1
  else if b < 0xC2 then 0
  else if b < 0xE0 then 2
  else if b < 0xF0 then 3
  else if b < 0xF5 then 4
  else 0

/-- The first character of a byte list as a number of bytes: `(n, true)` for a whole character of `n`
bytes, `(n, false)` for a malformed start that spoils `n` bytes. -/
def leading : Bytes → Nat × Bool
  | [] => (0, true)
  | b :: rest =>
    let w := width b
    if w == 1 then (1, true)
    else if w == 0 then (1, false)
    else
      let (lo, hi) := secondRange b
      match rest with
      | c :: rest =>
        if c < lo || hi < c then (1, false)
        else
          let more := (rest.take (w - 2)).takeWhile isContinuation
          if more.length == w - 2 then (w, true) else (2 + more.length, false)
      | [] => (1, false)

/-- The index of the first byte that is not part of a whole character, counted from `base`. -/
def malformedFrom : (fuel base : Nat) → Bytes → Option Nat
  | 0, _, _ => none
  | _ + 1, _, [] => none
  | fuel + 1, base, bytes =>
    match leading bytes with
    | (n, true) => malformedFrom fuel (base + n) (bytes.drop n)
    | (_, false) => some base

def malformedAt (bytes : Bytes) : Option Nat := malformedFrom bytes.length 0 bytes

/-- The mark that stands for bytes that spell no character. -/
def replacement : Char := '\uFFFD'

/-- Decodes what can be decoded and puts one mark for each malformed start. -/
def lossyFrom : (fuel : Nat) → String → Bytes → String
  | 0, shown, _ => shown
  | _ + 1, shown, [] => shown
  | fuel + 1, shown, bytes =>
    match leading bytes with
    | (n, true) => lossyFrom fuel (shown ++ (decode? (bytes.take n)).getD "") (bytes.drop n)
    | (n, false) => lossyFrom fuel (shown.push replacement) (bytes.drop n)

/-- A readable text for any bytes: well-formed UTF-8 is shown as it is. -/
def lossy (bytes : Bytes) : String :=
  match decode? bytes with
  | some s => s
  | none => lossyFrom bytes.length "" bytes

end Text
end EditorLink
