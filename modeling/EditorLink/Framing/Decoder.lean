import EditorLink.Framing.Header
import EditorLink.Json.Reader

/-!
# EditorLink — frames out of a stream of bytes

A `Decoder` gathers the bytes of a stream and takes frames off its front. It waits either for the end
of a header block or for the bytes of a body whose length is known.

* `Decoder.extend` — more bytes have come;
* `Decoder.decode` — the next frame, nothing if bytes are missing, or a fault;
* `Decoder.finish` — whether the stream may end here.

Bytes of a body are never searched for headers; a body that is not JSON is taken off like any other.
-/

namespace EditorLink.Framing

/-- The longest header block that is accepted, its end mark not counted. -/
def maxHeaderBytes : Nat := 8192

/-- The longest body that is accepted unless a configuration says otherwise. -/
def defaultMaxFrameBytes : Nat := 4 * 1024 * 1024

/-- What a decoder waits for. -/
inductive Awaiting where
  | header
  | body (length : Nat)
  deriving Repr, DecidableEq

/-- The bytes that are left of a stream, and what is expected next. -/
structure Decoder where
  buffer : Bytes := []
  awaiting : Awaiting := .header
  maxFrameBytes : Nat := defaultMaxFrameBytes
  deriving Repr, DecidableEq

def isLineBreak (b : UInt8) : Bool := b == 13 || b == 10

/-- Where the first end mark of a header block starts, counted from `index`. -/
def endMarkFrom (index : Nat) : Bytes → Option Nat
  | 13 :: 10 :: 13 :: 10 :: _ => some index
  | _ :: rest => endMarkFrom (index + 1) rest
  | [] => none

def endMark? (bytes : Bytes) : Option Nat := endMarkFrom 0 bytes

/-- A blank of a stream that may end: space, tab, line feed, form feed, carriage return. -/
def isBlankByte (b : UInt8) : Bool := b == 32 || b == 9 || b == 10 || b == 12 || b == 13

namespace Decoder

def withLimit (limit : Nat) : Decoder := { maxFrameBytes := limit }

def extend (d : Decoder) (bytes : Bytes) : Decoder := { d with buffer := d.buffer ++ bytes }

def buffered (d : Decoder) : Nat := d.buffer.length

/-- Drops the line breaks that may stand between frames. -/
def skipLineBreaks (d : Decoder) : Decoder := { d with buffer := d.buffer.dropWhile isLineBreak }

/-- Takes the header block off the front. `false` says that its end has not come yet. -/
def decodeHeader (d : Decoder) : Except Fault Bool × Decoder :=
  let d := d.skipLineBreaks
  match endMark? d.buffer with
  | none =>
    -- an end mark that has come in part counts as header bytes
    if maxHeaderBytes < d.buffered then (.error (.headerTooLarge maxHeaderBytes), d)
    else (.ok false, d)
  | some stop =>
    if maxHeaderBytes < stop then (.error (.headerTooLarge maxHeaderBytes), d)
    else
      match Header.lengthOf (d.buffer.take stop) with
      | .error fault => (.error fault, d)
      | .ok length =>
        -- the block stays where it is unless its body is accepted
        if d.maxFrameBytes < length then (.error (.frameTooLarge length d.maxFrameBytes), d)
        else (.ok true, { d with buffer := d.buffer.drop (stop + 4), awaiting := .body length })

def parseBody (body : Bytes) : Except Fault Json :=
  match Json.read body with
  | .ok v => .ok v
  | .error fault => .error (.invalidBody (.malformed fault))

/-- Takes a body of `length` bytes off the front. -/
def decodeBody (d : Decoder) (length : Nat) : Except Fault (Option Json) × Decoder :=
  if d.buffered < length then (.ok none, d)
  else
    ((parseBody (d.buffer.take length)).map some,
      { d with buffer := d.buffer.drop length, awaiting := .header })

/-- The next frame: `none` says that bytes are missing. -/
def decode (d : Decoder) : Except Fault (Option Json) × Decoder :=
  match d.awaiting with
  | .body length => d.decodeBody length
  | .header =>
    match d.decodeHeader with
    | (.error fault, d) => (.error fault, d)
    | (.ok false, d) => (.ok none, d)
    | (.ok true, d) =>
      match d.awaiting with
      | .body length => d.decodeBody length
      | .header => (.ok none, d)

/-- Whether the stream may end here: between frames, with nothing but blanks left. -/
def finish (d : Decoder) : Except Fault Unit :=
  match d.awaiting with
  | .body _ => .error .unexpectedEnd
  | .header => if d.buffer.all isBlankByte then .ok () else .error .unexpectedEnd

end Decoder
end EditorLink.Framing
