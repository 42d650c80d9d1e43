import EditorLink.Json.Shape
import EditorLink.Text.Quoted

/-!
# EditorLink — why a stream of frames ends

A fault of framing leaves the reader without knowing where the next message starts. The wording of
each is fixed here.
-/

namespace EditorLink.Framing

/-- A fault met while reading or writing frames. -/
inductive Fault where
  | missingLength
  /-- A length that is no number of 64 bits. -/
  | invalidLength (value : String)
  /-- A body longer than is accepted. -/
  | frameTooLarge (length limit : Nat)
  /-- A header block longer than is accepted. -/
  | headerTooLarge (limit : Nat)
  | invalidHeader
  /-- The stream ended inside a frame. -/
  | unexpectedEnd
  | invalidBody (fault : Json.TextFault)
  /-- A message that could not be written as JSON. -/
  | unwritable (fault : Json.TextFault)
  | stream (reason : String)
  deriving Repr, DecidableEq

def Fault.message : Fault → String
  | .missingLength => "missing or zero Content-Length header"
  | .invalidLength value => s!"invalid Content-Length value: {Text.quoted value}"
  | .frameTooLarge length limit => s!"Content-Length {length} exceeds maximum {limit}"
  | .headerTooLarge limit => s!"header block exceeds {limit} bytes"
  | .invalidHeader => "header block is not valid UTF-8"
  | .unexpectedEnd => "stream ended in the middle of a frame"
  | .invalidBody fault => s!"frame body is not valid JSON: {fault.message}"
  | .unwritable fault => s!"serializing frame body: {fault.message}"
  | .stream reason => s!"transport I/O: {reason}"

end EditorLink.Framing
