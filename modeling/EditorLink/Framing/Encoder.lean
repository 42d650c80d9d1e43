import EditorLink.Json.Writer
import EditorLink.Text.Utf8

/-!
# EditorLink — a message as a frame

A frame is a header with the number of bytes of the body, an empty line, and the body.
-/

namespace EditorLink.Framing

/-- The header of a body of `length` bytes, with its end mark. -/
def headerOf (length : Nat) : Bytes := Text.utf8 s!"Content-Length: {length}\r\n\r\n"

def frameOf (body : Bytes) : Bytes := headerOf body.length ++ body

/-- The frame of a message, its members written in the order in which they stand. -/
def encode (message : Json) : Bytes := frameOf (Text.utf8 message.write)

end EditorLink.Framing
