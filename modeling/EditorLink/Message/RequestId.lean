import EditorLink.Json.Reader
import EditorLink.Json.Shape
import EditorLink.Json.Writer

/-!
# EditorLink — request ids

The sender of a request chooses its id, an integer of 64 bits or a string, and finds it again in the
response.
-/

namespace EditorLink.Message

open Json (Shape ShapeFault TextFault)

/-- The id of a request that was received. -/
inductive RequestId where
  | number (n : Int)
  | text (s : String)
  deriving Repr, DecidableEq

namespace RequestId

def ofJson? : Json → Option RequestId
  | .str s => some (.text s)
  | v => v.signed?.map .number

def toJson : RequestId → Json
  | .number n => .int n
  | .text s => .str s

/-- The id as messages show it. -/
def shown : RequestId → String
  | .number n => toString n
  | .text s => Text.quoted s

def shape : Shape RequestId := fun v =>
  match ofJson? v with
  | some id => .ok id
  | none => .error .noRequestId

def read (input : Bytes) : Except TextFault RequestId :=
  match Json.readFront input with
  | .error fault => .error (.malformed (fault.within input))
  | .ok (v, rest) =>
    match shape v with
    | .error fault => .error (.misshapen fault none)
    | .ok id =>
      match Json.skipBlanks rest with
      | [] => .ok id
      | rest => .error (.malformed ((Json.Fault.atNext .trailingCharacters rest).within input))

end RequestId
end EditorLink.Message
