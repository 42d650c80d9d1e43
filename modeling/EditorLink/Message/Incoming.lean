import EditorLink.Message.ErrorObject
import EditorLink.Message.RequestId

/-!
# EditorLink — messages that come in

A decoded value is a response, a request, a notification, or none of them.

* `Incoming` — the three kinds of messages;
* `Malformed` — a value that is no message, and the id to answer to if it has one;
* `classify` — which of these a value is.

A `result` or an `error` makes a response, whatever else is there; an `id` tells a request from a
notification.
-/

namespace EditorLink.Message

inductive Incoming where
  /-- An answer to one of our requests. The id stays as it came, so that a bad one can be shown. -/
  | response (id : Json) (outcome : Except ErrorObject Json)
  | request (id : RequestId) (method : String) (params : Json)
  | notification (method : String) (params : Json)
  deriving Repr

/-- Why a value is no message. -/
inductive MessageFault where
  | notAnObject
  | methodNotString
  | invalidId
  | unclassifiable
  deriving Repr, DecidableEq

def MessageFault.message : MessageFault → String
  | .notAnObject => "message is not a JSON object"
  | .methodNotString => "'method' must be a string"
  | .invalidId => "'id' must be an integer or a string"
  | .unclassifiable => "message has neither 'method' nor 'result'/'error'"

/-- A value that is no message. -/
structure Malformed where
  /-- The id of the error response that the sender is owed. -/
  id : Option RequestId
  fault : MessageFault
  deriving Repr, DecidableEq

/-- Requests and notifications: the method has to be a string, params that are missing are null. -/
def classifyCall (id : Option RequestId) (members : Json.Members) : Except Malformed Incoming :=
  match members.lookup "method" with
  | some (.str method) =>
    let params := (members.lookup "params").getD .null
    match id with
    | some id => .ok (.request id method params)
    | none => .ok (.notification method params)
  | some _ => .error ⟨id, .methodNotString⟩
  | none => .error ⟨id, .unclassifiable⟩

/-- Which kind of message a value is. -/
def classify : Json → Except Malformed Incoming
  | .obj members =>
    let id := members.lookup "id"
    match members.lookup "result", members.lookup "error" with
    | some result, _ => .ok (.response (id.getD .null) (.ok result))
    | none, some error => .ok (.response (id.getD .null) (.error (.lenient error)))
    | none, none =>
      match id with
      | none => classifyCall none members
      | some raw =>
        match RequestId.ofJson? raw with
        | some id => classifyCall (some id) members
        | none => .error ⟨none, .invalidId⟩
  | _ => .error ⟨none, .notAnObject⟩

end EditorLink.Message
