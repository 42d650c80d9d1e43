import EditorLink.Message.ErrorObject
import EditorLink.Message.RequestId

/-!
# EditorLink — messages that go out

The written form of each kind of message; members stand in the order given here.

* `request`, `notification`, `response` — the forms;
* `Outgoing` — a message that is to be written.
-/

namespace EditorLink.Message

/-- The version of the protocol, in every message. -/
def version : Json := .str "2.0"

def request (id : Nat) (method : String) (params : Json) : Json :=
  .obj [("id", .int id), ("jsonrpc", version), ("method", .str method), ("params", params)]

def notification (method : String) (params : Json) : Json :=
  .obj [("jsonrpc", version), ("method", .str method), ("params", params)]

/-- Our answer to a request that was carried out. -/
def success (id : RequestId) (result : Json) : Json :=
  .obj [("id", id.toJson), ("jsonrpc", version), ("result", result)]

/-- Our answer to a request that failed. -/
def failure (id : RequestId) (error : ErrorObject) : Json :=
  .obj [("id", id.toJson), ("jsonrpc", version), ("error", error.toJson)]

def response (id : RequestId) : Except ErrorObject Json → Json
  | .ok result => success id result
  | .error error => failure id error

inductive Outgoing where
  | request (id : Nat) (method : String) (params : Json)
  | notification (method : String) (params : Json)
  | response (id : RequestId) (outcome : Except ErrorObject Json)

def Outgoing.toJson : Outgoing → Json
  | .request id method params => Message.request id method params
  | .notification method params => Message.notification method params
  | .response id outcome => Message.response id outcome

end EditorLink.Message
