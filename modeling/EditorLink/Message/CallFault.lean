import EditorLink.Framing.Fault
import EditorLink.Json.Writer
import EditorLink.Message.ErrorObject
import EditorLink.Text.Elapsed

/-!
# EditorLink — why a call fails

* `CallFault` — the failure of a request, of a send, or of a whole connection;
* `CallFault.isFatal` — whether it ends the connection;
* `HandlerFault` — the failure of a handler, with the contexts wrapped around it;
* `ErrorObject.ofHandlerFault` — what the other side is told of it.
-/

namespace EditorLink.Message

open Json (TextFault)

/-- The failure of a call or of a connection. -/
inductive CallFault where
  /-- The stream of frames is broken. -/
  | frame (fault : Framing.Fault)
  /-- The other side answered with an error. -/
  | remote (error : ErrorObject)
  /-- A response to a request that nobody waits for. -/
  | unknownId (id : Json)
  /-- The connection is gone. -/
  | closed
  /-- No answer came in time. -/
  | timedOut (id : Nat) (after : Span)
  /-- The params could not be written. -/
  | unwritableParams (fault : TextFault)
  /-- The result does not have the expected shape. -/
  | unreadableResult (fault : TextFault)
  deriving Repr

namespace CallFault

def message : CallFault → String
  | .frame fault => fault.message
  | .remote error => s!"remote error {error.code}: {error.message}"
  | .unknownId id => s!"response for unknown request id {id.write}"
  | .closed => "connection closed"
  | .timedOut id after => s!"request {id} timed out after {after.text}"
  | .unwritableParams fault => s!"serializing params: {fault.message}"
  | .unreadableResult fault => s!"deserializing result: {fault.message}"

/-- The code that the other side chose. -/
def code? : CallFault → Option Int
  | .remote error => some error.code
  | _ => none

/-- Whether the connection ends, and not only one call. -/
def isFatal : CallFault → Bool
  | .frame (.unwritable _) => false
  | .frame _ => true
  | .unknownId _ => true
  | .closed => true
  | .remote _ => false
  | .timedOut _ _ => false
  | .unwritableParams _ => false
  | .unreadableResult _ => false

/-- The causes that stand behind a fault, each in its own words. A fault that quotes its cause is
followed by it. -/
def causes : CallFault → List String
  | .frame (.invalidBody fault) => [fault.message]
  | .frame (.unwritable fault) => [fault.message]
  | .frame (.stream reason) => [reason]
  | .unwritableParams fault => [fault.message]
  | .unreadableResult fault => [fault.message]
  | _ => []

/-- The wording of a fault and of its causes, outermost first. -/
def chain (fault : CallFault) : List String := fault.message :: fault.causes

end CallFault

-- ---------------------------------------------------------------------------
-- Handlers
-- ---------------------------------------------------------------------------

/-- Where the failure of a handler started. -/
inductive Root where
  | plain (text : String)
  | call (fault : CallFault)
  | object (error : ErrorObject)
  deriving Repr

/-- A context that was wrapped around a failure. -/
inductive Context where
  | plain (text : String)
  | object (error : ErrorObject)
  deriving Repr

/-- The failure of a handler: a root and the contexts around it, outermost first. -/
structure HandlerFault where
  contexts : List Context := []
  root : Root
  deriving Repr

def Context.text : Context → String
  | .plain text => text
  | .object error => error.message

def Context.error? : Context → Option ErrorObject
  | .plain _ => none
  | .object error => some error

/-- The words of a root and of its causes. -/
def Root.chain : Root → List String
  | .plain text => [text]
  | .call fault => fault.chain
  | .object error => [error.message]

def Root.error? : Root → Option ErrorObject
  | .object error => some error
  | _ => none

namespace HandlerFault

def within (fault : HandlerFault) (context : Context) : HandlerFault :=
  { fault with contexts := context :: fault.contexts }

def chain (fault : HandlerFault) : List String :=
  fault.contexts.map Context.text ++ fault.root.chain

/-- The outermost error object among the contexts and the root. -/
def error? (fault : HandlerFault) : Option ErrorObject :=
  (fault.contexts.findSome? Context.error?).or fault.root.error?

end HandlerFault

/-- What the other side is told: the error object that the handler chose, or else the words of the
failure under the code for handlers that chose none. -/
def ErrorObject.ofHandlerFault (fault : HandlerFault) : ErrorObject :=
  fault.error?.getD (.handlerFailed (": ".intercalate fault.chain))

end EditorLink.Message
