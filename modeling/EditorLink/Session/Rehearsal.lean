import EditorLink.Service.Payload
import EditorLink.Session.Handler

/-!
# EditorLink — a handler that does as it is told

A handler for trying out sessions: the method of a message names what the handler does, the params say
with what. It remembers nothing.
-/

namespace EditorLink.Session.Rehearsal

open Json (Shape)
open Message (CallFault Context ErrorObject HandlerFault)
open Service (MessageParams)

def textOf (params : Json) (key : String) : String := ((params.get? key).bind Json.string?).getD ""

def valueOf (params : Json) (key : String) : Json := (params.get? key).getD .null

def textsOf : Json → List String
  | .arr items => items.filterMap Json.string?
  | _ => []

/-- The words of a crash: the message if it is thrown as a text. -/
def crashText (params : Json) : String :=
  match (params.get? "payload").bind Json.string? with
  | some "str" => textOf params "message"
  | some "string" => textOf params "message"
  | _ => crashWords

/-- A failure with a message and contexts around it. -/
def plainFault (params : Json) : HandlerFault :=
  (textsOf (valueOf params "context")).foldl (fun fault text => fault.within (.plain text))
    { root := .plain (textOf params "message") }

/-- A failure that chooses its code. -/
def chosenFault (params : Json) : HandlerFault :=
  let error : ErrorObject :=
    { code := ((params.get? "code").bind Json.signed?).getD 0
      message := textOf params "message"
      data := params.get? "data" }
  let fault : HandlerFault := { root := .object error }
  match (params.get? "context").bind Json.string? with
  | some text => fault.within (.plain text)
  | none => fault

def failCall (fault : CallFault) : Task := .fail { root := .call fault }

/-- A message read back from a result, in its written form. -/
def messageOf (result : Json) : Except CallFault Json :=
  match MessageParams.shape result with
  | .ok m => .ok m.toJson.normalize
  | .error fault => .error (.unreadableResult (.misshapen fault none))

/-- Reads the params as a message and gives it back. -/
def readBack (params : Json) : Task :=
  match MessageParams.shape params with
  | .ok m => .finish m.toJson.normalize
  | .error fault => .fail { root := .object (.invalidParams fault.message) }

def relay (params : Json) : Task :=
  .ask (textOf params "method") (valueOf params "params") fun
    | .ok answer => .finish (.obj [("peer", answer)])
    | .error fault => failCall fault

/-- Asks the other side for a message and gives it back. -/
def relayMessage (params : Json) : Task :=
  .ask (textOf params "method") params fun outcome =>
    match outcome.bind messageOf with
    | .ok answer => .finish answer
    | .error fault => failCall fault

def announce (params : Json) : Task :=
  .notify (textOf params "method") (valueOf params "params") fun
    | .ok () => .finish (.str "notified")
    | .error fault => failCall fault

def reaction (method : String) (params : Json) : Reaction :=
  match method with
  | "echo" => .start (.finish params)
  | "fail" => .start (.fail (plainFault params))
  | "fail_with" => .start (.fail (chosenFault params))
  | "panic_now" => .crash (crashText params)
  | "panic_later" => .start (.crash (crashText params))
  | "parse" => .start (readBack params)
  | "ask" => .start (relay params)
  | "ask_typed" => .start (relayMessage params)
  | "notify" => .start (announce params)
  | "gate" => .start (.wait (textOf params "name") (.finish params))
  | "close" => .close .silent
  | "close_later" => .start (.close (.finish (.str "closing")))
  | _ => .silent

def handler : Handler Unit := fun memory method params => (reaction method params, memory)

end EditorLink.Session.Rehearsal
