import EditorLink.Json.Shape

/-!
# EditorLink — error objects

The `error` member of a response: a code, a message, and data if the sender has any.

* `ErrorObject.toJson` — the written form, its members in the order code, message, data;
* `ErrorObject.lenient` — the reader for answers of the other side: each member that is missing or has
  the wrong type gets a default;
* `ErrorObject.shape` — the strict reader;
* `ErrorObject.readParams` — params of a call, or the error that refuses them.
-/

namespace EditorLink.Message

open Json (Shape ShapeFault Members)

/-- An error as the other side sees it. -/
structure ErrorObject where
  code : Int
  message : String
  data : Option Json := none
  deriving Repr

namespace ErrorObject

-- ---------------------------------------------------------------------------
-- Codes
-- ---------------------------------------------------------------------------

/-- A message that is no request. -/
def invalidRequestCode : Int := -32600

/-- A method that does not exist. -/
def methodNotFoundCode : Int := -32601

/-- Params of the wrong shape. -/
def invalidParamsCode : Int := -32602

/-- A handler that failed without choosing a code. -/
def handlerFailedCode : Int := -1

/-- Stands for a message that was not sent. -/
def noMessage : String := "No message attached to error"

def methodNotFound (method : String) : ErrorObject :=
  { code := methodNotFoundCode, message := s!"Method not found: {method}" }

def invalidParams (reason : String) : ErrorObject :=
  { code := invalidParamsCode, message := s!"Invalid params: {reason}" }

def invalidRequest (reason : String) : ErrorObject :=
  { code := invalidRequestCode, message := s!"Invalid request: {reason}" }

def handlerFailed (reason : String) : ErrorObject :=
  { code := handlerFailedCode, message := reason }

-- ---------------------------------------------------------------------------
-- Written form
-- ---------------------------------------------------------------------------

/-- The member that holds the data, if there is any. -/
def dataMember : Option Json → Members
  | some data => [("data", data)]
  | none => []

def toJson (e : ErrorObject) : Json :=
  .obj ([("code", .int e.code), ("message", .str e.message)] ++ dataMember e.data)

-- ---------------------------------------------------------------------------
-- Reading a value
-- ---------------------------------------------------------------------------

/-- Takes what is usable and fills in the rest. -/
def lenient (v : Json) : ErrorObject where
  code := ((v.get? "code").bind Json.signed?).getD handlerFailedCode
  message := ((v.get? "message").bind Json.string?).getD noMessage
  data := v.get? "data"

def recordName : String := "ResponseError"

def ofMembers (members : Members) : Except ShapeFault ErrorObject := do
  let code? ← Shape.member? "code" Shape.signed64 members
  let data? ← Shape.member? "data" (Shape.optional Shape.any) members
  let message? ← Shape.member? "message" Shape.text members
  let code ← Shape.required "code" code?
  let message ← Shape.required "message" message?
  return { code, message, data := data?.join }

/-- Reads the items of an array: code, message, and data unless it is cut off. -/
def ofItems (items : List Json) : Except ShapeFault ErrorObject := do
  let wanted := Shape.recordOf recordName 3
  let code ← Shape.item wanted 0 Shape.signed64 items
  let message ← Shape.item wanted 1 Shape.text items
  let data ← Shape.itemOr none 2 (Shape.optional Shape.any) items
  Shape.complete 3 items { code, message, data }

/-- Reads an error object whose members all have their types. -/
def shape : Shape ErrorObject := Shape.record recordName ofMembers ofItems

-- ---------------------------------------------------------------------------
-- Params
-- ---------------------------------------------------------------------------

/-- Reads the params of a call; the other side is told what is wrong with them. -/
def readParams {α : Type} (shape : Shape α) (params : Json) : Except ErrorObject α :=
  (shape params).mapError fun fault => .invalidParams fault.message

end ErrorObject
end EditorLink.Message
