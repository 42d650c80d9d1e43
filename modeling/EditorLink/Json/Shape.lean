import EditorLink.Json.Fault
import EditorLink.Json.Value
import EditorLink.Text.Quoted

/-!
# EditorLink — values of an expected shape

A payload is read from a JSON value by a *shape*: a function that gives the payload or says what is
wrong. A record may stand as an object or as an array of its fields in the order of their declaration.

* `ShapeFault` — what can be wrong, with its wording;
* `text`, `boolean`, `integer`, `listOf`, `optional` — shapes of simple values;
* `record` — the two forms of a record; `member?`, `required`, `item`, `complete` read its fields.

The fields of an object are looked at in key order, and only then the missing ones are reported, in the
order of declaration; keys that are not declared do not matter.
-/

namespace EditorLink.Json

/-- What stands where something else was expected. -/
inductive Found where
  | null
  | bool (b : Bool)
  | int (n : Int)
  | double (d : Double)
  | str (s : String)
  | sequence
  | map
  deriving Repr, DecidableEq

def found : Json → Found
  | .null => .null
  | .bool b => .bool b
  | .int n => .int n
  | .double d => .double d
  | .str s => .str s
  | .arr _ => .sequence
  | .obj _ => .map

def Found.text : Found → String
  | .null => "null"
  | .bool b => s!"boolean `{b}`"
  | .int n => s!"integer `{n}`"
  | .double d => s!"floating point `{d.text}`"
  | .str s => s!"string {Text.quoted s}"
  | .sequence => "sequence"
  | .map => "map"

/-- Why a value does not have the expected shape. -/
inductive ShapeFault where
  | wrongType (found : Found) (wanted : String)
  | outOfRange (n : Int) (wanted : String)
  | tooShort (length : Nat) (wanted : String)
  | tooLong (length : Nat)
  | missing (field : String)
  | duplicate (field : String)
  | unknownMessageType (n : Nat)
  /-- Neither an integer nor a string where a request id was expected. -/
  | noRequestId
  deriving Repr, DecidableEq

def ShapeFault.message : ShapeFault → String
  | .wrongType found wanted => s!"invalid type: {found.text}, expected {wanted}"
  | .outOfRange n wanted => s!"invalid value: integer `{n}`, expected {wanted}"
  | .tooShort length wanted => s!"invalid length {length}, expected {wanted}"
  | .tooLong length => s!"invalid length {length}, expected fewer elements in array"
  | .missing field => s!"missing field `{field}`"
  | .duplicate field => s!"duplicate field `{field}`"
  | .unknownMessageType n => s!"unknown message type {n}"
  | .noRequestId => "data did not match any variant of untagged enum RequestId"

/-- Why a text did not give what was expected: it is not JSON, or the value has the wrong shape, at a
place if the text was at hand. -/
inductive TextFault where
  | malformed (fault : SyntaxFault)
  | misshapen (fault : ShapeFault) (place : Option Place)
  deriving Repr, DecidableEq

def TextFault.message : TextFault → String
  | .malformed fault => fault.message
  | .misshapen fault none => fault.message
  | .misshapen fault (some place) => s!"{fault.message} at {place.text}"

/-- A payload from a value, or what is wrong. -/
abbrev Shape (α : Type) := Json → Except ShapeFault α

namespace Shape

-- ---------------------------------------------------------------------------
-- Simple values
-- ---------------------------------------------------------------------------

def any : Shape Json := .ok

def text : Shape String
  | .str s => .ok s
  | v => .error (.wrongType (found v) "a string")

def boolean : Shape Bool
  | .bool b => .ok b
  | v => .error (.wrongType (found v) "a boolean")

/-- An integer from `low` to `high`. -/
def integer (low high : Int) (wanted : String) : Shape Int
  | .int n => if low ≤ n ∧ n ≤ high then .ok n else .error (.outOfRange n wanted)
  | v => .error (.wrongType (found v) wanted)

def signed64 : Shape Int := integer (-9223372036854775808) 9223372036854775807 "i64"

def signed32 : Shape Int := integer (-2147483648) 2147483647 "i32"

def byte : Shape Int := integer 0 255 "u8"

/-- Nothing for null, and otherwise a value of the shape. -/
def optional {α : Type} (shape : Shape α) : Shape (Option α)
  | .null => .ok none
  | v => (shape v).map some

def listOf {α : Type} (shape : Shape α) : Shape (List α)
  | .arr items => items.mapM shape
  | v => .error (.wrongType (found v) "a sequence")

-- ---------------------------------------------------------------------------
-- Records
-- ---------------------------------------------------------------------------

/-- A record named `name`, from its members or from its items. -/
def record {α : Type} (name : String) (ofMembers : Members → Except ShapeFault α)
    (ofItems : List Json → Except ShapeFault α) : Shape α
  | .obj members => ofMembers members
  | .arr items => ofItems items
  | v => .error (.wrongType (found v) s!"struct {name}")

/-- A member, if it is there. -/
def member? {α : Type} (key : String) (shape : Shape α) (members : Members) :
    Except ShapeFault (Option α) :=
  match members.lookup key with
  | some v => (shape v).map some
  | none => .ok none

def required {α : Type} (key : String) : Option α → Except ShapeFault α
  | some a => .ok a
  | none => .error (.missing key)

/-- What the error says of an array that is shorter than the record. -/
def recordOf (name : String) (fields : Nat) : String :=
  if fields == 1 then s!"struct {name} with 1 element" else s!"struct {name} with {fields} elements"

/-- The item at a place that has to be there. -/
def item {α : Type} (wanted : String) (index : Nat) (shape : Shape α) (items : List Json) :
    Except ShapeFault α :=
  match items[index]? with
  | some v => shape v
  | none => .error (.tooShort index wanted)

/-- The item at a place that may be cut off. -/
def itemOr {α : Type} (default : α) (index : Nat) (shape : Shape α) (items : List Json) :
    Except ShapeFault α :=
  match items[index]? with
  | some v => shape v
  | none => .ok default

/-- No more items than fields. -/
def complete {α : Type} (fields : Nat) (items : List Json) (a : α) : Except ShapeFault α :=
  if fields < items.length then .error (.tooLong items.length) else .ok a

end Shape
end EditorLink.Json
