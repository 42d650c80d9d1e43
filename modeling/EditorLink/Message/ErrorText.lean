import EditorLink.Json.Skip
import EditorLink.Message.ErrorObject

/-!
# EditorLink — error objects in a text

The strict reader of error objects for a text that was not read as a value before. Keys come in the
order of the text, a key that occurs twice is a fault, and each fault names its place. A member of another
name is passed over.
-/

namespace EditorLink.Message.ErrorObject

open Json (Shape ShapeFault TextFault)

/-- A fault met in a text, with what was still unread where there is a place. -/
inductive Misfit where
  | malformed (fault : Json.Fault)
  | misshapen (fault : ShapeFault) (rest : Bytes)

/-- A fault as everyone else sees it. -/
def Misfit.within (input : Bytes) : Misfit → TextFault
  | .malformed fault => .malformed (fault.within input)
  | .misshapen fault rest => .misshapen fault (some (Json.Place.before input rest))

/-- Reads a value behind an open record. -/
def readInner (input : Bytes) : Except Misfit (Json × Bytes) :=
  (Json.readValue (2 * input.length + 2) (Json.maxDepth - 1) input).mapError .malformed

def readSimple {α : Type} (shape : Shape α) (input : Bytes) : Except Misfit (α × Bytes) :=
  let here := Json.skipBlanks input
  let refuse (v : Json) : Except Misfit (α × Bytes) :=
    match shape v with
    | .error fault => .error (.misshapen fault here)
    | .ok a => .ok (a, here)
  match here with
  | 91 :: _ => refuse (.arr [])
  | 123 :: _ => refuse (.obj [])
  | _ =>
    match readInner here with
    | .error misfit => .error misfit
    | .ok (v, rest) =>
      match shape v with
      | .error fault => .error (.misshapen fault rest)
      | .ok a => .ok (a, rest)

/-- The members met so far. -/
structure Partial where
  code : Option Int := none
  message : Option String := none
  data : Option (Option Json) := none

/-- What is unread behind the closing byte, if that comes next. -/
def behind (closing : UInt8) (input : Bytes) : Bytes :=
  match Json.skipBlanks input with
  | b :: rest => if b == closing then rest else b :: rest
  | [] => []

/-- The data of a value that was read: null counts as none. -/
def dataOf : Json → Option Json
  | .null => none
  | v => some v

/-- Reads the value of a member whose name is new. -/
def readField (p : Partial) (key : String) (input : Bytes) : Except Misfit (Partial × Bytes) :=
  if key == "code" then
    (readSimple Shape.signed64 input).map fun (n, rest) => ({ p with code := some n }, rest)
  else if key == "message" then
    (readSimple Shape.text input).map fun (s, rest) => ({ p with message := some s }, rest)
  else if key == "data" then
    (readInner input).map fun (v, rest) => ({ p with data := some (dataOf v) }, rest)
  else ((Json.skip input).mapError .malformed).map fun rest => (p, rest)

def Partial.has (p : Partial) (key : String) : Bool :=
  (key == "code" && p.code.isSome) || (key == "message" && p.message.isSome)
    || (key == "data" && p.data.isSome)

/-- The record of the members read, `rest` being unread behind the closing brace. -/
def Partial.close (p : Partial) (rest : Bytes) : Except Misfit (ErrorObject × Bytes) :=
  match p.code, p.message with
  | none, _ => .error (.misshapen (.missing "code") rest)
  | some _, none => .error (.misshapen (.missing "message") rest)
  | some code, some message => .ok ({ code, message, data := p.data.join }, rest)

/-- Reads members behind the opening brace, or behind a member if `first` is false. -/
def readFields (fuel : Nat) (first : Bool) (p : Partial) (input : Bytes) :
    Except Misfit (ErrorObject × Bytes) :=
  match fuel with
  | 0 => .error (.malformed ⟨.endInObject, []⟩)
  | fuel + 1 =>
    let member (rest : Bytes) : Except Misfit (ErrorObject × Bytes) :=
      match Json.readString rest with
      | .error fault => .error (.malformed fault)
      | .ok (key, afterKey) =>
        if p.has key then .error (.misshapen (.duplicate key) (behind 125 afterKey))
        else
          match Json.skipBlanks afterKey with
          | [] => .error (.malformed ⟨.endInObject, []⟩)
          | b :: rest =>
            if b == 58 then
              match readField p key rest with
              | .error misfit => .error misfit
              | .ok (p, rest) => readFields fuel false p rest
            else .error (.malformed ⟨.expectedColon, rest⟩)
    match Json.skipBlanks input with
    | [] => .error (.malformed ⟨.endInObject, []⟩)
    | b :: rest =>
      if b == 125 then p.close rest
      else if first then
        if b == 34 then member rest else .error (.malformed ⟨.keyNotString, rest⟩)
      else if b == 44 then
        match Json.skipBlanks rest with
        | [] => .error (.malformed ⟨.endInValue, []⟩)
        | c :: rest =>
          if c == 34 then member rest
          else if c == 125 then .error (.malformed ⟨.trailingComma, rest⟩)
          else .error (.malformed ⟨.keyNotString, rest⟩)
      else .error (.malformed ⟨.expectedCommaOrObjectEnd, rest⟩)

/-- Goes to the next item behind `index` items: what is unread before it, or nothing at the closing
bracket. -/
def nextItem (index : Nat) (input : Bytes) : Except Misfit (Option Bytes) :=
  match Json.skipBlanks input with
  | [] => .error (.malformed ⟨.endInList, []⟩)
  | b :: rest =>
    if b == 93 then .ok none
    else if index == 0 then .ok (some (b :: rest))
    else if b == 44 then
      match Json.skipBlanks rest with
      | [] => .error (.malformed ⟨.endInValue, []⟩)
      | c :: rest =>
        if c == 93 then .error (.malformed ⟨.trailingComma, rest⟩) else .ok (some (c :: rest))
    else .error (.malformed ⟨.expectedCommaOrListEnd, rest⟩)

/-- Reads the end of an array of which all fields were read. -/
def closeItems (e : ErrorObject) (input : Bytes) : Except Misfit (ErrorObject × Bytes) :=
  match Json.skipBlanks input with
  | [] => .error (.malformed ⟨.endInList, []⟩)
  | b :: rest =>
    if b == 93 then .ok (e, rest)
    else if b == 44 then
      match Json.skipBlanks rest with
      | 93 :: rest => .error (.malformed ⟨.trailingComma, rest⟩)
      | rest => .error (.malformed (.atNext .trailingCharacters rest))
    else .error (.malformed ⟨.trailingCharacters, rest⟩)

/-- The fault of an array that ends behind `count` items. -/
def short (count : Nat) (input : Bytes) : Except Misfit (ErrorObject × Bytes) :=
  .error (.misshapen (.tooShort count (Shape.recordOf recordName 3)) (behind 93 input))

/-- Reads the fields of an array behind its opening bracket. -/
def readList (input : Bytes) : Except Misfit (ErrorObject × Bytes) := do
  let some front ← nextItem 0 input | short 0 input
  let (code, input) ← readSimple Shape.signed64 front
  let some front ← nextItem 1 input | short 1 input
  let (message, input) ← readSimple Shape.text front
  let some front ← nextItem 2 input | closeItems { code, message } input
  let (data, input) ← readInner front
  closeItems { code, message, data := dataOf data } input

def readRecord (input : Bytes) : Except Misfit (ErrorObject × Bytes) :=
  match Json.skipBlanks input with
  | 123 :: rest => readFields (rest.length + 1) true {} rest
  | 91 :: rest => readList rest
  | rest => readSimple (Shape.record recordName ofMembers ofItems) rest

def read (input : Bytes) : Except TextFault ErrorObject :=
  match readRecord input with
  | .error misfit => .error (misfit.within input)
  | .ok (e, rest) =>
    match Json.skipBlanks rest with
    | [] => .ok e
    | rest => .error (.malformed ((Json.Fault.atNext .trailingCharacters rest).within input))

end EditorLink.Message.ErrorObject
