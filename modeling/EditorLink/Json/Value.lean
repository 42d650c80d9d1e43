import EditorLink.Json.Double

/-!
# EditorLink — JSON values

* `Json` — a value, its objects as lists of members in the order in which they are written;
* `Json.put` — a member added to members in key order; a later value replaces an earlier one;
* `Json.normalize` — the value with all its objects in key order, which is what reading a text gives;
* `Json.WellFormed` — the values that a text can stand for after reading: integers of 64 bits, keys
  strictly ascending.
-/

namespace EditorLink

inductive Json where
  | null
  | bool (b : Bool)
  | int (n : Int)
  | double (d : Json.Double)
  | str (s : String)
  | arr (items : List Json)
  | obj (members : List (String × Json))
  deriving Repr, Inhabited

namespace Json

abbrev Members := List (String × Json)

/-- Adds a member to members in key order. A key that is there already gets the new value. -/
def put (key : String) (value : Json) : Members → Members
  | [] => [(key, value)]
  | (k, v) :: rest =>
    if key < k then (key, value) :: (k, v) :: rest
    else if key = k then (key, value) :: rest
    else (k, v) :: put key value rest

mutual

/-- The value with the members of every object in key order, the last of equal keys kept. -/
def normalize : Json → Json
  | .arr items => .arr (normalizeItems items)
  | .obj members => .obj (normalizeMembers [] members)
  | v => v

def normalizeItems : List Json → List Json
  | [] => []
  | v :: rest => normalize v :: normalizeItems rest

/-- Normalizes each member and adds it to `sorted`. -/
def normalizeMembers (sorted : Members) : Members → Members
  | [] => sorted
  | (k, v) :: rest => normalizeMembers (put k (normalize v) sorted) rest

end

/-- How many integers of 64 bits with a sign are below zero. -/
def signedBound : Nat := 9223372036854775808

/-- The integers of 64 bits, with or without a sign. -/
def integerRange (n : Int) : Prop := -(signedBound : Int) ≤ n ∧ n < (UInt64.size : Int)

instance (n : Int) : Decidable (integerRange n) := by unfold integerRange; infer_instance

/-- Keys strictly ascending. -/
def Ascending : Members → Prop
  | [] => True
  | [_] => True
  | (k, _) :: (k', v') :: rest => k < k' ∧ Ascending ((k', v') :: rest)

mutual

/-- A value as reading gives it: integers of 64 bits and members in key order, at every depth. -/
def WellFormed : Json → Prop
  | .int n => integerRange n
  | .arr items => WellFormedItems items
  | .obj members => Ascending members ∧ WellFormedMembers members
  | _ => True

def WellFormedItems : List Json → Prop
  | [] => True
  | v :: rest => WellFormed v ∧ WellFormedItems rest

def WellFormedMembers : Members → Prop
  | [] => True
  | (_, v) :: rest => WellFormed v ∧ WellFormedMembers rest

end

mutual

/-- How many arrays and objects are open at the innermost place of a value. -/
def depth : Json → Nat
  | .arr items => depthItems items + 1
  | .obj members => depthMembers members + 1
  | _ => 0

def depthItems : List Json → Nat
  | [] => 0
  | v :: rest => max (depth v) (depthItems rest)

def depthMembers : Members → Nat
  | [] => 0
  | (_, v) :: rest => max (depth v) (depthMembers rest)

end

/-- A member of an object by its key; a value that is no object has none. -/
def get? (key : String) : Json → Option Json
  | .obj members => members.lookup key
  | _ => none

/-- An integer that fits 64 bits with a sign. -/
def signed? : Json → Option Int
  | .int n => if -(signedBound : Int) ≤ n ∧ n < (signedBound : Int) then some n else none
  | _ => none

/-- An integer that fits 64 bits without a sign. -/
def natural? : Json → Option Nat
  | .int n => if 0 ≤ n ∧ n < (UInt64.size : Int) then some n.toNat else none
  | _ => none

def string? : Json → Option String
  | .str s => some s
  | _ => none

end Json
end EditorLink
