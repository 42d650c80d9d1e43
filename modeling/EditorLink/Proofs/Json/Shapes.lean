import EditorLink.Json.Shape
import EditorLink.Proofs.Json.Members

/-!
# EditorLink — what is read by a shape

From which values something is read, shape by shape, and what of a record's members it depends on. Each lemma is an
equivalence, so that a grammar of values can be compared with the readers of a record by rewriting: what is read,
and that nothing is read from any other value.

Which fault is given for a value that is refused, and at which place in it, is left open here. A record looks at its
members in one order and reports those that are missing in another; where something is read this does not show.

Members that are not declared are ignored. That is said in two ways: members that agree under the declared keys are
read alike (`Agree`), and members with others among them are read like those alone, also when all of them were put in
key order on the way (`Extends`).

## Results

* `bind_eq_ok_iff` — readers in a row;
* `text_eq_ok_iff`, `integer_eq_ok_iff`, `optional_eq_ok_iff` — simple values;
* `exists_required_iff`, `exists_optional_iff` — members that have to be there, and those that may be left out;
* `item_eq_ok_iff`, `complete_eq_ok_iff` — items of a record that stands as an array;
* `Agree`, `member?_congr` — members that are the same under some keys;
* `Extends`, `Extends.lookup_normalize` — members with others of foreign keys among them.
-/

namespace EditorLink.Json

-- ---------------------------------------------------------------------------
-- Values
-- ---------------------------------------------------------------------------

/-- What may be left out: there is nothing, or null, or a value that gives something. -/
inductive Optionally {α : Type} (Gives : Json → α → Prop) : Option Json → Option α → Prop
  | absent : Optionally Gives none none
  | null : Optionally Gives (some .null) none
  | value {v : Json} {a : α} (h : Gives v a) : Optionally Gives (some v) (some a)

namespace Shape

variable {α β : Type}

/-- **Readers in a row** read something if each of them does. -/
theorem bind_eq_ok_iff {x : Except ShapeFault α} {f : α → Except ShapeFault β} {b : β} :
    (x >>= f) = .ok b ↔ ∃ a, x = .ok a ∧ f a = .ok b := by
  cases x with
  | error fault => exact ⟨nofun, nofun⟩
  | ok a => exact ⟨fun h => ⟨a, rfl, h⟩, fun ⟨_, rfl, h⟩ => h⟩

theorem map_eq_ok_iff {x : Except ShapeFault α} {f : α → β} {b : β} :
    x.map f = .ok b ↔ ∃ a, x = .ok a ∧ f a = b := by
  cases x with
  | error fault => exact ⟨nofun, nofun⟩
  | ok a => simp [Except.map]

/-- A text is read from strings. -/
theorem text_eq_ok_iff {v : Json} {s : String} : text v = .ok s ↔ v = .str s := by
  cases v <;> simp [text]

/-- An integer is read from integers between its bounds. -/
theorem integer_eq_ok_iff {low high : Int} {wanted : String} {v : Json} {n : Int} :
    integer low high wanted v = .ok n ↔ v = .int n ∧ low ≤ n ∧ n ≤ high := by
  cases v with
  | int m =>
    simp only [integer, Json.int.injEq]
    split
    · rename_i hm
      rw [Except.ok.injEq]
      exact ⟨fun h => ⟨h, h ▸ hm⟩, And.left⟩
    · rename_i hm
      exact ⟨nofun, fun ⟨h, hn⟩ => absurd (h ▸ hn) hm⟩
  | null | bool | double | str | arr | obj => exact ⟨nofun, nofun⟩

/-- A shape that is left out for null gives what it gives of other values. -/
theorem optional_eq_ok_iff {shape : Shape α} {Gives : Json → α → Prop}
    (h : ∀ v a, shape v = .ok a ↔ Gives v a) (hnull : ∀ a, ¬ Gives .null a) {v : Json} {a? : Option α} :
    optional shape v = .ok a? ↔ Optionally Gives (some v) a? := by
  constructor
  · intro hv
    cases v with
    | null =>
      cases hv
      exact .null
    | bool | int | double | str | arr | obj =>
      obtain ⟨a, ha, rfl⟩ := map_eq_ok_iff.mp hv
      exact .value ((h _ a).mp ha)
  · rintro (_ | _ | hv)
    · rfl
    · rename_i a
      have ha := (h v a).mpr hv
      cases v with
      | null => exact absurd hv (hnull a)
      | bool | int | double | str | arr | obj => exact map_eq_ok_iff.mpr ⟨a, ha, rfl⟩

-- ---------------------------------------------------------------------------
-- Members
-- ---------------------------------------------------------------------------

variable {key : String} {members : Members}

/-- Any value is taken as it stands, if there is one. -/
theorem member?_any : member? key any members = .ok (members.lookup key) := by
  rw [member?]
  cases members.lookup key <;> rfl

/-- A member that is required has to be there, and of its shape. -/
theorem exists_required_iff {shape : Shape α} {a : α} :
    (∃ a?, member? key shape members = .ok a? ∧ required key a? = .ok a) ↔
      ∃ v, members.lookup key = some v ∧ shape v = .ok a := by
  rw [member?]
  cases members.lookup key with
  | none => simp [required]
  | some v =>
    cases hv : shape v with
    | error fault => simp [Except.map, hv]
    | ok b => simp [Except.map, required, hv]

/-- A member that has to be there as a text is one. -/
theorem exists_required_text_iff {s : String} :
    (∃ s?, member? key text members = .ok s? ∧ required key s? = .ok s) ↔
      members.lookup key = some (.str s) := by
  simp only [exists_required_iff, text_eq_ok_iff]
  exact ⟨fun ⟨_, hv, rfl⟩ => hv, fun hv => ⟨_, hv, rfl⟩⟩

/-- A member that may be left out is absent, or null, or of its shape. -/
theorem exists_optional_iff {shape : Shape α} {Gives : Json → α → Prop}
    (h : ∀ v a, shape v = .ok a ↔ Gives v a) (hnull : ∀ a, ¬ Gives .null a) {a? : Option α} :
    (∃ r, member? key (optional shape) members = .ok r ∧ r.join = a?) ↔
      Optionally Gives (members.lookup key) a? := by
  rw [member?]
  cases members.lookup key with
  | none =>
    constructor
    · rintro ⟨_, ⟨⟩, rfl⟩
      exact .absent
    · rintro ⟨⟩
      exact ⟨_, rfl, rfl⟩
  | some v =>
    simp only [map_eq_ok_iff, ← optional_eq_ok_iff h hnull]
    constructor
    · rintro ⟨_, ⟨a?, ha?, rfl⟩, rfl⟩
      exact ha?
    · intro ha?
      exact ⟨_, ⟨a?, ha?, rfl⟩, rfl⟩

/-- A member is read by its shape. -/
theorem member?_of_lookup {v : Json} (h : members.lookup key = some v) {shape : Shape α} {a : α}
    (hv : shape v = .ok a) : member? key shape members = .ok (some a) := by
  rw [member?, h]
  exact map_eq_ok_iff.mpr ⟨a, hv, rfl⟩

theorem member?_text_of_lookup {s : String} (h : members.lookup key = some (.str s)) :
    member? key text members = .ok (some s) :=
  member?_of_lookup h rfl

theorem member?_boolean_of_lookup {b : Bool} (h : members.lookup key = some (.bool b)) :
    member? key boolean members = .ok (some b) :=
  member?_of_lookup h rfl

/-- A member that was left out if there was nothing to write. -/
theorem member?_optional_of_lookup {toJson : α → Json} {a? : Option α}
    (h : members.lookup key = a?.map toJson) {shape : Shape α} (hshape : ∀ a, shape (toJson a) = .ok a)
    (hnull : ∀ a, toJson a ≠ .null) : member? key (optional shape) members = .ok (a?.map some) := by
  cases a? with
  | none => rw [member?, h, Option.map_none]; rfl
  | some a =>
    refine member?_of_lookup h ?_
    have ha := hshape a
    cases hv : toJson a with
    | null => exact absurd hv (hnull a)
    | bool | int | double | str | arr | obj =>
      rw [hv] at ha
      exact map_eq_ok_iff.mpr ⟨a, ha, rfl⟩

-- ---------------------------------------------------------------------------
-- Items
-- ---------------------------------------------------------------------------

variable {items : List Json}

/-- A list of texts is read item by item. -/
theorem listOf_text_map (texts : List String) : listOf text (.arr (texts.map .str)) = .ok texts := by
  show (texts.map Json.str).mapM text = .ok texts
  induction texts with
  | nil => rfl
  | cons s rest ih =>
    rw [List.map_cons, List.mapM_cons, ih]
    rfl

/-- An item of a record that stands as an array. -/
theorem item_eq_ok_iff {wanted : String} {index : Nat} {shape : Shape α} {a : α} :
    item wanted index shape items = .ok a ↔ ∃ v, items[index]? = some v ∧ shape v = .ok a := by
  rw [item]
  cases items[index]? <;> simp

/-- An array may not hold more items than the record has fields. -/
theorem complete_eq_ok_iff {fields : Nat} {a b : α} :
    complete fields items a = .ok b ↔ items.length ≤ fields ∧ a = b := by
  rw [complete]
  split
  · rename_i hlong
    exact ⟨nofun, fun ⟨hle, _⟩ => absurd hlong (Nat.not_lt.mpr hle)⟩
  · rename_i hlong
    rw [Except.ok.injEq]
    exact ⟨fun h => ⟨Nat.not_lt.mp hlong, h⟩, And.right⟩

end Shape

-- ---------------------------------------------------------------------------
-- Foreign members
-- ---------------------------------------------------------------------------

/-- The same members under some keys, whatever there is under others. -/
def Agree (keys : List String) (members members' : Members) : Prop :=
  ∀ key ∈ keys, members.lookup key = members'.lookup key

/-- **Members that agree** under a key are read alike. -/
theorem Shape.member?_congr {α : Type} {keys : List String} {members members' : Members}
    (h : Agree keys members members') {key : String} (hkey : key ∈ keys) (shape : Shape α) :
    Shape.member? key shape members = Shape.member? key shape members' := by
  rw [Shape.member?, Shape.member?, h key hkey]

/-- Members with others among them, none of which has one of the keys. -/
inductive Extends (keys : List String) : Members → Members → Prop
  | nil : Extends keys [] []
  | own (m : String × Json) {members more : Members} (h : Extends keys members more) :
    Extends keys (m :: members) (m :: more)
  | foreign (m : String × Json) {members more : Members} (hkey : m.1 ∉ keys)
    (h : Extends keys members more) : Extends keys members (m :: more)

theorem Extends.refl (keys : List String) (members : Members) : Extends keys members members := by
  induction members with
  | nil => exact .nil
  | cons m rest ih => exact .own m ih

/-- Foreign members do not change what is found from the end. -/
theorem Extends.lookup_reverse {keys : List String} {members more : Members}
    (h : Extends keys members more) {key : String} (hkey : key ∈ keys) :
    more.reverse.lookup key = members.reverse.lookup key := by
  induction h with
  | nil => rfl
  | own m _ ih => rw [List.reverse_cons, List.reverse_cons, List.lookup_append, List.lookup_append, ih]
  | foreign m hforeign _ ih =>
    have hne : key ≠ m.1 := fun heq => hforeign (heq ▸ hkey)
    rw [List.reverse_cons, List.lookup_append, ih, lookup_cons, if_neg hne]
    exact Option.or_none

/-- **Foreign members do not matter** for what is found in an object in order. -/
theorem Extends.lookup_normalize {keys : List String} {members more : Members}
    (h : Extends keys members more) {key : String} (hkey : key ∈ keys) :
    (normalizeMembers [] more).lookup key = (members.reverse.lookup key).map normalize := by
  rw [lookup_normalizeMembers, h.lookup_reverse hkey]
  exact Option.or_none

end EditorLink.Json
