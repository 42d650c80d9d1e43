import EditorLink.Json.Value

/-!
# EditorLink — members in key order

To put the members of an object in key order changes where they stand, but not what is found under a
key: the last value that the key was given.

Objects are kept as lists of members, in the order in which they were written, and a key may stand there twice.
Reading puts each member in its place as it comes, and a later value takes the place of an earlier one. So what is
found in an object in order is what a look-up from the end finds in the list as it was.

With distinct keys there is no such difference. Most objects of the project have distinct keys; the lemmas are stated
without that, since the other side may send anything.

## Results

* `lookup_put` — one member is added;
* `get?_normalize` — a member of an object in order.
-/

namespace EditorLink.Json

/-- A look-up finds the first member with its key. -/
theorem lookup_cons (key k : String) (v : Json) (members : Members) :
    ((k, v) :: members).lookup key = if key = k then some v else members.lookup key := by
  rw [List.lookup_cons]
  by_cases hkey : key = k
  · simp [hkey]
  · rw [if_neg hkey, beq_false_of_ne hkey]

/-- What is found behind a member that was added. -/
theorem lookup_put (key k : String) (v : Json) (members : Members) :
    (put k v members).lookup key = if key = k then some v else members.lookup key := by
  induction members with
  | nil => exact lookup_cons key k v []
  | cons m rest ih =>
    obtain ⟨k₀, v₀⟩ := m
    rw [put]
    split
    · exact lookup_cons key k v _
    · split
      -- the key was there, and its value is replaced
      · rename_i hsame
        rw [lookup_cons, lookup_cons, ← hsame]
        split <;> rfl
      · rename_i hother
        rw [lookup_cons, lookup_cons, ih]
        by_cases hkey : key = k
        · rw [hkey, if_neg hother, if_pos rfl, if_pos rfl]
        · rw [if_neg hkey, if_neg hkey]

/-- The last of the members with a key counts, and those at hand only if there is none. -/
theorem lookup_normalizeMembers (key : String) (done members : Members) :
    (normalizeMembers done members).lookup key =
      ((members.reverse.lookup key).map normalize).or (done.lookup key) := by
  induction members generalizing done with
  | nil => rfl
  | cons m rest ih =>
    obtain ⟨k, v⟩ := m
    rw [normalizeMembers, ih, lookup_put, List.reverse_cons, List.lookup_append, lookup_cons]
    -- a later member goes before this one, and this one before those at hand
    cases rest.reverse.lookup key with
    | some later => rfl
    | none =>
      by_cases hkey : key = k
      · rw [if_pos hkey, if_pos hkey]
        rfl
      · rw [if_neg hkey, if_neg hkey]
        rfl

/-- **A member is found** in an object in order as it is in the object. -/
theorem get?_normalize (key : String) (members : Members) :
    (normalize (.obj members)).get? key = (members.reverse.lookup key).map normalize := by
  rw [normalize, get?, lookup_normalizeMembers]
  exact Option.or_none

end EditorLink.Json
