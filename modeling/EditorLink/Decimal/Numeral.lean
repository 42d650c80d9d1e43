/-!
# EditorLink — numerals

* `natural?` — the number that decimal digits spell;
* `unsigned?` — a number that fits, with a plus sign if there is one.
-/

namespace EditorLink.Decimal

def natural? (digits : List Char) : Option Nat :=
  if digits.isEmpty || !digits.all Char.isDigit then none
  else some (digits.foldl (fun n c => n * 10 + (c.toNat - 48)) 0)

def dropPlus : List Char → List Char
  | '+' :: rest => rest
  | rest => rest

/-- A number below `size`: digits, a plus sign before them allowed. -/
def unsigned? (size : Nat) (text : List Char) : Option Nat :=
  (natural? (dropPlus text)).filter (· < size)

end EditorLink.Decimal
