/-!
# EditorLink — spans of time in messages

A span is a number of nanoseconds. Messages show it in the biggest unit of which it holds at least one,
with the fraction that is left and no zeros at its end.
-/

namespace EditorLink

/-- A span of time in nanoseconds. -/
structure Span where
  nanos : Nat
  deriving Repr, DecidableEq, Inhabited

namespace Span

def ofMillis (ms : Nat) : Span := ⟨ms * 1000000⟩

/-- The decimal digits of `n` below `10 ^ places`, zeros in front, none at the end. -/
def fraction (places n : Nat) : String :=
  let digits := (toString n).toList
  let padded := List.replicate (places - digits.length) '0' ++ digits
  let kept := (padded.reverse.dropWhile (· == '0')).reverse
  if kept.isEmpty then "" else "." ++ String.ofList kept

/-- `n` nanoseconds in units of `10 ^ places` of them. -/
def inUnits (n places : Nat) (unit : String) : String :=
  let size := Nat.pow 10 places
  toString (n / size) ++ fraction places (n % size) ++ unit

def text (s : Span) : String :=
  if 1000000000 ≤ s.nanos then inUnits s.nanos 9 "s"
  else if 1000000 ≤ s.nanos then inUnits s.nanos 6 "ms"
  else if 1000 ≤ s.nanos then inUnits s.nanos 3 "µs"
  else toString s.nanos ++ "ns"

end Span
end EditorLink
