/-!
# EditorLink — the shortest decimal of a binary number

A binary number stands for every real that rounds to it. Among the decimals in that interval this
module finds one with the fewest digits, and the nearest of those; an exact tie goes to the even one.
All comparisons are exact, on natural numbers.

* `Binary` — a positive number `mantissa * 2 ^ exponent`, with the shape of its interval;
* `Binary.readsBack` — whether a decimal lies in the interval;
* `Binary.shortest` — the decimal chosen.
-/

namespace EditorLink.Decimal

/-- A positive binary number, `mantissa * 2 ^ exponent`. -/
structure Binary where
  mantissa : Nat
  exponent : Int
  /-- The number below is half as far away as the number above. -/
  narrowBelow : Bool
  deriving Repr, DecidableEq

/-- A decimal number, `digits * 10 ^ exponent`. -/
structure Scaled where
  digits : Nat
  exponent : Int
  deriving Repr, DecidableEq

/-- The magnitude that the 64 bits of a finite double stand for. -/
def Binary.ofBits (bits : UInt64) : Binary :=
  let e := ((bits >>> 52) &&& 0x7FF).toNat
  let f := (bits &&& 0xFFFFFFFFFFFFF).toNat
  if e == 0 then ⟨f, -1074, false⟩ else ⟨0x10000000000000 + f, (e : Int) - 1075, f == 0 && decide (1 < e)⟩

/-- The whole numbers whose quotient is `base ^ e`. -/
def powerParts (base : Nat) (e : Int) : Nat × Nat := (base.pow e.toNat, base.pow (-e).toNat)

/-- How `a * 10 ^ i` compares with `n * 2 ^ j`. -/
def compareScaled (a : Nat) (i : Int) (n : Nat) (j : Int) : Ordering :=
  let (tenUp, tenDown) := powerParts 10 i
  let (twoUp, twoDown) := powerParts 2 j
  compare (a * tenUp * twoDown) (n * twoUp * tenDown)

/-- Whether a decimal is among the reals that round to `x`: to nearest, an end of the interval
included exactly if the mantissa is even. -/
def Binary.readsBack (x : Binary) (d : Scaled) : Bool :=
  let below := if x.narrowBelow then 4 * x.mantissa - 1 else 4 * x.mantissa - 2
  let above := 4 * x.mantissa + 2
  let ends := x.mantissa % 2 == 0
  let low := compareScaled d.digits d.exponent below (x.exponent - 2)
  let high := compareScaled d.digits d.exponent above (x.exponent - 2)
  (low == .gt || (ends && low == .eq)) && (high == .lt || (ends && high == .eq))

/-- The least `k` with `x < 10 ^ k`, found near its estimate from the binary logarithm. -/
def Binary.scale (x : Binary) : Int :=
  let estimate := ((x.mantissa.log2 : Int) + x.exponent) * 30103 / 100000
  let candidates := [estimate - 1, estimate, estimate + 1, estimate + 2]
  (candidates.find? fun k => compareScaled 1 k x.mantissa x.exponent == .gt).getD (estimate + 3)

/-- The best decimal with unit `10 ^ unit` that reads back: of the two neighbours of `x` on that grid
the nearer one, of two equally near ones the even one. -/
def Binary.onGrid? (x : Binary) (unit : Int) : Option Scaled :=
  let (twoUp, twoDown) := powerParts 2 x.exponent
  let (tenUp, tenDown) := powerParts 10 unit
  let numerator := x.mantissa * twoUp * tenDown
  let denominator := twoDown * tenUp
  let floor := numerator / denominator
  let down : Scaled := ⟨floor, unit⟩
  let up : Scaled := ⟨floor + 1, unit⟩
  match x.readsBack down, x.readsBack up with
  | true, true =>
    match compare (2 * numerator) ((2 * floor + 1) * denominator) with
    | .lt => some down
    | .gt => some up
    | .eq => some (if floor % 2 == 0 then down else up)
  | true, false => some down
  | false, true => some up
  | false, false => none

/-- Moves trailing zeros of the digits into the exponent. -/
def dropZeros : (fuel : Nat) → Scaled → Scaled
  | 0, d => d
  | fuel + 1, d =>
    if d.digits != 0 && d.digits % 10 == 0 then dropZeros fuel ⟨d.digits / 10, d.exponent + 1⟩ else d

/-- The exact decimal value of a binary number. -/
def Binary.exact (x : Binary) : Scaled :=
  if 0 ≤ x.exponent then ⟨x.mantissa * (powerParts 2 x.exponent).1, 0⟩
  else ⟨x.mantissa * (powerParts 5 x.exponent).2, x.exponent⟩

/-- The decimal with the fewest digits that reads back to `x`. -/
def Binary.shortest (x : Binary) : Scaled :=
  let found := (List.range 17).findSome? fun (n : Nat) => x.onGrid? (x.scale - ((n : Int) + 1))
  dropZeros 400 (found.getD x.exact)

end EditorLink.Decimal
