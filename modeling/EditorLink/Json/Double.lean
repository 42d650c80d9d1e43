import EditorLink.Decimal.Shortest

/-!
# EditorLink — numbers with a fraction

A JSON number that is no integer of 64 bits is kept as a double. This module fixes how such a number
is computed from the digits that were read and how it is written again.

* `Double.ofParts?` — significand and decimal exponent to double, with one multiplication or division;
* `Double.text` — the shortest digits that read back, plain or with an exponent.
-/

namespace EditorLink.Json

/-- A finite double, held by its bits. -/
structure Double where
  bits : UInt64
  deriving Repr, DecidableEq

namespace Double

/-- The power of ten that a significand is scaled by, itself a double. -/
def powerOfTen (k : Nat) : Float := Float.ofScientific 1 false k

/-- Scales `f` by `10 ^ e`. Exponents beyond the range of doubles go down in steps of 308; going up is
out of range unless `f` is zero. -/
def scale (f : Float) (e : Int) : Option Float :=
  if 308 < e then
    if f == 0.0 then some f else none
  else if 0 ≤ e then
    let r := f * powerOfTen e.toNat
    if r.isInf then none else some r
  else if -308 ≤ e then some (f / powerOfTen (-e).toNat)
  else if f == 0.0 then some f
  else scale (f / powerOfTen 308) (e + 308)
termination_by (-e).toNat

/-- The double for `significand * 10 ^ e`, or nothing if it is too large. -/
def ofParts? (negative : Bool) (significand : Nat) (e : Int) : Option Double :=
  (scale (Float.ofNat significand) e).map fun f => ⟨(if negative then -f else f).toBits⟩

def isZero (d : Double) : Bool := d.bits &&& 0x7FFFFFFFFFFFFFFF == 0

def isNegative (d : Double) : Bool := d.bits >>> 63 == 1

/-- Decimal exponents of the first digit that are written without an exponent. -/
def plainExponents : Int × Int := (-5, 15)

/-- Lays out digits whose first stands for `10 ^ e`: plain, always with a fraction, where the exponent
is small; otherwise one digit before the point and a signed exponent. -/
def layout (digits : String) (e : Int) : String :=
  let n := digits.length
  if plainExponents.1 ≤ e && e ≤ plainExponents.2 then
    if e < 0 then "0." ++ "".pushn '0' (-e - 1).toNat ++ digits
    else
      let whole := e.toNat + 1
      if n ≤ whole then digits ++ "".pushn '0' (whole - n) ++ ".0"
      else String.ofList (digits.toList.take whole) ++ "." ++ String.ofList (digits.toList.drop whole)
  else
    let fraction := if n ≤ 1 then "" else "." ++ String.ofList (digits.toList.drop 1)
    let sign := if e < 0 then "-" else "+"
    String.ofList (digits.toList.take 1) ++ fraction ++ "e" ++ sign ++ toString e.natAbs

/-- The fewest digits that read back to the same double, laid out. -/
def text (d : Double) : String :=
  let sign := if d.isNegative then "-" else ""
  if d.isZero then sign ++ "0.0"
  else
    let s := (Decimal.Binary.ofBits d.bits).shortest
    let digits := toString s.digits
    sign ++ layout digits (s.exponent + digits.length - 1)

end Double
end EditorLink.Json
