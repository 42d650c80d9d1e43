import EditorLink.Decimal.Numeral
import EditorLink.Proofs.Text.Utf8

/-!
# EditorLink — the digits of a number

A number is written by the digits that the library gives for it, and read by a reader of this project. Both go from
the most significant digit on, so that the proof is along the digits and not along the number. What a text of JSON
needs beyond that is how the digits begin, since a number there must not start with a zero, and how they look as
bytes.

Nothing is said here of signs. They are a matter of the reader in `EditorLink.Proofs.Json.Scalars`.

## Results

* `natural?_toDigits` — the digits of a number spell it;
* `head_toDigits_ne_zero` — no number but zero starts with a zero;
* `utf8_repr` — the digits as bytes.
-/

namespace EditorLink.Decimal

/-- A digit is one of ten characters in a row. -/
theorem toNat_of_isDigit {c : Char} (h : c.isDigit = true) : 48 ≤ c.toNat ∧ c.toNat ≤ 57 := by
  simpa [Char.isDigit, UInt32.le_iff_toNat_le] using h

theorem isDigit_of_mem_toDigits {n : Nat} {c : Char} (h : c ∈ Nat.toDigits 10 n) :
    c.isDigit = true :=
  Nat.isDigit_of_mem_toDigits (by decide) (by decide) h

/-- The digits of a number spell it. -/
theorem natural?_toDigits (n : Nat) : natural? (Nat.toDigits 10 n) = some n := by
  have hall : (Nat.toDigits 10 n).all Char.isDigit = true := by
    rw [List.all_eq_true]
    exact fun c hc => isDigit_of_mem_toDigits hc
  have hvalue : (Nat.toDigits 10 n).foldl (fun n c => n * 10 + (c.toNat - 48)) 0 = n := by
    have hof := Nat.ofDigitChars_ten_toDigits (n := n)
    rw [Nat.ofDigitChars_eq_foldl] at hof
    have hzero : '0'.toNat = 48 := rfl
    simpa only [Nat.mul_comm, hzero] using hof
  rw [natural?, hall, hvalue]
  simp [Nat.toDigits_ne_nil]

/-- Further digits make no number smaller. -/
theorem le_ofDigitChars (cs : List Char) (n : Nat) : n ≤ Nat.ofDigitChars 10 cs n := by
  induction cs generalizing n with
  | nil => simp
  | cons c cs ih =>
    rw [Nat.ofDigitChars_cons]
    refine Nat.le_trans ?_ (ih _)
    omega

/-- No number but zero starts with a zero. -/
theorem head_toDigits_ne_zero {n : Nat} (h : 0 < n) {c : Char} {cs : List Char}
    (hdigits : Nat.toDigits 10 n = c :: cs) : c ≠ '0' := by
  induction n using Nat.strongRecOn generalizing cs with
  | ind n ih =>
    rcases Nat.lt_or_ge n 10 with hlt | hge
    · rw [Nat.toDigits_of_lt_base hlt] at hdigits
      rw [← (List.cons.inj hdigits).1]
      simp
      omega
    · rw [Nat.toDigits_of_base_le (by decide) hge] at hdigits
      obtain ⟨d, ds, heq⟩ :=
        List.exists_cons_of_ne_nil (Nat.toDigits_ne_nil (n := n / 10) (b := 10))
      rw [heq, List.cons_append] at hdigits
      obtain ⟨rfl, -⟩ := List.cons.inj hdigits
      exact ih (n / 10) (by omega) (by omega) heq

/-- A number as it is printed is one byte for each digit. -/
theorem utf8_repr (n : Nat) :
    Text.utf8 n.repr = (Nat.toDigits 10 n).map fun c => UInt8.ofNat c.toNat := by
  rw [Nat.repr_eq_ofList_toDigits, Text.utf8_ofList_of_ascii]
  intro c hc
  have hrange := toNat_of_isDigit (isDigit_of_mem_toDigits hc)
  omega

end EditorLink.Decimal
