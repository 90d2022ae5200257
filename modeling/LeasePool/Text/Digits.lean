/-!
# Decimal digits

Amounts and counts are written as decimal digits, with or without a plus sign before them.

## Main definitions

* `Text.digits?`: the number that one or more digits write.
* `Text.below?`: a number below a bound, with an optional plus sign.
-/

namespace LeasePool.Text

/-- The digits of a number without its optional plus sign. -/
def dropPlus : List Char → List Char
  | '+' :: rest => rest
  | rest => rest

/-- Reads one or more decimal digits as a number. -/
def digits? (cs : List Char) : Option Nat :=
  if cs ≠ [] ∧ cs.all Char.isDigit then some (Nat.ofDigitChars 10 cs 0) else none

/-- Reads an optional plus sign and the digits of a number below a bound. -/
def below? (bound : Nat) (cs : List Char) : Option (Fin bound) :=
  (digits? (dropPlus cs)).bind fun n => if h : n < bound then some ⟨n, h⟩ else none

theorem isDigit_of_mem_toDigits (n : Nat) : ∀ c ∈ Nat.toDigits 10 n, c.isDigit = true :=
  fun _ => Nat.isDigit_of_mem_toDigits (by decide) (by decide)

end LeasePool.Text
