/-!
# Binary floating point with 53 bits

Decimal numbers are rounded to the nearest number of the form `m * 2 ^ q` with `m < 2 ^ 53` and
`-1074 ≤ q ≤ 971`, half-way cases to the even `m`. All arithmetic is on whole numbers.

## Main definitions

* `Binary64`: a number of the format, an infinity, or no number.
* `Binary64.ofDecimal`: the nearest number to a decimal one.
-/

namespace LeasePool

/-- A number in the 64-bit binary floating-point format. -/
inductive Binary64
  /-- The number `mantissa * 2 ^ exponent`, or its negative. -/
  | finite (negative : Bool) (mantissa : Nat) (exponent : Int)
  /-- Beyond the largest finite number. -/
  | infinite (negative : Bool)
  /-- Not a number. -/
  | nan
deriving DecidableEq

namespace Binary64

/-- The fraction `numerator / denominator` to the nearest whole number, a half to the even one. -/
def roundHalfEven (numerator denominator : Nat) : Nat :=
  let down := numerator / denominator
  let twice := 2 * (numerator % denominator)
  if twice < denominator then down
  else if denominator < twice then down + 1
  else down + down % 2

/-- The factors of numerator and denominator that multiply a fraction by `base ^ exponent`. -/
def scaling (base : Nat) (exponent : Int) : Nat × Nat :=
  (base.pow exponent.toNat, base.pow (-exponent).toNat)

/-- The largest `k` with `2 ^ k ≤ numerator / denominator`, for a positive fraction. -/
def floorLog2 (numerator denominator : Nat) : Int :=
  -- the difference of the lengths is right or one too large
  let k : Int := (numerator.log2 : Int) - denominator.log2
  let (up, down) := scaling 2 k
  if numerator * down < denominator * up then k - 1 else k

/-- The nearest number to a positive fraction. -/
def ofFraction (negative : Bool) (numerator denominator : Nat) : Binary64 :=
  let q := max (-1074) (floorLog2 numerator denominator - 52)
  let (up, down) := scaling 2 q
  let m := roundHalfEven (numerator * down) (denominator * up)
  -- rounding up may need one bit more
  let (m, q) := if m = 0x20000000000000 then (0x10000000000000, q + 1) else (m, q)
  if 971 < q then .infinite negative else .finite negative m q

/-- The nearest number to `digits * 10 ^ exponent`. Numbers far outside the range of the format
are settled by their order of magnitude alone. -/
def ofDecimal (negative : Bool) (digits : Nat) (exponent : Int) : Binary64 :=
  let magnitude : Int := (Nat.toDigits 10 digits).length + exponent
  if digits = 0 ∨ magnitude < -400 then .finite negative 0 (-1074)
  else if 400 < magnitude then .infinite negative
  else
    let (up, down) := scaling 10 exponent
    ofFraction negative (digits * up) down

end Binary64

end LeasePool
