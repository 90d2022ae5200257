import LeasePool.Decimal.Binary64

/-!
# The shortest decimal that reads back

A floating-point number is shown with the fewest digits that no other number of the format is
nearer to, and always with a decimal point: `1.5`, `1000.0`, `0.0001`.

## Main definitions

* `Binary64.shortest`: the digits and the power of ten of the shortest decimal of a number.
* `Binary64.text`: a number in positional notation.
-/

namespace LeasePool.Binary64

/-- The decimals of a grid of steps `10 ^ power` that round to `m * 2 ^ q`, nearest first. Only
the two neighbours of the number on the grid can. The ends of the interval that rounds to the
number belong to it if `m` is even; towards zero the interval is half as long at a power of two. -/
def gridHit? (m : Nat) (q power : Int) : Option Nat :=
  let (up2, down2) := scaling 2 (q - 2)
  let (up10, down10) := scaling 10 power
  -- everything is scaled so that a step of the grid and a quarter of the last place are whole
  let unit := up10 * down2
  let value := 4 * m * up2 * down10
  let below := (if m = 0x10000000000000 ∧ -1074 < q then 1 else 2) * up2 * down10
  let above := 2 * up2 * down10
  -- the neighbours of the number on the grid
  let low := value / unit
  let high := low + 1
  let lowHit := if m % 2 = 0 then value ≤ low * unit + below else value < low * unit + below
  let highHit := if m % 2 = 0 then high * unit ≤ value + above else high * unit < value + above
  if lowHit ∧ (¬ highHit ∨ 2 * (value - low * unit) < unit) then some low
  else if highHit then some high
  else none

/-- The digits and the power of ten of the shortest decimal that rounds to `m * 2 ^ q`, from the
coarsest grid that has one. -/
def shortest (m : Nat) (q : Int) : Nat × Int :=
  if m = 0 then (0, 0)
  -- from above the largest number to below the smallest
  else ((List.range 640).findSome? fun (i : Nat) =>
    let power : Int := 310 - (i : Int)
    (gridHit? m q power).map fun digits => (digits, power)).getD (0, 0)

/-- The number `digits * 10 ^ power` in positional notation, with a decimal point. -/
def positional (digits : Nat) (power : Int) : String :=
  let written := Nat.toDigits 10 digits ++ List.replicate power.toNat '0'
  let places := (-power).toNat
  if places = 0 then String.ofList written ++ ".0"
  else
    let padded := List.replicate (places + 1 - written.length) '0' ++ written
    let whole := padded.length - places
    String.ofList (padded.take whole ++ '.' :: padded.drop whole)

/-- The shown form of a number. -/
def text : Binary64 → String
  | .finite negative m q =>
    let (digits, power) := shortest m q
    (if negative then "-" else "") ++ positional digits power
  | .infinite negative => if negative then "-inf" else "inf"
  | .nan => "NaN"

end LeasePool.Binary64
