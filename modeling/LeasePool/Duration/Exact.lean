import LeasePool.Duration

/-!
# Durations to the nanosecond

An exact duration is written in the largest unit of which it holds one, with as many decimals as
it needs: `0ns`, `1.5µs`, `55.00075ms`, `1.000000001s`.

## Main definitions

* `Duration.exactText`: the exact written form of a number of nanoseconds.
-/

namespace LeasePool.Duration

/-- The units above the nanosecond, largest first: how many decimals it takes to reach the
nanosecond, and the symbol. -/
def units : List (Nat × String) := [(9, "s"), (6, "ms"), (3, "µs")]

/-- The decimals of a fraction of `n / 10 ^ places`, without trailing zeros. -/
def decimals (places n : Nat) : List Char :=
  let written := Nat.toDigits 10 n
  let padded := List.replicate (places - written.length) '0' ++ written
  (padded.reverse.dropWhile (· == '0')).reverse

/-- The number `n / 10 ^ places` with the decimals that it needs. -/
def scaled (places n : Nat) : String :=
  let whole := toString (n / Nat.pow 10 places)
  match decimals places (n % Nat.pow 10 places) with
  | [] => whole
  | fraction => whole ++ "." ++ String.ofList fraction

/-- The exact text: the largest unit that the time holds at least once, and else nanoseconds. -/
def exactText (n : Nat) : String :=
  match units.find? fun (places, _) => Nat.pow 10 places ≤ n with
  | some (places, symbol) => scaled places n ++ symbol
  | none => toString n ++ "ns"

end LeasePool.Duration
