import LeasePool.Duration
import LeasePool.Text.Blank
import LeasePool.Text.Digits

/-!
# Durations as people write them

A duration is written as an amount and a unit, `500ms`, `20s` or `2m`; an amount without a unit
counts seconds. Blanks may stand around the amount and after the unit. Written durations use
seconds where they are whole and milliseconds otherwise.

## Main definitions

* `Duration.TimeUnit`: the units, with `TimeUnit.of` giving the duration of an amount.
* `Duration.parse?`: reads a duration.
* `Duration.format`: writes a duration, down to the millisecond.
-/

namespace LeasePool.Duration

/-- The units a duration may be written in; an amount that names none counts seconds. -/
inductive TimeUnit
  | milliseconds
  | seconds
  | minutes
  | unnamed
deriving DecidableEq

namespace TimeUnit

/-- The written name of a unit. -/
def name : TimeUnit → List Char
  | milliseconds => ['m', 's']
  | seconds => ['s']
  | minutes => ['m']
  | unnamed => []

/-- The duration of so many of the unit. -/
def of : TimeUnit → Amount → Duration
  | milliseconds => ofMillis
  | seconds => ofSeconds
  | minutes => ofMinutes
  | unnamed => ofSeconds

end TimeUnit

/-- Splits a text, given from its end, into what precedes the unit and the unit. -/
def splitUnitReversed : List Char → List Char × TimeUnit
  | 's' :: 'm' :: rest => (rest.reverse, .milliseconds)
  | 's' :: rest => (rest.reverse, .seconds)
  | 'm' :: rest => (rest.reverse, .minutes)
  | rest => (rest.reverse, .unnamed)

/-- Splits a text into what precedes its unit and the unit. -/
def splitUnit (cs : List Char) : List Char × TimeUnit := splitUnitReversed cs.reverse

/-- Reads an amount: an optional plus sign and the digits of a number below `2 ^ 64`. -/
def amount? (cs : List Char) : Option Amount := Text.below? 0x10000000000000000 cs

/-- Reads a duration. -/
def parse? (s : String) : Option Duration :=
  let (amount, unit) := splitUnit (Text.trim s.toList)
  (amount? (Text.trim amount)).map unit.of

/-- Writes a duration in seconds if its whole milliseconds are whole seconds, and else in
milliseconds. What is beyond the last whole millisecond is left out. -/
def format (d : Duration) : String :=
  if d.millis % 1000 = 0 then s!"{d.millis / 1000}s" else s!"{d.millis}ms"

end LeasePool.Duration
