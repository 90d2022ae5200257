/-!
# Durations

A duration is a whole number of nanoseconds below `2 ^ 64` seconds. Clocks and sums of measured
times are unbounded and are plain natural numbers, of nanoseconds too.

## Main definitions

* `Duration`: a bounded duration.
* `Duration.ofMillis`, `Duration.ofSeconds`, `Duration.ofMinutes`: durations from a 64-bit amount.
-/

namespace LeasePool

/-- An amount of some unit of time that fits in 64 bits. -/
abbrev Amount := Fin 0x10000000000000000

/-- A length of time of fewer than `2 ^ 64` seconds. -/
structure Duration where
  /-- The length in nanoseconds. -/
  nanos : Nat
  nanos_lt : nanos < 0x10000000000000000 * 1_000_000_000 := by decide
deriving DecidableEq

namespace Duration

@[ext] theorem ext {d e : Duration} (h : d.nanos = e.nanos) : d = e := by
  cases d; cases e; simp_all

/-- The empty duration. -/
def zero : Duration := ⟨0, by decide⟩

instance : Inhabited Duration := ⟨zero⟩

/-- The duration of `n` nanoseconds, unless that is `2 ^ 64` seconds or more. -/
def ofNanos? (n : Nat) : Option Duration :=
  if h : n < 0x10000000000000000 * 1_000_000_000 then some ⟨n, h⟩ else none

/-- The duration of `n` milliseconds. -/
def ofMillis (n : Amount) : Duration := ⟨n.val * 1_000_000, by have := n.isLt; omega⟩

/-- The duration of `n` seconds. -/
def ofSeconds (n : Amount) : Duration := ⟨n.val * 1_000_000_000, by have := n.isLt; omega⟩

/-- The duration of `n` minutes, or of `2 ^ 64 - 1` seconds if that is shorter. -/
def ofMinutes (n : Amount) : Duration :=
  ofSeconds ⟨min (n.val * 60) 0xffffffffffffffff, by omega⟩

/-- The number of whole milliseconds in the duration. -/
def millis (d : Duration) : Nat := d.nanos / 1_000_000

/-- The duration is a whole number of milliseconds. -/
def IsWholeMillis (d : Duration) : Prop := d.nanos % 1_000_000 = 0

instance (d : Duration) : Decidable d.IsWholeMillis :=
  inferInstanceAs (Decidable (d.nanos % 1_000_000 = 0))

@[simp] theorem nanos_ofMillis (n : Amount) : (ofMillis n).nanos = n.val * 1_000_000 := rfl

@[simp] theorem nanos_ofSeconds (n : Amount) : (ofSeconds n).nanos = n.val * 1_000_000_000 := rfl

@[simp] theorem nanos_ofMinutes (n : Amount) :
    (ofMinutes n).nanos = min (n.val * 60) 0xffffffffffffffff * 1_000_000_000 := rfl

end Duration

end LeasePool
