/-!
# Statistics

A pool counts what happens to it and adds up times; averages are taken when they are asked for.

## Main definitions

* `Statistics`: the counters and sums.
* `Statistics.average`: a sum divided among a number of occurrences.
-/

namespace LeasePool

/-- What a pool has counted so far. Times are in nanoseconds. -/
structure Statistics where
  /-- Acquires that got a connection. -/
  requestCount : Nat := 0
  /-- The time that these acquires took, added up. -/
  requestTime : Nat := 0
  /-- The times for which leases were held, added up. -/
  checkoutTime : Nat := 0
  /-- Leases taken from their holders. -/
  claimedOverdue : Nat := 0
  /-- The times for which these leases were held, added up. -/
  overdueCheckoutTime : Nat := 0
  /-- Acquires that had to wait. -/
  hadToWait : Nat := 0
  /-- The times of waiting, added up. -/
  waitTime : Nat := 0
  /-- Bad connections met on checkout or return. -/
  badConnections : Nat := 0
deriving DecidableEq, Inhabited

/-- The share of each of `count` occurrences in a total, rounded down; nothing for none. -/
def Statistics.average (total count : Nat) : Nat := total / count

end LeasePool
