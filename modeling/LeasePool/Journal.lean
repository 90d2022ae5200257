import LeasePool.Backend

/-!
# The journal of a pool

A journal tells what a pool did: every call on the backend with its answer, and every decision
about a connection. Entries are stamped with the time at which they were made. The counters of a
pool are kept apart from its journal, so that each can be checked against the other.

## Main definitions

* `Event`: a call or a decision.
* `Entry`: an event with its time.
-/

namespace LeasePool

/-- On whose behalf an operation is performed. -/
inductive Party
  /-- The pool itself: resets, probes and closes. -/
  | pool
  /-- The caller who holds the lease. -/
  | holder
deriving DecidableEq

/-- What happened. -/
inductive Event
  /-- An acquire began. -/
  | begun (name : String)
  /-- An acquire began to wait. -/
  | parked (name : String)
  /-- An acquire stopped waiting. -/
  | resumed (name : String)
  /-- An acquire got a connection. -/
  | handedOut (name : String) (id : Nat)
  /-- An acquire failed. -/
  | failed (name : String) (cause : PoolError)
  /-- A connection was opened. -/
  | opened (id : Nat) (endpoint : String) (credentials : Credentials)
  /-- No connection could be opened. -/
  | unopened (endpoint : String) (credentials : Credentials) (cause : BackendError)
  /-- An operation was performed on a connection. -/
  | asked (party : Party) (id : Nat) (operation : Operation) (answer : operation.Answer)
  /-- An acquire turned down a bad connection. -/
  | discarded (id : Nat)
  /-- An overdue lease was taken from its holder. -/
  | reclaimed (id : Nat)
  /-- A lease was taken from its holder because everything was closed. -/
  | withdrawn (id : Nat)
  /-- A holder handed back a valid lease. -/
  | returned (id : Nat)
  /-- A holder handed back a lease that had been revoked. -/
  | spurned (id : Nat)

/-- An event with the time at which it was noted, in nanoseconds. -/
structure Entry where
  time : Nat
  event : Event

end LeasePool
