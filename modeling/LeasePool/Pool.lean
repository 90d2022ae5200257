import LeasePool.Lease
import LeasePool.Report
import LeasePool.Statistics

/-!
# Pools

A pool keeps connections to one data source and leases them. At any time a connection of the pool
lies idle or is leased; acquires that find neither an idle connection nor room for another one wait
in the order in which they came.

Everything here happens in one piece: no two operations on a pool overlap.

## Main definitions

* `Pool`: the state of a pool.
* `Request`, `Waiter`: an acquire, and an acquire that waits.
* `Pool.new`: a pool that has opened nothing yet.
* `Pool.notifyOne`, `Pool.notifyAll`: the signals to those who wait; `Pool.rouse`: a wait that ends
  without one.
* `Pool.revoke`, `Pool.destroy`, `Pool.renew`: the ends of a lease.
* `Pool.status`, `Pool.report`, `Pool.inspect`: what a pool shows.
-/

namespace LeasePool

/-- Who asks for a connection, and since when. -/
structure Request where
  /-- The name of the acquire, and of the handle that it may get. -/
  name : String
  credentials : Credentials
  /-- The token that can cancel the acquire. -/
  token : Option Nat := none
  /-- When the acquire began. -/
  started : Nat
deriving DecidableEq

/-- An acquire that waits. -/
structure Waiter where
  request : Request
  /-- The bad connections that it has met. -/
  discarded : Nat := 0
  /-- When it began to wait. -/
  parkedAt : Nat
  /-- When it looks again without having been signalled. -/
  deadline : Option Nat
deriving DecidableEq

/-- The state of a pool. -/
structure Pool (σ : Type) where
  settings : Settings
  source : DataSource
  /-- The fingerprint that every lease must have. -/
  expected : Fingerprint
  /-- The leases that wait for a holder, the first to be handed out first. -/
  idle : List Lease := []
  /-- The leases that are held, in the order in which they were handed out. -/
  active : List Lease := []
  /-- The keys of revoked leases. -/
  revoked : List Nat := []
  statistics : Statistics := {}
  /-- Acquires that wait for a signal, the longest-waiting first. -/
  parked : List Waiter := []
  /-- Acquires that were signalled and have not run since, the first signalled first. -/
  signalled : List Waiter := []
  /-- Acquires whose wait ended by itself and that have not run since. -/
  roused : List Waiter := []
  /-- The tokens that were cancelled when last all who wait were signalled. -/
  heard : List Nat := []
  shutDown : Bool := false
  /-- The number of the next connection. -/
  nextConnection : Nat := 1
  /-- The key of the next lease. -/
  nextKey : Nat := 1
  environment : Environment σ

namespace Pool

variable {σ : Type}

/-- A pool that has opened nothing yet. -/
def new (source : DataSource) (settings : Settings) (backend : σ) : Pool σ where
  settings := settings
  source := source
  expected := source.fingerprint
  environment := { backend }

/-- The present time. -/
def now (p : Pool σ) : Nat := p.environment.clock

/-- Note an event. -/
def record (p : Pool σ) (event : Event) : Pool σ :=
  { p with environment := p.environment.record event }

/-- Let time pass. -/
def elapse (p : Pool σ) (nanos : Nat) : Pool σ :=
  { p with environment.clock := p.environment.clock + nanos }

/-- Let something happen to the backend. -/
def meddle (p : Pool σ) (happen : σ → σ) : Pool σ :=
  { p with environment.backend := happen p.environment.backend }

/-- The token of an acquire was cancelled; an acquire without one cannot be. -/
def isCancelled (p : Pool σ) : Option Nat → Bool
  | some token => token ∈ p.environment.cancelled
  | none => false

/-! ### Signals -/

/-- Everybody who waits or has not run since. -/
def waiters (p : Pool σ) : List Waiter := p.roused ++ (p.signalled ++ p.parked)

/-- Signal the acquire that has waited longest. -/
def notifyOne (p : Pool σ) : Pool σ :=
  match p.parked with
  | [] => p
  | w :: rest => { p with parked := rest, signalled := p.signalled ++ [w] }

/-- Signal every acquire that waits. -/
def notifyAll (p : Pool σ) : Pool σ :=
  { p with
    parked := [], signalled := p.signalled ++ p.parked, heard := p.environment.cancelled }

/-- The wait of an acquire ends by itself, and the acquire is about to run. -/
def rouse (p : Pool σ) (w : Waiter) : Pool σ :=
  { p with parked := p.parked.erase w, roused := p.roused ++ [w] }

/-! ### The ends of a lease -/

/-- A lease is valid until it is revoked. -/
def IsValid (p : Pool σ) (l : Lease) : Prop := l.key ∉ p.revoked

instance (p : Pool σ) (l : Lease) : Decidable (p.IsValid l) :=
  inferInstanceAs (Decidable (¬ _))

/-- Revoke a lease. -/
def revoke (p : Pool σ) (l : Lease) : Pool σ := { p with revoked := l.key :: p.revoked }

/-- Revoke a lease and close its connection. -/
def destroy (b : Backend σ) (p : Pool σ) (l : Lease) : Pool σ :=
  { p.revoke l with environment := p.environment.dispose b l.connection }

/-- Revoke a lease, and give its connection a new one. -/
def renew (p : Pool σ) (l : Lease) : Lease × Pool σ :=
  (l.renewed p.nextKey, { p.revoke l with nextKey := p.nextKey + 1 })

/-- Take a lease off the list of those that are held. -/
def dropActive (p : Pool σ) (l : Lease) : Pool σ :=
  { p with active := p.active.eraseP fun other => other.key = l.key }

/-- Whether a lease may be handed out, or used by its holder. -/
def usable (b : Backend σ) (p : Pool σ) (l : Lease) : Bool × Pool σ :=
  let checked := l.usable b p.settings p.expected p.revoked p.environment
  (checked.1, { p with environment := checked.2 })

/-! ### What a pool shows -/

/-- The counts and averages of the moment. -/
def status (p : Pool σ) : Status where
  active := p.active.length
  idle := p.idle.length
  requestCount := p.statistics.requestCount
  averageRequestTime := Statistics.average p.statistics.requestTime p.statistics.requestCount
  averageCheckoutTime := Statistics.average p.statistics.checkoutTime p.statistics.requestCount
  claimedOverdue := p.statistics.claimedOverdue
  averageOverdueCheckoutTime :=
    Statistics.average p.statistics.overdueCheckoutTime p.statistics.claimedOverdue
  hadToWait := p.statistics.hadToWait
  averageWaitTime := Statistics.average p.statistics.waitTime p.statistics.hadToWait
  badConnectionCount := p.statistics.badConnections

/-- The status with the data source and the settings. -/
def report (p : Pool σ) : Report := ⟨p.source, p.settings, p.status⟩

/-- The pool for inspection. -/
def inspect (p : Pool σ) : String :=
  "PoolManager \x7b endpoint: " ++ Text.quoted p.source.endpoint ++ ", config: " ++
    p.settings.inspect ++ s!", active: {p.active.length}, idle: {p.idle.length}, shut_down: " ++
    toString p.shutDown ++ ", .. \x7d"

end Pool

end LeasePool
