import LeasePool.Pool

/-!
# Changing, emptying and ending a pool

Whatever is changed about a pool, its connections are closed, its leases revoked, and all who wait
are signalled. A pool that is shut down is emptied once and serves nobody afterwards. Cancelling a
token takes two steps: the token is marked, and later all who wait are signalled, so that an
acquire may run in between.

## Main definitions

* `Change`: what can be changed about a pool; `Pool.change` changes it.
* `Pool.clear`: close every connection and revoke every lease; `Pool.closeAll` signals all who wait
  as well.
* `Pool.shutdown`: close everything for good.
* `Pool.mark`: the first step of cancelling a token; the second is `Pool.notifyAll`.
-/

namespace LeasePool

/-- What can be changed about a pool. -/
inductive Change
  | endpoint (endpoint : String)
  | credentials (credentials : Credentials)
  | settings (settings : Settings)
  | maxActive (count : Nat)
  | maxIdle (count : Nat)
  | maxCheckoutTime (time : Duration)
  | waitTimeout (time : Duration)
  | badConnectionTolerance (count : Nat)
  | pingEnabled (enabled : Bool)
  | pingQuery (query : String)
  | pingIdleThreshold (time : Duration)
deriving DecidableEq

namespace Change

/-- A change as it affects the data source. -/
def source (c : Change) (s : DataSource) : DataSource :=
  match c with
  | .endpoint e => { s with endpoint := e }
  | .credentials c => { s with credentials := c }
  | _ => s

/-- A change as it affects the settings. -/
def tuned (c : Change) (s : Settings) : Settings :=
  match c with
  | .endpoint _ | .credentials _ => s
  | .settings replacement => replacement
  | .maxActive n => { s with maxActive := n }
  | .maxIdle n => { s with maxIdle := n }
  | .maxCheckoutTime t => { s with maxCheckoutTime := t }
  | .waitTimeout t => { s with waitTimeout := t }
  | .badConnectionTolerance n => { s with badConnectionTolerance := n }
  | .pingEnabled enabled => { s with pingEnabled := enabled }
  | .pingQuery query => { s with pingQuery := query }
  | .pingIdleThreshold t => { s with pingIdleThreshold := t }

end Change

namespace Pool

variable {σ : Type}

/-- Take a lease from its holder, and close its connection. -/
def withdraw (b : Backend σ) (p : Pool σ) (l : Lease) : Pool σ :=
  (p.record (.withdrawn l.connection)).destroy b l

/-- The pool without its leases; from now on it expects the fingerprint of its data source. -/
def vacated (p : Pool σ) : Pool σ :=
  { p with expected := p.source.fingerprint, active := [], idle := [] }

/-- Close every connection and revoke every lease: first those that are held, then those that lie
idle, the youngest first in either list. -/
def clear (b : Backend σ) (p : Pool σ) : Pool σ :=
  p.idle.reverse.foldl (destroy b) (p.active.reverse.foldl (withdraw b) p.vacated)

/-- Close every connection and revoke every lease, and signal all who wait. -/
def closeAll (b : Backend σ) (p : Pool σ) : Pool σ := (p.clear b).notifyAll

/-- Change something about a pool. -/
def change (b : Backend σ) (p : Pool σ) (c : Change) : Pool σ :=
  { p with source := c.source p.source, settings := c.tuned p.settings }.closeAll b

/-- Close everything, and serve nobody from now on. -/
def shutdown (b : Backend σ) (p : Pool σ) : Pool σ :=
  if p.shutDown then p else { p with shutDown := true }.closeAll b

/-- Mark a token as cancelled. -/
def mark (p : Pool σ) (token : Nat) : Pool σ :=
  { p with environment.cancelled := token :: p.environment.cancelled }

end Pool

end LeasePool
