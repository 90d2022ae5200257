import LeasePool.Pool

/-!
# Handing a connection back

A holder hands back a lease once. If the lease was revoked meanwhile, that is only counted. Else
the connection goes on the idle list under a new lease, provided there is room, its fingerprint is
still expected, and it can be reset; in all other cases it is closed. Either way there is room for
an acquire that waits, and the longest-waiting one is signalled.

## Main definitions

* `Pool.release`: hand back a lease.
-/

namespace LeasePool.Pool

variable {σ : Type}

/-- Reset a connection that is handed back. A closed one cannot be reset. -/
def restore (b : Backend σ) (e : Environment σ) (connection : Nat) :
    Except BackendError Unit × Environment σ :=
  match e.ask b .pool connection .isClosed with
  | (true, e) => (.error .closed, e)
  | (false, e) => e.reset b connection

/-- Whether a lease that is handed back may go on the idle list at all. -/
def HasRoomFor (p : Pool σ) (l : Lease) : Prop :=
  p.idle.length < p.settings.maxIdle ∧ l.fingerprint = p.expected

instance (p : Pool σ) (l : Lease) : Decidable (p.HasRoomFor l) :=
  inferInstanceAs (Decidable (_ ∧ _))

/-- Put the connection of a lease on the idle list, under a new lease. -/
def shelve (p : Pool σ) (l : Lease) : Pool σ :=
  let (renewed, p) := p.renew l
  { p with idle := p.idle ++ [renewed] }

/-- Hand back a valid lease that is no longer counted among those held. -/
def takeBack (b : Backend σ) (p : Pool σ) (l : Lease) : Pool σ :=
  if p.HasRoomFor l then
    match restore b p.environment l.connection with
    | (.ok (), environment) => { p with environment }.shelve l
    | (.error _, environment) => { p with environment }.destroy b l
  else p.destroy b l

/-- Note that a valid lease is handed back, and for how long it was held. -/
def noteReturn (p : Pool σ) (l : Lease) : Pool σ :=
  { p.record (.returned l.connection) with
    statistics.checkoutTime := p.statistics.checkoutTime + l.heldFor p.now }

/-- Note that a revoked lease is handed back. -/
def noteSpurned (p : Pool σ) (l : Lease) : Pool σ :=
  { p.record (.spurned l.connection) with
    statistics.badConnections := p.statistics.badConnections + 1 }

/-- Hand back a lease. -/
def release (b : Backend σ) (p : Pool σ) (l : Lease) : Pool σ :=
  let p := p.dropActive l
  -- a revoked lease was taken off the list when it was revoked
  if p.IsValid l then ((p.noteReturn l).takeBack b l).notifyOne else p.noteSpurned l

theorem release_of_valid (b : Backend σ) {p : Pool σ} {l : Lease} (valid : p.IsValid l) :
    p.release b l = (((p.dropActive l).noteReturn l).takeBack b l).notifyOne :=
  if_pos (c := (p.dropActive l).IsValid l) valid

theorem release_of_revoked (b : Backend σ) {p : Pool σ} {l : Lease} (isOver : ¬ p.IsValid l) :
    p.release b l = (p.dropActive l).noteSpurned l :=
  if_neg (c := (p.dropActive l).IsValid l) isOver

end LeasePool.Pool
