import LeasePool.Environment
import LeasePool.Fingerprint
import LeasePool.Settings

/-!
# Leases

A lease is the right to use one connection. While its connection lies idle a lease waits for a
holder; on checkout it is stamped and belongs to its holder until it is handed back or revoked.
Every lease has a key of its own, and two leases of one connection differ in their keys: a revoked
lease stays revoked when its connection goes on under a new one.

## Main definitions

* `Lease`: a connection with its key and its stamps.
* `Lease.opened`: the first lease of a connection.
* `Lease.checkOut`: the stamps of a lease that is handed out.
* `Lease.renewed`: a lease of the same connection under a new key.
* `Lease.usable`: whether a connection may be handed out, which may take a probe.
-/

namespace LeasePool

/-- The right to use a connection. -/
structure Lease where
  /-- What tells this lease from all others. -/
  key : Nat
  /-- The number of the connection. -/
  connection : Nat
  /-- The data source that the connection is stamped with. -/
  fingerprint : Fingerprint
  /-- When the connection was opened. -/
  openedAt : Nat
  /-- When the lease was handed out, if it was. -/
  checkedOutAt : Option Nat := none
  /-- When the connection was last handed out, or else opened. -/
  lastUsedAt : Nat
  /-- The connection was never handed out. -/
  fresh : Bool
deriving DecidableEq

namespace Lease

variable {σ : Type}

/-- The first lease of a connection. -/
def opened (key connection : Nat) (fingerprint : Fingerprint) (now : Nat) : Lease where
  key := key
  connection := connection
  fingerprint := fingerprint
  openedAt := now
  lastUsedAt := now
  fresh := true

/-- How long the lease has been held at a time. -/
def heldFor (l : Lease) (now : Nat) : Nat :=
  match l.checkedOutAt with
  | some t => now - t
  | none => 0

/-- The lease as it is handed out. -/
def checkOut (l : Lease) (fingerprint : Fingerprint) (now : Nat) : Lease :=
  { l with fingerprint, checkedOutAt := some now, lastUsedAt := now, fresh := false }

/-- A lease of the same connection under another key, not handed out. -/
def renewed (l : Lease) (key : Nat) : Lease :=
  { l with key, checkedOutAt := none, fresh := false }

/-- The connection is to be probed before it is handed out at a time: probes are wanted, and it was
handed out before, but not recently. -/
def ProbeDue (l : Lease) (s : Settings) (now : Nat) : Prop :=
  s.pingEnabled = true ∧ l.fresh = false ∧ s.pingIdleThreshold.nanos < now - l.lastUsedAt

instance (l : Lease) (s : Settings) (now : Nat) : Decidable (l.ProbeDue s now) :=
  inferInstanceAs (Decidable (_ ∧ _ ∧ _))

/-- Whether a lease can be handed to someone who expects a fingerprint. A revoked lease and one
with another fingerprint cannot, nor one of a closed connection; any other can, unless a probe is
due and fails. -/
def usable (l : Lease) (b : Backend σ) (s : Settings) (expected : Fingerprint) (revoked : List Nat)
    (e : Environment σ) : Bool × Environment σ :=
  if l.key ∈ revoked ∨ l.fingerprint ≠ expected then (false, e)
  -- whether a probe is due is decided only after the connection has answered
  else match e.ask b .pool l.connection .isClosed with
    | (true, e) => (false, e)
    | (false, e) =>
      if l.ProbeDue s e.clock then e.probe b l.connection s.pingQuery else (true, e)

theorem clock_le_usable (l : Lease) (b : Backend σ) (s : Settings) (expected : Fingerprint)
    (revoked : List Nat) (e : Environment σ) :
    e.clock ≤ (l.usable b s expected revoked e).2.clock := by
  have asked := e.clock_le_ask b .pool l.connection .isClosed
  unfold usable
  split
  · exact Nat.le_refl _
  · split
    · simp_all
    · rename_i e' h
      rw [h] at asked
      split
      · exact Nat.le_trans asked (e'.clock_le_probe b l.connection s.pingQuery)
      · exact asked

end Lease

end LeasePool
