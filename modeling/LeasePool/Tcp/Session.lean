import LeasePool.Pool.Handle
import LeasePool.Tcp.Network

/-!
# Sessions over bare connections

A session opens connections and uses them without a pool. Connections are counted as they are
opened, and only one that was opened can be used.

## Main definitions

* `Session`: a network with the number of connections opened.
* `SessionStep`, `SessionResult`: what can be done, and what comes of it.
* `Session.run`: do one thing after the other.
-/

namespace LeasePool.Tcp

/-- What can be done in a session. -/
inductive SessionStep
  | connect (endpoint : String)
  | perform (id : Nat) (operation : Operation)
  /-- Give up a connection without closing it. -/
  | forsake (id : Nat)

/-- What comes of it. -/
inductive SessionResult
  | opened (id : Nat)
  | answered (answered : Answered)
  | failed (cause : BackendError)
  | forsaken

/-- A network with the number of connections opened. -/
structure Session where
  network : Network
  opened : Nat := 0

/-- A step speaks of a connection that was never opened. -/
structure NeverOpened where
  id : Nat
  /-- The number of connections opened by then. -/
  opened : Nat

namespace Session

/-- Use a connection, if it was opened. -/
def withLink (s : Session) (id : Nat) (use : SessionResult × Session) :
    Except NeverOpened (SessionResult × Session) :=
  if 0 < id ∧ id ≤ s.opened then .ok use else .error ⟨id, s.opened⟩

/-- Do one thing. -/
def step (s : Session) : SessionStep → Except NeverOpened (SessionResult × Session)
  | .connect endpoint =>
    match s.network.connect (s.opened + 1) endpoint with
    | (.ok (), network) => .ok (.opened (s.opened + 1), { network, opened := s.opened + 1 })
    | (.error cause, network) => .ok (.failed cause, { s with network })
  | .perform id operation =>
    let performed := s.network.perform id operation
    s.withLink id (.answered ⟨operation, performed.1⟩, { s with network := performed.2 })
  | .forsake id => s.withLink id (.forsaken, s)

/-- Do one thing after the other. -/
def run (s : Session) : List SessionStep → Except NeverOpened (List SessionResult × Session)
  | [] => .ok ([], s)
  | first :: rest => do
    let (result, s) ← s.step first
    let (results, s) ← run s rest
    return (result :: results, s)

end Session

end LeasePool.Tcp
