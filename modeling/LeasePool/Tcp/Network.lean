import LeasePool.Duration
import LeasePool.Tcp.Endpoint
import LeasePool.Tcp.Link

/-!
# A peer behind a network

The network leads to one peer, at one address. The peer may accept connections, or refuse them, or
be out of reach; out of reach it can no more be told to stop, and say what it has received, than
connected to.

## Main definitions

* `Reach`: how far the network leads.
* `Network`: the peer with its connections.
* `Network.connect`: open a connection.
* `Network.received`: what the peer says at the end.
* `Tcp.backend`: connections over a network, as a backend.
-/

namespace LeasePool.Tcp

/-- How far the network leads. -/
inductive Reach
  /-- The peer accepts connections. -/
  | listening
  /-- Nobody listens at the address. -/
  | refused
  /-- No address can be reached. -/
  | unreachable
deriving DecidableEq

/-- The default of the two times. -/
def usualTimeout : Duration := .ofSeconds ⟨5, by decide⟩

/-- The bounds on the times of a connection. -/
structure Timeouts where
  connect : Duration := usualTimeout
  read : Duration := usualTimeout

/-- A peer with its connections. -/
structure Network where
  /-- Where the peer is found. -/
  address : String
  reach : Reach
  timeouts : Timeouts := {}
  /-- The reactions on the connections to come. -/
  scripts : List (List Reaction) := []
  /-- What becomes of the queries on the connections to come. -/
  transits : List (List Transit) := []
  /-- The connections, the latest first, with the numbers under which they were opened. -/
  links : List (Nat × Link) := []

namespace Network

/-- The words of the system for a time that must not be zero. -/
def zeroTimeout : String := "cannot set a 0 duration timeout"

/-- The words of the system for a host that it does not know. -/
def unknownHost : String :=
  "failed to lookup address information: Name or service not known"

/-- The error of an endpoint that does not lead anywhere. -/
def unresolved (endpoint reason : String) : BackendError :=
  .driver ("dns resolution failed for " ++ endpoint ++ ": " ++ reason)

/-- The error of an endpoint to which no connection was made. -/
def unconnected (endpoint reason : String) : BackendError :=
  .driver ("tcp connect to " ++ endpoint ++ ": " ++ reason)

/-- Why no connection can be made to an endpoint, if none can. -/
def obstacle? (n : Network) (endpoint : String) : Option BackendError :=
  match Endpoint.parse endpoint with
  | .error fault => some (unresolved endpoint fault.message)
  | .ok _ =>
    if n.timeouts.connect.nanos = 0 then some (unconnected endpoint zeroTimeout)
    else match n.reach with
      | .unreachable => some (unconnected endpoint "Network is unreachable (os error 101)")
      | .refused =>
        if endpoint = n.address then
          some (unconnected endpoint "Connection refused (os error 111)")
        else some (unresolved endpoint unknownHost)
      | .listening =>
        if endpoint = n.address then none else some (unresolved endpoint unknownHost)

/-- The peer accepts a connection. -/
def accept (n : Network) (id : Nat) : Network :=
  { n with
    scripts := n.scripts.tail
    transits := n.transits.tail
    links := (id, { reactions := n.scripts.headD [], transits := n.transits.headD [] }) :: n.links }

/-- Open a connection. A connection for whose reads no time is allowed is made and given up. -/
def connect (n : Network) (id : Nat) (endpoint : String) : Except BackendError Unit × Network :=
  match n.obstacle? endpoint with
  | some cause => (.error cause, n)
  | none =>
    if n.timeouts.read.nanos = 0 then (.error (.io zeroTimeout), n.accept id)
    else (.ok (), n.accept id)

/-- The connection of a number; one that was never opened is closed. -/
def link (n : Network) (id : Nat) : Link :=
  (n.links.lookup id).getD { reactions := [], closed := true }

/-- Perform an operation on a connection. -/
def perform (n : Network) (id : Nat) (operation : Operation) : operation.Answer × Network :=
  let performed := (n.link id).perform operation
  (performed.1,
    { n with links := n.links.map fun entry =>
        if entry.1 = id then (id, performed.2) else entry })

/-- What the peer says at the end: the lines that it has received on each connection, in the order
in which it accepted them. Nothing can be had from a peer out of reach. -/
def received (n : Network) : Option (List (List String)) :=
  match n.reach with
  | .unreachable => none
  | .listening | .refused => some (n.links.reverse.map fun entry => entry.2.received.reverse)

end Network

/-- Connections over a network. They take no time that counts. -/
def backend : Backend Network where
  connect n id endpoint _ :=
    let connected := n.connect id endpoint
    { answer := connected.1, next := connected.2 }
  ask n id operation :=
    let performed := n.perform id operation
    { answer := performed.1, next := performed.2 }

end LeasePool.Tcp
