import LeasePool.Backend

/-!
# Scripted backends

A scripted backend does as it is told: how its connections behave is written down beforehand and
can be changed at any time. New connections behave like a template, except where the script, which
gives one entry to every attempt to open a connection, says otherwise.

## Main definitions

* `Conduct`: how a connection behaves.
* `Scripted`: the state of a scripted backend.
* `Scripted.backend`: the backend itself.
-/

namespace LeasePool

/-- How a connection behaves. -/
structure Conduct where
  /-- The answer to whether every statement is a transaction of its own. -/
  autoCommit : Except BackendError Bool := .ok false
  /-- The failure of every query. -/
  executeError : Option BackendError := none
  rollbackError : Option BackendError := none
  closeError : Option BackendError := none
  /-- The connection is closed. -/
  closed : Bool := false
  /-- A query that fails closes the connection. -/
  executeCloses : Bool := false
  /-- A close that fails leaves the connection open. -/
  closeKeepsOpen : Bool := false
  executeNanos : Nat := 0
  rollbackNanos : Nat := 0
  closeNanos : Nat := 0
  isClosedNanos : Nat := 0

/-- What becomes of one attempt to open a connection. -/
inductive Opening
  /-- It succeeds, with a connection that departs from the template. -/
  | succeed (depart : Conduct → Conduct)
  | fail (cause : BackendError)

/-- The state of a scripted backend. -/
structure Scripted where
  /-- What becomes of the next attempts to open a connection. -/
  script : List Opening := []
  /-- The failure of every attempt that the script does not cover. -/
  openError : Option BackendError := none
  /-- How long an attempt takes. -/
  openNanos : Nat := 0
  /-- How new connections behave. -/
  template : Conduct := {}
  /-- How the connections behave that were opened, the latest first. -/
  connections : List (Nat × Conduct) := []

namespace Conduct

/-- Failure with a given cause, if one is given. -/
def failing : Option BackendError → Except BackendError Unit
  | some cause => .error cause
  | none => .ok ()

/-- What a connection answers to an operation. -/
def answer (c : Conduct) : (operation : Operation) → operation.Answer
  | .close => failing c.closeError
  | .rollback => failing c.rollbackError
  | .autoCommit => c.autoCommit
  | .isClosed => c.closed
  | .execute _ => failing c.executeError

/-- How long an operation takes. -/
def latency (c : Conduct) : Operation → Nat
  | .close => c.closeNanos
  | .rollback => c.rollbackNanos
  | .autoCommit => 0
  | .isClosed => c.isClosedNanos
  | .execute _ => c.executeNanos

/-- An operation closes the connection. -/
def closedBy (c : Conduct) : Operation → Bool
  | .close => c.closeError.isNone || !c.closeKeepsOpen
  | .execute _ => c.executeError.isSome && c.executeCloses
  | .rollback | .autoCommit | .isClosed => false

/-- How a connection behaves after an operation. -/
def after (c : Conduct) (operation : Operation) : Conduct :=
  { c with closed := c.closed || c.closedBy operation }

end Conduct

namespace Scripted

/-- How a connection behaves; one that was never opened behaves like any other. -/
def conduct (s : Scripted) (id : Nat) : Conduct := (s.connections.lookup id).getD {}

/-- Change how one connection behaves. -/
def adjust (s : Scripted) (id : Nat) (f : Conduct → Conduct) : Scripted :=
  { s with connections := s.connections.map fun entry =>
      if entry.1 = id then (id, f entry.2) else entry }

/-- Change how every connection behaves. -/
def adjustAll (s : Scripted) (f : Conduct → Conduct) : Scripted :=
  { s with connections := s.connections.map fun entry => (entry.1, f entry.2) }

/-- What becomes of the next attempt to open a connection: the script decides first. -/
def nextOpening (s : Scripted) : Opening :=
  match s.script, s.openError with
  | opening :: _, _ => opening
  | [], some cause => .fail cause
  | [], none => .succeed id

/-- Open a connection. -/
def connect (s : Scripted) (id : Nat) : Reply Scripted (Except BackendError Unit) :=
  let tried := { s with script := s.script.tail }
  match s.nextOpening with
  | .fail cause => { answer := .error cause, next := tried, latency := s.openNanos }
  | .succeed depart =>
    { answer := .ok ()
      next := { tried with connections := (id, depart s.template) :: s.connections }
      latency := s.openNanos }

/-- Perform an operation. -/
def ask (s : Scripted) (id : Nat) (operation : Operation) : Reply Scripted operation.Answer where
  answer := (s.conduct id).answer operation
  next := s.adjust id fun c => c.after operation
  latency := (s.conduct id).latency operation

/-- The scripted backend. -/
def backend : Backend Scripted where
  connect s id _ _ := s.connect id
  ask s id operation := s.ask id operation

end Scripted

end LeasePool
