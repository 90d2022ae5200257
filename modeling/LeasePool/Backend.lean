import LeasePool.DataSource
import LeasePool.Error

/-!
# Backends

What a pool needs from the far side: to open a connection, and to ask something of an open one.
A backend is a deterministic machine with a state of its own. What a call costs in time, and which
tokens are cancelled while it runs, is part of what the call yields, so that anything that can
happen during a call is some backend's doing.

## Main definitions

* `Operation`: what may be asked of an open connection; `Operation.Answer` is what comes back.
* `Reply`: what a call yields.
* `Backend`: a machine that opens connections and performs operations on them.
-/

namespace LeasePool

/-- What may be asked of an open connection. -/
inductive Operation
  /-- Close it physically. -/
  | close
  /-- Undo what was done since the last transaction ended. -/
  | rollback
  /-- Whether every statement is a transaction of its own. -/
  | autoCommit
  /-- Whether it is already known to be closed. -/
  | isClosed
  /-- Run a query and discard its result. -/
  | execute (query : String)
deriving DecidableEq

/-- The answers to an operation. Only the question whether a connection is closed cannot fail. -/
abbrev Operation.Answer : Operation → Type
  | autoCommit => Except BackendError Bool
  | isClosed => Bool
  | close | rollback | execute _ => Except BackendError Unit

/-- What a call yields: an answer, and what happened until the answer came. -/
structure Reply (σ α : Type) where
  answer : α
  /-- The backend after the call. -/
  next : σ
  /-- How long the call took, in nanoseconds. -/
  latency : Nat := 0
  /-- The tokens that were cancelled while the call ran. -/
  cancelled : List Nat := []

/-- A machine that opens connections and performs operations on them. The pool chooses the number
under which it speaks of a connection. -/
structure Backend (σ : Type) where
  /-- Open a connection under a number, to an endpoint with some credentials. -/
  connect (state : σ) (id : Nat) (endpoint : String) (credentials : Credentials) :
    Reply σ (Except BackendError Unit)
  /-- Perform an operation on the connection with a number. -/
  ask (state : σ) (id : Nat) (operation : Operation) : Reply σ operation.Answer

end LeasePool
