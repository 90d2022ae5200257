import LeasePool.Journal

/-!
# The environment of a pool

Everything outside a pool that its calls meet: the backend, the time, the tokens cancelled so far,
and the journal of what happened. A pool reaches the backend only through the calls below, each of
which lets the time pass that the backend takes and notes itself in the journal.

## Main definitions

* `Environment.connect`, `Environment.ask`: the two calls on the backend.
* `Environment.reset`: roll back unless every statement is a transaction of its own.
* `Environment.probe`: a query that tells whether a connection is alive.
* `Environment.dispose`: roll back and close, unless already closed.
-/

namespace LeasePool

/-- What lies outside a pool. -/
structure Environment (σ : Type) where
  backend : σ
  /-- The time since the beginning, in nanoseconds. -/
  clock : Nat := 0
  /-- The tokens cancelled so far. -/
  cancelled : List Nat := []
  /-- What happened, the latest first. -/
  journal : List Entry := []

namespace Environment

variable {σ α : Type}

/-- Note an event at the present time. -/
def record (e : Environment σ) (event : Event) : Environment σ :=
  { e with journal := ⟨e.clock, event⟩ :: e.journal }

/-- What is left of the environment after a reply. -/
def after (e : Environment σ) (reply : Reply σ α) : Environment σ :=
  { e with
    backend := reply.next
    clock := e.clock + reply.latency
    cancelled := reply.cancelled ++ e.cancelled }

variable (b : Backend σ)

/-- Open a connection. -/
def connect (e : Environment σ) (id : Nat) (endpoint : String) (credentials : Credentials) :
    Except BackendError Unit × Environment σ :=
  let reply := b.connect e.backend id endpoint credentials
  let event := match reply.answer with
    | .ok () => Event.opened id endpoint credentials
    | .error cause => Event.unopened endpoint credentials cause
  (reply.answer, (e.after reply).record event)

/-- Perform an operation on a connection. -/
def ask (e : Environment σ) (party : Party) (id : Nat) (operation : Operation) :
    operation.Answer × Environment σ :=
  let reply := b.ask e.backend id operation
  (reply.answer, (e.after reply).record (.asked party id operation reply.answer))

/-- Roll back, unless every statement is a transaction of its own. -/
def reset (e : Environment σ) (id : Nat) : Except BackendError Unit × Environment σ :=
  match e.ask b .pool id .autoCommit with
  | (.error cause, e) => (.error cause, e)
  | (.ok true, e) => (.ok (), e)
  | (.ok false, e) => e.ask b .pool id .rollback

/-- Run a query and reset the connection. A connection that fails either is closed. -/
def probe (e : Environment σ) (id : Nat) (query : String) : Bool × Environment σ :=
  match e.ask b .pool id (.execute query) with
  | (.error _, e) => (false, (e.ask b .pool id .close).2)
  | (.ok (), e) =>
    match e.reset b id with
    | (.error _, e) => (false, (e.ask b .pool id .close).2)
    | (.ok (), e) => (true, e)

/-- Reset and close a connection, unless it is closed already. No failure prevents this. -/
def dispose (e : Environment σ) (id : Nat) : Environment σ :=
  match e.ask b .pool id .isClosed with
  | (true, e) => e
  | (false, e) => ((e.reset b id).2.ask b .pool id .close).2

/-! ### Time only moves forward -/

@[simp] theorem clock_record (e : Environment σ) (event : Event) :
    (e.record event).clock = e.clock := rfl

@[simp] theorem backend_record (e : Environment σ) (event : Event) :
    (e.record event).backend = e.backend := rfl

theorem clock_le_connect (e : Environment σ) (id : Nat) (endpoint : String)
    (credentials : Credentials) : e.clock ≤ (e.connect b id endpoint credentials).2.clock :=
  Nat.le_add_right ..

theorem clock_le_ask (e : Environment σ) (party : Party) (id : Nat) (operation : Operation) :
    e.clock ≤ (e.ask b party id operation).2.clock :=
  Nat.le_add_right ..

theorem clock_le_reset (e : Environment σ) (id : Nat) : e.clock ≤ (e.reset b id).2.clock := by
  have asked := e.clock_le_ask b .pool id .autoCommit
  unfold reset
  split
  · simp_all
  · simp_all
  · rename_i e' h
    rw [h] at asked
    exact Nat.le_trans asked (e'.clock_le_ask b .pool id .rollback)

theorem clock_le_probe (e : Environment σ) (id : Nat) (query : String) :
    e.clock ≤ (e.probe b id query).2.clock := by
  have asked := e.clock_le_ask b .pool id (.execute query)
  unfold probe
  split
  · rename_i e' h
    rw [h] at asked
    exact Nat.le_trans asked (e'.clock_le_ask b .pool id .close)
  · rename_i e' h
    rw [h] at asked
    have restored := e'.clock_le_reset b id
    split
    · rename_i e'' h'
      rw [h'] at restored
      exact Nat.le_trans asked (Nat.le_trans restored (e''.clock_le_ask b .pool id .close))
    · rename_i e'' h'
      rw [h'] at restored
      exact Nat.le_trans asked restored

theorem clock_le_dispose (e : Environment σ) (id : Nat) :
    e.clock ≤ (e.dispose b id).clock := by
  have asked := e.clock_le_ask b .pool id .isClosed
  unfold dispose
  split
  · simp_all
  · rename_i e' h
    rw [h] at asked
    exact Nat.le_trans asked
      (Nat.le_trans (e'.clock_le_reset b id) (clock_le_ask b _ .pool id .close))

end Environment

end LeasePool
