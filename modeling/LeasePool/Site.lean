import LeasePool.Pool.Acquire
import LeasePool.Pool.Change
import LeasePool.Pool.Handle
import LeasePool.Pool.Release

/-!
# A pool in use

A site is a pool with the handles that its callers hold. What callers, the passing time and the
backend do to a site is an action; actions follow one another in any order, and each takes place as
a whole. An acquire that waits can run on at any time, whether or not it was signalled and whether
or not its wait is over. A caller that asks for a connection with the credentials of the data source
looks them up first, and anything can happen before it goes on.

## Main definitions

* `Site`: a pool with the handles to it.
* `Action`: what happens at a site; `Site.act` makes it happen and tells the `Outcome`.
* `Site.Leads`, `Site.Reachable`: the sites to which actions lead, from a site or from a new pool.
-/

namespace LeasePool

/-- A pool with what its callers hold, by their names. -/
structure Site (σ : Type) where
  pool : Pool σ
  handles : List (String × Lease) := []
  /-- The credentials that callers have looked up, to ask for a connection with them. -/
  lookups : List (String × Credentials) := []

/-- What can happen at a site. -/
inductive Action (σ : Type)
  /-- A caller looks up the credentials of the data source and asks for a connection with them, in
  one piece. -/
  | get (name : String)
  /-- A caller looks up the credentials of the data source. -/
  | lookUp (name : String)
  /-- A caller asks for a connection with the credentials that it has looked up. -/
  | proceed (name : String)
  /-- A caller asks for a connection with credentials of its own, and perhaps a token. -/
  | acquire (name : String) (credentials : Credentials) (token : Option Nat)
  /-- The wait of an acquire ends by itself, and the acquire is about to run. -/
  | rouse (waiter : Waiter)
  /-- An acquire that waits runs on. -/
  | resume (waiter : Waiter)
  /-- A caller hands back a connection. -/
  | release (name : String)
  /-- A caller asks whether its connection is still good. -/
  | validate (name : String)
  /-- A caller performs an operation on its connection. -/
  | perform (name : String) (operation : Operation)
  /-- A caller performs several operations on its connection, in one piece. -/
  | borrow (name : String) (operations : List Operation)
  /-- A token is marked as cancelled. -/
  | mark (token : Nat)
  /-- All who wait are signalled. -/
  | notifyAll
  /-- Something about the pool is changed. -/
  | change (change : Change)
  /-- All connections are closed. -/
  | closeAll
  /-- The pool is shut down. -/
  | shutdown
  /-- Time passes. -/
  | elapse (nanos : Nat)
  /-- Something happens to the backend. -/
  | backend (happen : σ → σ)

/-- What an action comes to. -/
inductive Outcome
  /-- There is nothing to tell. -/
  | done
  /-- The acquire waits. -/
  | waiting
  /-- The acquire got this connection. -/
  | leased (connection : Nat)
  /-- The acquire or the operation failed. -/
  | failed (cause : PoolError)
  /-- The connection is good, or not. -/
  | validated (good : Bool)
  /-- The operation was performed. -/
  | performed (answered : Answered)
  /-- The operations were performed, or failed, one by one. -/
  | borrowed (answers : List Answered)
  /-- There is no handle, or nobody who waits or has looked up credentials, of that name. -/
  | absent
  /-- The name belongs to a handle, or to somebody who asks for a connection. -/
  | taken

namespace Site

variable {σ : Type}

/-- A site with a new pool. -/
def new (source : DataSource) (settings : Settings) (backend : σ) : Site σ :=
  { pool := .new source settings backend }

/-- The lease behind a handle. -/
def handle? (s : Site σ) (name : String) : Option Lease := s.handles.lookup name

/-- Everybody who waits or has not run since. -/
def waiters (s : Site σ) : List Waiter := s.pool.waiters

/-- The names of the handles, of those who wait, and of those who have looked up credentials. -/
def names (s : Site σ) : List String :=
  s.handles.map Prod.fst ++ s.waiters.map (fun w => w.request.name) ++ s.lookups.map Prod.fst

/-- The name belongs to a handle, or to somebody who asks for a connection. -/
def IsTaken (s : Site σ) (name : String) : Prop := name ∈ s.names

instance (s : Site σ) (name : String) : Decidable (s.IsTaken name) :=
  inferInstanceAs (Decidable (_ ∈ _))

/-- A site after an acquire got as far as it got. -/
def afterAcquire (s : Site σ) (name : String) (acquired : Acquired × Pool σ) : Outcome × Site σ :=
  match acquired with
  | (.granted l, pool) =>
    (.leased l.connection, { s with pool, handles := (name, l) :: s.handles })
  | (.failed cause, pool) => (.failed cause, { s with pool })
  | (.waiting, pool) => (.waiting, { s with pool })

variable (b : Backend σ)

/-- An acquire begins. -/
def start (s : Site σ) (name : String) (credentials : Credentials) (token : Option Nat) :
    Outcome × Site σ :=
  s.afterAcquire name (s.pool.acquire b ⟨name, credentials, token, s.pool.now⟩)

/-- An acquire begins, unless its name is taken. -/
def begin (s : Site σ) (name : String) (credentials : Credentials) (token : Option Nat) :
    Outcome × Site σ :=
  if s.IsTaken name then (.taken, s) else s.start b name credentials token

/-- Something is done with a handle, if there is one of that name. -/
def withHandle (s : Site σ) (name : String) (use : Lease → Outcome × Site σ) : Outcome × Site σ :=
  match s.handle? name with
  | some l => use l
  | none => (.absent, s)

/-- What happens at a site. -/
def act (s : Site σ) : Action σ → Outcome × Site σ
  | .get name => s.begin b name s.pool.source.credentials none
  | .lookUp name =>
    if s.IsTaken name then (.taken, s)
    else (.done, { s with lookups := (name, s.pool.source.credentials) :: s.lookups })
  | .proceed name =>
    match s.lookups.lookup name with
    | some credentials =>
      -- the name goes over to the acquire
      { s with lookups := s.lookups.filter fun entry => entry.1 ≠ name }.start b name
        credentials none
    | none => (.absent, s)
  | .acquire name credentials token => s.begin b name credentials token
  | .rouse w =>
    if w ∈ s.pool.parked then (.done, { s with pool := s.pool.rouse w }) else (.absent, s)
  | .resume w =>
    if w ∈ s.waiters then s.afterAcquire w.request.name (s.pool.resume b w) else (.absent, s)
  | .release name =>
    s.withHandle name fun l =>
      (.done,
        { s with
          pool := s.pool.release b l, handles := s.handles.filter fun entry => entry.1 ≠ name })
  | .validate name =>
    s.withHandle name fun l =>
      let checked := s.pool.usable b l
      (.validated checked.1, { s with pool := checked.2 })
  | .perform name operation =>
    s.withHandle name fun l =>
      match s.pool.perform b l operation with
      | (.ok answered, pool) => (.performed answered, { s with pool })
      | (.error cause, pool) => (.failed cause, { s with pool })
  | .borrow name operations =>
    s.withHandle name fun l =>
      match s.pool.borrow b l operations with
      | (.ok answers, pool) => (.borrowed answers, { s with pool })
      | (.error cause, pool) => (.failed cause, { s with pool })
  | .mark token => (.done, { s with pool := s.pool.mark token })
  | .notifyAll => (.done, { s with pool := s.pool.notifyAll })
  | .change c => (.done, { s with pool := s.pool.change b c })
  | .closeAll => (.done, { s with pool := s.pool.closeAll b })
  | .shutdown => (.done, { s with pool := s.pool.shutdown b })
  | .elapse nanos => (.done, { s with pool := s.pool.elapse nanos })
  | .backend happen => (.done, { s with pool := s.pool.meddle happen })

@[simp] theorem pool_afterAcquire (s : Site σ) (name : String) (acquired : Acquired × Pool σ) :
    (s.afterAcquire name acquired).2.pool = acquired.2 := by
  unfold afterAcquire
  split <;> rfl

/-- An acquire that waits runs on. -/
theorem pool_act_resume {s : Site σ} {w : Waiter} (waits : w ∈ s.waiters) :
    (s.act b (.resume w)).2.pool = (s.pool.resume b w).2 := by
  simp [act, waits]

/-- The sites to which actions lead from a site. Which actions are allowed may depend on the site at
which they happen. -/
inductive Leads (allowed : Site σ → Action σ → Prop) (s : Site σ) : Site σ → Prop
  | refl : Leads allowed s s
  | act {t : Site σ} (action : Action σ) (before : Leads allowed s t) (may : allowed t action) :
      Leads allowed s (t.act b action).2

/-- A site to which allowed actions lead from a new pool. -/
def Reachable (allowed : Site σ → Action σ → Prop) (s : Site σ) : Prop :=
  ∃ source settings backend, Leads b allowed (.new source settings backend) s

end Site

end LeasePool
