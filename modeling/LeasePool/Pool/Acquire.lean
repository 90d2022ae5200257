import LeasePool.Pool

/-!
# Acquiring a connection

An acquire takes the first idle connection. With none idle it opens one, if there is room; else it
takes the longest-held lease from its holder, if that is overdue; else it waits, and begins again
when it is signalled or its wait has lasted long enough. A connection found in one of these ways is
a candidate: a bad one is closed, and the acquire tries again, until it has met more bad
connections than the settings allow.

## Main definitions

* `Pool.candidate`: the next connection that an acquire can try.
* `Pool.seek`: the search of an acquire, from its beginning or its last wait to its end or its next
  wait.
* `Pool.acquire`, `Pool.resume`: an acquire that begins, and one that has waited.
-/

namespace LeasePool

/-- How far an acquire got. -/
inductive Acquired
  /-- It got this lease. -/
  | granted (lease : Lease)
  /-- It failed. -/
  | failed (cause : PoolError)
  /-- It waits. -/
  | waiting
deriving DecidableEq

namespace Pool

variable {σ : Type}

/-! ### Candidates -/

/-- Open a connection to the data source, with the credentials of an acquire. -/
def openLease (b : Backend σ) (p : Pool σ) (credentials : Credentials) :
    Except BackendError Lease × Pool σ :=
  match p.environment.connect b p.nextConnection p.source.endpoint credentials with
  | (.error cause, e) => (.error cause, { p with environment := e })
  | (.ok (), e) =>
    (.ok (.opened p.nextKey p.nextConnection p.expected e.clock),
      { p with
        nextConnection := p.nextConnection + 1, nextKey := p.nextKey + 1, environment := e })

/-- Take the longest-held lease from its holder; the others go on. Its connection is reset; that
this may fail does not matter here. -/
def seize (b : Backend σ) (p : Pool σ) (oldest : Lease) (rest : List Lease) : Lease × Pool σ :=
  let held := oldest.heldFor p.now
  let counted : Statistics :=
    { p.statistics with
      claimedOverdue := p.statistics.claimedOverdue + 1
      overdueCheckoutTime := p.statistics.overdueCheckoutTime + held
      checkoutTime := p.statistics.checkoutTime + held }
  -- the connection is reset before the holder loses it
  let noted := p.environment.record (.reclaimed oldest.connection)
  let taken : Pool σ :=
    { p with
      active := rest
      statistics := counted
      environment := (noted.reset b oldest.connection).2 }
  taken.renew oldest

/-- Take the longest-held lease from its holder, if it is overdue. -/
def reclaim (b : Backend σ) (p : Pool σ) : Option Lease × Pool σ :=
  match p.active with
  | [] => (none, p)
  | oldest :: rest =>
    if oldest.heldFor p.now ≤ p.settings.maxCheckoutTime.nanos then (none, p)
    else
      let seized := p.seize b oldest rest
      (some seized.1, seized.2)

/-- The next connection that an acquire can try: the first idle one, else a new one, else an
overdue one. There may be none. -/
def candidate (b : Backend σ) (p : Pool σ) (credentials : Credentials) :
    Except BackendError (Option Lease) × Pool σ :=
  match p.idle with
  | lease :: rest => (.ok (some lease), { p with idle := rest })
  | [] =>
    if p.active.length < p.settings.maxActive then
      let found := p.openLease b credentials
      (found.1.map some, found.2)
    else
      let found := p.reclaim b
      (.ok found.1, found.2)

/-! ### The ends of a search -/

/-- Close a bad candidate, and count it. -/
def discard (b : Backend σ) (p : Pool σ) (lease : Lease) : Pool σ :=
  let counted : Pool σ :=
    { p.record (.discarded lease.connection) with
      statistics.badConnections := p.statistics.badConnections + 1 }
  counted.destroy b lease

/-- Stamp a good candidate and hand it out. Its connection is reset; that this may fail does not
matter here. -/
def handOut (b : Backend σ) (p : Pool σ) (r : Request) (lease : Lease) : Lease × Pool σ :=
  let restored := (p.environment.reset b lease.connection).2
  let stamped := lease.checkOut p.expected restored.clock
  (stamped,
    { p with
      active := p.active ++ [stamped]
      statistics.requestCount := p.statistics.requestCount + 1
      statistics.requestTime := p.statistics.requestTime + (restored.clock - r.started)
      environment := restored.record (.handedOut r.name lease.connection) })

/-- The last instant of a clock that counts nanoseconds in 64 bits. -/
def lastInstant : Nat := 0xffffffffffffffff

/-- When a wait that begins now ends by itself. No wait is shorter than a millisecond, and one that
the clock cannot measure does not end by itself. -/
def deadline? (p : Pool σ) : Option Nat :=
  let due := p.now + max p.settings.waitTimeout.nanos 1_000_000
  if due ≤ lastInstant then some due else none

/-- Let an acquire wait. It is counted if it has not waited before. -/
def park (p : Pool σ) (r : Request) (waited : Bool) (discarded : Nat) : Pool σ :=
  { p.record (.parked r.name) with
    statistics.hadToWait := p.statistics.hadToWait + if waited then 0 else 1
    parked := p.parked ++ [⟨r, discarded, p.now, p.deadline?⟩] }

/-- Let an acquire fail. -/
def fail (p : Pool σ) (r : Request) (cause : PoolError) : Acquired × Pool σ :=
  (.failed cause, p.record (.failed r.name cause))

/-! ### The search -/

/-- The search of an acquire that may discard `spare` more bad connections and has discarded
`discarded`. One more than it may discard ends it. -/
def seek (b : Backend σ) (r : Request) (waited : Bool) (spare discarded : Nat) (p : Pool σ) :
    Acquired × Pool σ :=
  if p.shutDown then p.fail r .closed
  else if p.isCancelled r.token then p.fail r .interrupted
  else match p.candidate b r.credentials with
    | (.error cause, p) => p.fail r (.connect cause)
    -- nothing to try: wait for a signal or for the deadline
    | (.ok none, p) => (.waiting, p.park r waited discarded)
    | (.ok (some lease), p) =>
      match p.usable b lease with
      | (true, p) =>
        let granted := p.handOut b r lease
        (.granted granted.1, granted.2)
      -- a bad one is closed, and the search goes on if it may
      | (false, p) =>
        match spare with
        | 0 => (p.discard b lease).fail r (.exhausted (discarded + 1))
        | spare + 1 => seek b r waited spare (discarded + 1) (p.discard b lease)

/-- An acquire begins. -/
def acquire (b : Backend σ) (p : Pool σ) (r : Request) : Acquired × Pool σ :=
  seek b r false p.settings.badConnectionLimit 0 (p.record (.begun r.name))

/-- The pool when an acquire stops waiting: the acquire is on no queue, and its wait is counted. -/
def wake (p : Pool σ) (w : Waiter) : Pool σ :=
  { p.record (.resumed w.request.name) with
    parked := p.parked.erase w
    signalled := p.signalled.erase w
    roused := p.roused.erase w
    statistics.waitTime := p.statistics.waitTime + (p.now - w.parkedAt) }

/-- An acquire stops waiting, for whatever reason, and goes on with its search. -/
def resume (b : Backend σ) (p : Pool σ) (w : Waiter) : Acquired × Pool σ :=
  seek b w.request true (p.settings.badConnectionLimit - w.discarded) w.discarded (p.wake w)

end Pool

end LeasePool
