import LeasePool.Pool.Time
import LeasePool.Pool.Turn
import LeasePool.Site

/-!
# Scenarios

A scenario plays steps at a site, one after the other, in a time that moves only as told. After
every step all those run whose turn it is, until nobody's turn is left. Steps of a batch follow one
another before anybody who waits can run.

## Main definitions

* `Step`, `Move`: what can be played, alone or in a batch.
* `Scenario`: a site with the names of the tokens and the order of those who wait.
* `Scenario.settle`: let everybody run whose turn it is.
* `Scenario.advanceTo`: let time pass, and everybody run in time.
* `Scenario.play`: play a move and observe what it comes to.
-/

namespace LeasePool

/-- What can be seen of a handle. -/
inductive HandleView
  | connection
  | fingerprint
  | openedAt
  | heldFor
  | inspection
deriving DecidableEq

/-- What can be seen of a pool. -/
inductive PoolView
  | settings
  | source
  | fingerprint
  | report
  | isShutDown
  | inspection
deriving DecidableEq

/-- One thing to do in a scenario. -/
inductive Step (σ : Type)
  /-- Something happens at the site. -/
  | act (action : Action σ)
  /-- A caller asks for a connection with credentials of its own and the token of a name. -/
  | acquire (name : String) (credentials : Credentials) (token : Option String)
  /-- A token gets a name. -/
  | makeToken (token : String)
  /-- A token gets another name. -/
  | shareToken (token name : String)
  /-- A token is cancelled. -/
  | cancel (token : String)
  | isCancelled (token : String)
  | inspectToken (token : String)
  | look (view : PoolView)
  | lookAt (name : String) (view : HandleView)
  /-- The owner of the pool gives it up; handles go on. -/
  | abandon
  /-- Time passes. -/
  | advance (nanos : Nat)

/-- A step, or several before anybody who waits can run. -/
inductive Move (σ : Type)
  | one (step : Step σ)
  | batch (steps : List (Step σ))

/-- What can be seen. -/
inductive Sight
  | connection (id : Nat)
  | fingerprint (fingerprint : Fingerprint)
  | time (nanos : Nat)
  | flag (flag : Bool)
  | text (text : String)
  | settings (settings : Settings)
  | source (source : DataSource)

/-- What a step comes to. -/
inductive Result
  /-- What it came to at the site. -/
  | outcome (outcome : Outcome)
  /-- What was seen. -/
  | seen (sight : Sight)
  /-- The pool cannot be given up while somebody waits. -/
  | busy

/-- What a move comes to. -/
inductive Told
  | one (result : Result)
  | many (results : List Result)

/-- An acquire that was waiting and ended. -/
structure Woken where
  name : String
  outcome : Outcome
  /-- When it ended. -/
  time : Nat

/-- What can be observed of a move. -/
structure Observation where
  told : Told
  woken : List Woken
  /-- What the journal says of the move, the first event first. -/
  entries : List Entry
  /-- Those who wait, in the order in which they began. -/
  waiting : List String
  time : Nat
  /-- The status, unless the pool was given up. -/
  status : Option Status

/-- A site with the names of the tokens and the order of those who wait. -/
structure Scenario (σ : Type) where
  site : Site σ
  /-- The tokens by their names, the latest first. -/
  tokens : List (String × Nat) := []
  /-- Those who wait, in the order in which they began. -/
  waiting : List String := []
  /-- The pool was given up. -/
  abandoned : Bool := false

namespace Scenario

variable {σ : Type}

/-- A scenario with a new pool. -/
def new (source : DataSource) (settings : Settings) (backend : σ) : Scenario σ :=
  { site := .new source settings backend }

/-- The pool of a scenario. -/
def pool (s : Scenario σ) : Pool σ := s.site.pool

/-- The token of a name. -/
def token? (s : Scenario σ) (name : String) : Option Nat := s.tokens.lookup name

/-- The scenario goes on at another site. Whoever waits there and did not before comes last. -/
def moveTo (s : Scenario σ) (site : Site σ) : Scenario σ :=
  let names := site.waiters.map fun w => w.request.name
  { s with
    site
    waiting := s.waiting.filter (· ∈ names) ++ names.filter (· ∉ s.waiting) }

variable (b : Backend σ)

/-- Something happens at the site. -/
def act (s : Scenario σ) (action : Action σ) : Outcome × Scenario σ :=
  let acted := s.site.act b action
  (acted.1, s.moveTo acted.2)

@[simp] theorem pool_act (s : Scenario σ) (action : Action σ) :
    (s.act b action).2.pool = (s.site.act b action).2.pool := rfl

/-- Whose turn it is waits. -/
theorem mem_waiters_of_turn? {s : Scenario σ} {w : Waiter} (h : s.pool.turn? = some w) :
    w ∈ s.site.waiters := by
  apply List.mem_append_right
  rcases Pool.mem_of_turn? h with there | there
  · exact List.mem_append_left _ there
  · exact List.mem_append_right _ there.1

/-! ### Letting everybody run -/

/-- Let everybody run whose turn it is, until nobody's turn is left. -/
def settle (s : Scenario σ) : List Woken × Scenario σ :=
  match _h : s.pool.turn? with
  | none => ([], s)
  | some w =>
    let acted := s.act b (.resume w)
    let rest := settle acted.2
    -- whoever waits again has nothing to tell
    match acted.1 with
    | .waiting => rest
    | outcome => (⟨w.request.name, outcome, acted.2.pool.now⟩ :: rest.1, rest.2)
termination_by s.pool.unrest
decreasing_by
  rw [pool_act, Site.pool_act_resume b (mem_waiters_of_turn? _h)]
  exact Pool.unrest_resume_lt b _h

/-- Whoever runs takes time or none. -/
theorem now_le_turn {s : Scenario σ} {w : Waiter} (h : s.pool.turn? = some w) :
    s.pool.now ≤ (s.act b (.resume w)).2.pool.now := by
  rw [pool_act, Site.pool_act_resume b (mem_waiters_of_turn? h)]
  exact s.pool.now_le_resume b w

theorem now_le_settle (s : Scenario σ) : s.pool.now ≤ (s.settle b).2.pool.now := by
  fun_induction settle b s with
  | case1 => exact Nat.le_refl _
  | case2 s w h acted rest told ih => exact Nat.le_trans (now_le_turn b h) ih
  | case3 s w h acted rest told ih => exact Nat.le_trans (now_le_turn b h) ih

/-- Let a time pass. -/
def elapse (s : Scenario σ) (nanos : Nat) : Scenario σ := (s.act b (.elapse nanos)).2

@[simp] theorem now_elapse (s : Scenario σ) (nanos : Nat) :
    (s.elapse b nanos).pool.now = s.pool.now + nanos := rfl

/-- Let the time come to a target, unless it is past it. Whenever a wait ends on the way, everybody
runs whose turn it is. -/
def advanceTo (target : Nat) (s : Scenario σ) : List Woken × Scenario σ :=
  match s.pool.nextDeadline? with
  | some t =>
    if _h : s.pool.now < t ∧ t ≤ target then
      let there := (s.elapse b (t - s.pool.now)).settle b
      let rest := advanceTo target there.2
      (there.1 ++ rest.1, rest.2)
    else (s.elapse b (target - s.pool.now)).settle b
  | none => (s.elapse b (target - s.pool.now)).settle b
termination_by target - s.pool.now
decreasing_by
  have arrived := now_le_settle b (s.elapse b (t - s.pool.now))
  rw [now_elapse] at arrived
  omega

/-! ### Playing -/

/-- What can be seen of the pool. -/
def look (s : Scenario σ) : PoolView → Sight
  | .settings => .settings s.pool.settings
  | .source => .source s.pool.source
  | .fingerprint => .fingerprint s.pool.expected
  | .report => .text s.pool.report.text
  | .isShutDown => .flag s.pool.shutDown
  | .inspection => .text s.pool.inspect

/-- What can be seen of a handle. -/
def lookAt (s : Scenario σ) (l : Lease) : HandleView → Sight
  | .connection => .connection l.connection
  | .fingerprint => .fingerprint l.fingerprint
  | .openedAt => .time l.openedAt
  | .heldFor => .time (l.heldFor s.pool.now)
  | .inspection => .text (s.pool.inspectHandle l)

/-- Whether the token of a name was cancelled. -/
def isCancelled (s : Scenario σ) (token : String) : Bool := s.pool.isCancelled (s.token? token)

/-- A token for inspection. -/
def inspectToken (s : Scenario σ) (token : String) : String :=
  "CancelToken \x7b cancelled: " ++ toString (s.isCancelled token) ++ ", .. \x7d"

/-- Give a token a name. -/
def nameToken (s : Scenario σ) (name : String) (token : Nat) : Scenario σ :=
  { s with tokens := (name, token) :: s.tokens }

/-- Play a step. Nobody who waits runs meanwhile. -/
def step (s : Scenario σ) : Step σ → Result × Scenario σ
  | .act action =>
    let acted := s.act b action
    (.outcome acted.1, acted.2)
  | .acquire name credentials token =>
    let acted := s.act b (.acquire name credentials (token.bind s.token?))
    (.outcome acted.1, acted.2)
  | .makeToken token => (.outcome .done, s.nameToken token s.tokens.length)
  | .shareToken token name =>
    match s.token? token with
    | some shared => (.outcome .done, s.nameToken name shared)
    | none => (.outcome .absent, s)
  | .cancel token =>
    match s.token? token with
    | some token => (.outcome .done, ((s.act b (.mark token)).2.act b .notifyAll).2)
    | none => (.outcome .absent, s)
  | .isCancelled token => (.seen (.flag (s.isCancelled token)), s)
  | .inspectToken token => (.seen (.text (s.inspectToken token)), s)
  | .look view => (.seen (s.look view), s)
  | .lookAt name view =>
    match s.site.handle? name with
    | some l => (.seen (s.lookAt l view), s)
    | none => (.outcome .absent, s)
  | .abandon =>
    if s.waiting.isEmpty then (.outcome .done, { s with abandoned := true }) else (.busy, s)
  | .advance nanos => (.outcome .done, s.elapse b nanos)

/-- Play steps one after the other. Nobody who waits runs meanwhile. -/
def steps (s : Scenario σ) : List (Step σ) → List Result × Scenario σ
  | [] => ([], s)
  | first :: rest =>
    let played := s.step b first
    let others := steps played.2 rest
    (played.1 :: others.1, others.2)

/-- Play a move, and let everybody run whose turn it is. -/
def move (s : Scenario σ) : Move σ → Told × List Woken × Scenario σ
  | .one (.advance nanos) =>
    -- those whose turn it is already run before the time moves
    let ready := s.settle b
    let gone := advanceTo b (s.pool.now + nanos) ready.2
    (.one (.outcome .done), ready.1 ++ gone.1, gone.2)
  | .one single =>
    let played := s.step b single
    (.one played.1, played.2.settle b)
  | .batch several =>
    let played := s.steps b several
    (.many played.1, played.2.settle b)

/-- Play a move and observe what it comes to. -/
def play (s : Scenario σ) (m : Move σ) : Observation × Scenario σ :=
  let (told, woken, after) := s.move b m
  let journal := after.pool.environment.journal
  -- the latest entries come first
  let news := journal.take (journal.length - s.pool.environment.journal.length)
  ({ told, woken
     entries := news.reverse
     waiting := after.waiting
     time := after.pool.now
     status := if after.abandoned then none else some after.pool.status }, after)

/-- Play moves one after the other. -/
def playAll (s : Scenario σ) : List (Move σ) → List Observation × Scenario σ
  | [] => ([], s)
  | m :: rest =>
    let played := s.play b m
    let others := playAll played.2 rest
    (played.1 :: others.1, others.2)

end Scenario

end LeasePool
