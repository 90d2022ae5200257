import LeasePool.Pool.Stage
import LeasePool.Site

/-!
# A pool in use, instant by instant

At a site every action takes place as a whole. Here the search of an acquire takes its time, and
between its stages happens whatever does not need the pool to itself: a token is marked as
cancelled, a holder uses its connection, a wait ends by itself, time passes, something happens to
the backend. Everything else has to wait until the search is over.

## Main definitions

* `Moment`: a site, and the search that is under way, if any.
* `Site.enters`: the search with which an action begins.
* `Action.Locks`: an action needs the pool to itself.
* `Happening`, `Moment.happen`: what happens next.
* `Moment.Leads`, `Moment.Reachable`: the moments to which that leads.
-/

namespace LeasePool

/-- A site, and the search that is under way. -/
structure Moment (σ : Type) where
  site : Site σ
  search : Option Search := none

/-- An action needs the pool to itself. -/
def Action.Locks {σ : Type} : Action σ → Prop
  | .perform .. | .borrow .. | .mark _ | .rouse _ | .elapse _ | .backend _ => False
  | _ => True

instance {σ : Type} : DecidablePred (Action.Locks (σ := σ))
  | .perform .. | .borrow .. | .mark _ | .rouse _ | .elapse _ | .backend _ => .isFalse id
  | .get _ | .lookUp _ | .proceed _ | .acquire .. | .resume _ | .release _ | .validate _
  | .notifyAll | .change _ | .closeAll | .shutdown => .isTrue trivial

namespace Site

variable {σ : Type}

/-- An acquire begins its search. -/
def launch (s : Site σ) (name : String) (credentials : Credentials) (token : Option Nat) :
    Search × Site σ :=
  ({ request := ⟨name, credentials, token, s.pool.now⟩
     waited := false, spare := s.pool.settings.badConnectionLimit, discarded := 0 },
    { s with pool := s.pool.record (.begun name) })

/-- An acquire begins its search, unless its name is taken. -/
def launch? (s : Site σ) (name : String) (credentials : Credentials) (token : Option Nat) :
    Option (Search × Site σ) :=
  if s.IsTaken name then none else some (s.launch name credentials token)

/-- The search with which an action begins, and the site where that has begun. -/
def enters (s : Site σ) : Action σ → Option (Search × Site σ)
  | .get name => s.launch? name s.pool.source.credentials none
  | .proceed name =>
    (s.lookups.lookup name).map fun credentials =>
      { s with lookups := s.lookups.filter fun entry => entry.1 ≠ name }.launch name credentials none
  | .acquire name credentials token => s.launch? name credentials token
  | .resume w =>
    if w ∈ s.waiters then
      some ({ request := w.request, waited := true
              spare := s.pool.settings.badConnectionLimit - w.discarded
              discarded := w.discarded },
        { s with pool := s.pool.wake w })
    else none
  | _ => none

end Site

/-- What happens next. -/
inductive Happening (σ : Type)
  /-- The search under way comes to its next stage, or to its end. -/
  | next
  /-- An action takes place. If it is an acquire, it begins its search. -/
  | act (action : Action σ)

namespace Moment

variable {σ : Type} (b : Backend σ)

/-- What happens next. What needs the pool to itself does not happen while a search is under way,
nor does a next stage while none is. -/
def happen (m : Moment σ) : Happening σ → Outcome × Moment σ
  | .next =>
    match m.search with
    | none => (.done, m)
    | some x =>
      match x.next b m.site.pool with
      | (.goes y, pool) => (.done, ⟨{ m.site with pool }, some y⟩)
      | (.ends acquired, pool) =>
        let ended := m.site.afterAcquire x.request.name (acquired, pool)
        (ended.1, ⟨ended.2, none⟩)
  | .act a =>
    if a.Locks ∧ m.search.isSome then (.done, m)
    else match m.site.enters a with
      | some (x, site) => (.done, ⟨site, some x⟩)
      | none =>
        let acted := m.site.act b a
        (acted.1, { m with site := acted.2 })

/-- The moments to which happenings lead from a moment. -/
inductive Leads (m : Moment σ) : Moment σ → Prop
  | refl : Leads m m
  | happen {t : Moment σ} (h : Happening σ) (before : Leads m t) : Leads m (t.happen b h).2

/-- A moment to which happenings lead from a new pool. -/
def Reachable (m : Moment σ) : Prop :=
  ∃ source settings backend, Leads b ⟨.new source settings backend, none⟩ m

end Moment

end LeasePool
