import LeasePool.Proofs.Frame
import LeasePool.Site
import Mathlib.Data.List.Nodup

/-!
# What an action does to a site

Many actions do nothing to a pool but use its connections or let time pass. The others signal those
who wait, run an acquire, hand back a lease or close everything. This file tells once what each
action comes to, so that a property is shown to last by looking at these few cases.

## Main definitions

* `Outcome.leased?`, `Outcome.failed?`: what an action got, or why it failed.
* `Action.handle?`, `Action.Closes`: the handle with which an action does something; the actions
  that close everything.
* `Site.Step`: what an action can come to.
* `Site.credentials?`: the credentials with which an action asks for a connection.
* `Site.run`: several actions, one after the other.

## Main results

* `Site.step_act`: every action comes to one of these things.
* `Site.Leads.keeps`, `Site.Reachable.keeps`: what every step keeps is kept by a run.
* `Site.Leads.trans`, `Site.Leads.run`: runs one after the other.
-/

namespace LeasePool

/-- The connection that an acquire got. -/
def Outcome.leased? : Outcome → Option Nat
  | .leased n => some n
  | _ => none

/-- The failure of an acquire or an operation. -/
def Outcome.failed? : Outcome → Option PoolError
  | .failed cause => some cause
  | _ => none

/-- The handle with which an action does something. -/
def Action.handle? {σ : Type} : Action σ → Option String
  | .release name | .validate name | .perform name _ | .borrow name _ => some name
  | _ => none

/-- The action closes all connections. -/
def Action.Closes {σ : Type} : Action σ → Prop
  | .change _ | .closeAll | .shutdown => True
  | _ => False

namespace Site

variable {σ : Type} (b : Backend σ)

/-- The credentials with which an action asks for a connection. -/
def credentials? (s : Site σ) : Action σ → Option Credentials
  | .get _ => some s.pool.source.credentials
  | .proceed name => s.lookups.lookup name
  | .acquire _ credentials _ => some credentials
  | .resume w => some w.request.credentials
  | _ => none

/-- What an action can come to at a site. -/
inductive Step (s : Site σ) : Action σ → Outcome × Site σ → Prop
  /-- Nothing happens. -/
  | rest {a : Action σ} {out : Outcome} (leaves : out.leased? = none) : Step s a (out, s)
  /-- Only the surroundings of the pool change. If anything is noted, then calls on the connection
  of the handle with which something is done. -/
  | outside {a : Action σ} {out : Outcome} (leaves : out.leased? = none) (e : Environment σ)
      (used : s.pool.environment.Used e)
      (touches : e.events = s.pool.environment.events ∨
        ∃ name l, a.handle? = some name ∧ s.handle? name = some l ∧ s.pool.Touches l e) :
      Step s a (out, { s with pool.environment := e })
  /-- Credentials are looked up. -/
  | lookUp (name : String) (free : ¬ s.IsTaken name) :
      Step s (.lookUp name)
        (.done, { s with lookups := (name, s.pool.source.credentials) :: s.lookups })
  /-- All who wait are signalled. -/
  | notifyAll : Step s .notifyAll (.done, { s with pool := s.pool.notifyAll })
  /-- A wait ends by itself. -/
  | rouse (w : Waiter) (waits : w ∈ s.pool.parked) :
      Step s (.rouse w) (.done, { s with pool := s.pool.rouse w })
  /-- An acquire begins. -/
  | begin {a : Action σ} (r : Request) (lookups : List (String × Credentials))
      (fewer : lookups.Sublist s.lookups)
      (free : s.names.Nodup → ¬ { s with lookups }.IsTaken r.name) (begins : ∀ w, a ≠ .resume w)
      (wanted : s.credentials? a = some r.credentials) (now : r.started = s.pool.now) :
      Step s a ({ s with lookups }.afterAcquire r.name (s.pool.acquire b r))
  /-- An acquire that waits runs on. -/
  | resume (w : Waiter) (waits : w ∈ s.waiters) :
      Step s (.resume w) (s.afterAcquire w.request.name (s.pool.resume b w))
  /-- A lease is handed back. -/
  | release (name : String) (l : Lease) (found : s.handle? name = some l) :
      Step s (.release name)
        (.done,
          { s with
            pool := s.pool.release b l
            handles := s.handles.filter fun entry => entry.1 ≠ name })
  /-- Everything is closed, perhaps on other terms than before. -/
  | close {a : Action σ} (source : DataSource) (settings : Settings) (shutDown : Bool)
      (whence : source = s.pool.source ∨ ∃ c, a = .change c ∧ source = c.source s.pool.source)
      (stays : s.pool.shutDown = true → shutDown = true) (closes : a.Closes) :
      Step s a (.done, { s with pool := { s.pool with source, settings, shutDown }.closeAll b })

/-- A name under which credentials were looked up is free once they are used. -/
theorem free_of_lookup {s : Site σ} {name : String} {credentials : Credentials}
    (found : s.lookups.lookup name = some credentials) (names : s.names.Nodup) :
    ¬ { s with lookups := s.lookups.filter fun entry => entry.1 ≠ name }.IsTaken name := by
  have there : name ∈ s.lookups.map Prod.fst := by
    obtain ⟨before, after, split, -⟩ := List.lookup_eq_some_iff.mp found
    simp [split]
  intro taken
  rcases List.mem_append.mp taken with elsewhere | still
  · exact List.disjoint_of_nodup_append names elsewhere there
  · simp at still

/-- Every action comes to one of these things. -/
theorem step_act (s : Site σ) (a : Action σ) : Step b s a (s.act b a) := by
  -- what is done with a handle needs one of that name
  have handled (name : String) (use : Lease → Outcome × Site σ)
      (used : ∀ l, s.handle? name = some l → Step b s a (use l)) :
      Step b s a (s.withHandle name use) := by
    unfold withHandle
    split
    · rename_i l found
      exact used l found
    · exact .rest rfl
  -- an acquire begins only under a name that nobody has
  have begun (r : Request) (begins : ∀ w, a ≠ .resume w)
      (wanted : s.credentials? a = some r.credentials) (now : r.started = s.pool.now) :
      Step b s a (s.begin b r.name r.credentials r.token) := by
    unfold begin
    split
    · exact .rest rfl
    · rename_i free
      rw [start, ← now]
      exact .begin r s.lookups (.refl _) (fun _ => free) begins wanted now
  cases a with
  | get name =>
    exact begun ⟨name, s.pool.source.credentials, none, s.pool.now⟩ (fun _ same => by cases same)
      rfl rfl
  | lookUp name =>
    simp only [act]
    split
    · exact .rest rfl
    · rename_i free
      exact .lookUp name free
  | proceed name =>
    simp only [act]
    split
    · rename_i credentials found
      exact .begin ⟨name, credentials, none, s.pool.now⟩ _ List.filter_sublist
        (free_of_lookup found) (fun _ same => by cases same) found rfl
    · exact .rest rfl
  | acquire name credentials token =>
    exact begun ⟨name, credentials, token, s.pool.now⟩ (fun _ same => by cases same) rfl rfl
  | rouse w =>
    simp only [act]
    split
    · rename_i waits
      exact .rouse w waits
    · exact .rest rfl
  | resume w =>
    simp only [act]
    split
    · rename_i waits
      exact .resume w waits
    · exact .rest rfl
  | release name =>
    apply handled
    intro l found
    exact .release name l found
  | validate name =>
    apply handled
    intro l found
    exact .outside rfl _ (s.pool.used_usable b l)
      (.inr ⟨name, l, rfl, found, s.pool.touches_usable b l⟩)
  | perform name operation =>
    apply handled
    intro l found
    obtain ⟨e, used, touches, outside⟩ := s.pool.perform_outside b l operation
    generalize s.pool.perform b l operation = performed at outside ⊢
    obtain ⟨answer, q⟩ := performed
    obtain rfl : q = { s.pool with environment := e } := outside
    cases answer with
    | ok => exact .outside rfl e used (.inr ⟨name, l, rfl, found, touches⟩)
    | error => exact .outside rfl e used (.inr ⟨name, l, rfl, found, touches⟩)
  | borrow name operations =>
    apply handled
    intro l found
    obtain ⟨e, used, touches, outside⟩ := s.pool.borrow_outside b l operations
    generalize s.pool.borrow b l operations = performed at outside ⊢
    obtain ⟨answers, q⟩ := performed
    obtain rfl : q = { s.pool with environment := e } := outside
    cases answers with
    | ok => exact .outside rfl e used (.inr ⟨name, l, rfl, found, touches⟩)
    | error => exact .outside rfl e used (.inr ⟨name, l, rfl, found, touches⟩)
  | mark token =>
    refine .outside rfl _ ⟨⟨Nat.le_refl _, ?_, List.suffix_refl _⟩, fun _ => rfl⟩ (.inl rfl)
    exact List.suffix_cons _ _
  | notifyAll => exact .notifyAll
  | change c => exact .close _ _ s.pool.shutDown (.inr ⟨c, rfl, rfl⟩) id trivial
  | closeAll => exact .close s.pool.source s.pool.settings s.pool.shutDown (.inl rfl) id trivial
  | shutdown =>
    simp only [act, Pool.shutdown]
    split
    · exact .rest rfl
    · exact .close _ _ true (.inl rfl) (fun _ => rfl) trivial
  | elapse nanos =>
    exact .outside rfl _
      ⟨⟨Nat.le_add_right _ _, List.suffix_refl _, List.suffix_refl _⟩, fun _ => rfl⟩ (.inl rfl)
  | backend happen =>
    exact .outside rfl _
      ⟨⟨Nat.le_refl _, List.suffix_refl _, List.suffix_refl _⟩, fun _ => rfl⟩ (.inl rfl)

/-! ### Runs -/

/-- A site after several actions. -/
def run (s : Site σ) (actions : List (Action σ)) : Site σ :=
  actions.foldl (fun t a => (t.act b a).2) s

variable {b} {allowed : Site σ → Action σ → Prop} {s t : Site σ}

/-- What every allowed action keeps is kept by a run. -/
theorem Leads.keeps {P : Site σ → Prop}
    (keep : ∀ t a, allowed t a → P t → P (t.act b a).2) (leads : Leads b allowed s t)
    (start : P s) : P t := by
  induction leads with
  | refl => exact start
  | act a _ may ih => exact keep _ a may ih

/-- What new sites have and every allowed action keeps, every reachable site has. -/
theorem Reachable.keeps {P : Site σ → Prop}
    (new : ∀ source settings backend, P (.new source settings backend))
    (keep : ∀ t a, allowed t a → P t → P (t.act b a).2) (reach : Reachable b allowed s) : P s := by
  obtain ⟨source, settings, backend, leads⟩ := reach
  exact leads.keeps keep (new source settings backend)

theorem Reachable.step (reach : Reachable b allowed s) (a : Action σ) (may : allowed s a) :
    Reachable b allowed (s.act b a).2 := by
  obtain ⟨source, settings, backend, leads⟩ := reach
  exact ⟨source, settings, backend, .act a leads may⟩

theorem Leads.trans {u : Site σ} (first : Leads b allowed s t) (second : Leads b allowed t u) :
    Leads b allowed s u := by
  induction second with
  | refl => exact first
  | act a _ may ih => exact .act a ih may

/-- Actions lead where they take place one after the other. -/
theorem Leads.run (leads : Leads b allowed s t) (actions : List (Action σ))
    (may : ∀ u, ∀ a ∈ actions, allowed u a) : Leads b allowed s (t.run b actions) := by
  induction actions generalizing t with
  | nil => exact leads
  | cons a actions ih =>
    exact ih (.act a leads (may t a List.mem_cons_self))
      fun u a' there => may u a' (List.mem_cons_of_mem _ there)

/-- Where everything is allowed, a new site reaches whatever some actions lead to. -/
theorem reachable_run (source : DataSource) (settings : Settings) (backend : σ)
    (actions : List (Action σ)) :
    Reachable b (fun _ _ => True) ((new source settings backend).run b actions) :=
  ⟨source, settings, backend, Leads.refl.run actions fun _ _ _ => trivial⟩

end Site

end LeasePool
