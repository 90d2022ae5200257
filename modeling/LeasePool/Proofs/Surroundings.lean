import LeasePool.Pool.Handle
import LeasePool.Pool.Search

/-!
# What becomes of the surroundings of a pool

Whatever a pool does, the time does not go back, a token that was cancelled stays cancelled, and
what the journal says remains. Only opening a connection adds an opening to the journal, and it adds
one for the number of the new connection.

## Main definitions

* `Environment.Later`: an environment after another.
* `Environment.openings`: the data sources to which a connection was opened, says the journal.
* `Environment.Used`: an environment after another, with no connection opened in between.

## Main results

* `Environment.later_connect`, `Environment.openings_connect`: opening a connection.
* `Environment.used_ask`, `used_reset`, `used_probe`, `used_dispose`: using one.
-/

namespace LeasePool

/-- The data source to which an event opens the connection with a number. -/
def Event.opening? (n : Nat) : Event → Option DataSource
  | .opened id endpoint credentials => if id = n then some ⟨endpoint, credentials⟩ else none
  | _ => none

namespace Environment

variable {σ : Type} {e e' e'' : Environment σ}

/-- The data sources to which the connection with a number was opened, the latest first. -/
def openings (e : Environment σ) (n : Nat) : List DataSource :=
  e.journal.filterMap fun entry => entry.event.opening? n

/-- An environment after another. -/
structure Later (e e' : Environment σ) : Prop where
  clock_le : e.clock ≤ e'.clock
  cancelled : e.cancelled <:+ e'.cancelled
  journal : e.journal <:+ e'.journal

theorem Later.refl (e : Environment σ) : Later e e :=
  ⟨Nat.le_refl _, List.suffix_refl _, List.suffix_refl _⟩

theorem Later.trans (first : Later e e') (second : Later e' e'') : Later e e'' :=
  ⟨Nat.le_trans first.clock_le second.clock_le, first.cancelled.trans second.cancelled,
    first.journal.trans second.journal⟩

/-- An environment after another, with no connection opened in between. -/
structure Used (e e' : Environment σ) : Prop extends Later e e' where
  openings : ∀ n, e'.openings n = e.openings n

theorem Used.refl (e : Environment σ) : Used e e := ⟨Later.refl e, fun _ => rfl⟩

theorem Used.trans (first : Used e e') (second : Used e' e'') : Used e e'' :=
  ⟨first.toLater.trans second.toLater, fun n => (second.openings n).trans (first.openings n)⟩

theorem used_record {event : Event} (e : Environment σ) (use : ∀ n, event.opening? n = none) :
    Used e (e.record event) :=
  ⟨⟨Nat.le_refl _, List.suffix_refl _, List.suffix_cons _ _⟩, fun n => by
    simp [Environment.openings, record, use n]⟩

variable (b : Backend σ)

/-! ### Opening a connection -/

theorem later_connect (e : Environment σ) (id : Nat) (endpoint : String)
    (credentials : Credentials) : Later e (e.connect b id endpoint credentials).2 :=
  ⟨e.clock_le_connect b id endpoint credentials, List.suffix_append _ _, List.suffix_cons _ _⟩

/-- A connection that was opened has one opening more, and no other connection has. -/
theorem openings_connect {id : Nat} {endpoint : String} {credentials : Credentials}
    (connected : e.connect b id endpoint credentials = (.ok (), e')) (n : Nat) :
    e'.openings n =
      if id = n then ⟨endpoint, credentials⟩ :: e.openings n else e.openings n := by
  obtain ⟨answered, rfl⟩ := Prod.mk.inj connected
  unfold openings record after
  simp only [answered]
  by_cases same : id = n <;> simp [Event.opening?, same]

/-- A connection that could not be opened has no opening for that. -/
theorem openings_refused {id : Nat} {endpoint : String} {credentials : Credentials}
    {cause : BackendError}
    (refused : e.connect b id endpoint credentials = (.error cause, e')) (n : Nat) :
    e'.openings n = e.openings n := by
  obtain ⟨answered, rfl⟩ := Prod.mk.inj refused
  unfold openings record after
  simp [answered, Event.opening?]

/-! ### Using a connection -/

theorem used_ask (e : Environment σ) (party : Party) (id : Nat) (operation : Operation) :
    Used e (e.ask b party id operation).2 :=
  ⟨⟨e.clock_le_ask b party id operation, List.suffix_append _ _, List.suffix_cons _ _⟩,
    fun _ => rfl⟩

theorem used_reset (e : Environment σ) (id : Nat) : Used e (e.reset b id).2 := by
  have asked := e.used_ask b .pool id .autoCommit
  unfold reset
  split
  · rename_i found
    rwa [found] at asked
  · rename_i found
    rwa [found] at asked
  · rename_i e' found
    rw [found] at asked
    exact asked.trans (e'.used_ask b .pool id .rollback)

theorem used_probe (e : Environment σ) (id : Nat) (query : String) :
    Used e (e.probe b id query).2 := by
  have asked := e.used_ask b .pool id (.execute query)
  unfold probe
  split
  · rename_i e' found
    rw [found] at asked
    exact asked.trans (e'.used_ask b .pool id .close)
  · rename_i e' found
    rw [found] at asked
    have restored := e'.used_reset b id
    split
    · rename_i e'' found'
      rw [found'] at restored
      exact asked.trans (restored.trans (e''.used_ask b .pool id .close))
    · rename_i e'' found'
      rw [found'] at restored
      exact asked.trans restored

theorem used_dispose (e : Environment σ) (id : Nat) : Used e (e.dispose b id) := by
  have asked := e.used_ask b .pool id .isClosed
  unfold dispose
  split
  · rename_i found
    rwa [found] at asked
  · rename_i e' found
    rw [found] at asked
    exact asked.trans ((e'.used_reset b id).trans (used_ask b _ .pool id .close))

end Environment

namespace Lease

theorem used_usable {σ : Type} (l : Lease) (b : Backend σ) (s : Settings)
    (expected : Fingerprint) (revoked : List Nat) (e : Environment σ) :
    e.Used (l.usable b s expected revoked e).2 := by
  have asked := e.used_ask b .pool l.connection .isClosed
  unfold usable
  split
  · exact .refl e
  · split
    · rename_i found
      rwa [found] at asked
    · rename_i e' found
      rw [found] at asked
      split
      · exact asked.trans (e'.used_probe b l.connection s.pingQuery)
      · exact asked

end Lease

namespace Pool

variable {σ : Type} (b : Backend σ)

theorem used_performAll (connection : Nat) (operations : List Operation) (e : Environment σ) :
    e.Used (performAll b connection operations e).2 := by
  induction operations generalizing e with
  | nil => exact .refl e
  | cons operation rest ih =>
    exact (e.used_ask b .holder connection operation).trans (ih _)

end Pool

end LeasePool
