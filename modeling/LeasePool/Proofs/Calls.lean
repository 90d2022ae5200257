import LeasePool.Pool.Handle
import LeasePool.Pool.Release

/-!
# What the journal says of a connection

A connection stands for as much as the journal tells of it: the calls that were made on it, and
whether a holder has it. Whatever a pool does with one connection it does by a few calls on that
connection alone, and no other connection stands differently afterwards. This file tells once, for
everything that is done with a connection, what those calls can be.

## Main definitions

* `Call`: what was asked of a connection, on whose behalf, and the answer.
* `Standing`: the calls on a connection, and whether a holder has it; `Environment.standing` reads
  it off the journal.
* `Event.isCall`, `Environment.traffic`: the calls on the backend.
* `Settled`: nothing is pending on a connection after some calls.
* `Environment.Called`: some calls were made on one connection, and nothing else was noted.
* `Resets`, `Restores`, `Disposes`, `Checks`: the calls of which a reset, a restoration, a disposal
  and a check can consist.
* `Standing.IsDisposed`, `Standing.IsSettled`: the pool is done with a connection; nothing is
  pending on it.

## Main results

* `Environment.called_reset`, `called_dispose`, `called_restore`, `called_usable`,
  `called_performAll`: what is done with a connection consists of such calls.
* `Environment.standing_called`, `standing_called_of_ne`, `standing_connect`: what calls do to how
  connections stand, and that opening a connection does nothing to it.
-/

namespace LeasePool

/-! ### Calls -/

/-- What was asked of a connection, on whose behalf, and the answer. -/
structure Call where
  party : Party
  operation : Operation
  answer : operation.Answer

namespace Call

/-- A call on the connection with a number, as the journal notes it. -/
def event (n : Nat) (c : Call) : Event := .asked c.party n c.operation c.answer

/-- The pool saw that the connection is closed, or closed it. -/
def isFinal : Call → Bool
  | ⟨.pool, .isClosed, closed⟩ => closed
  | ⟨.pool, .close, _⟩ => true
  | _ => false

/-- With this answer the pool knows that nothing is pending on the connection: every statement is a
transaction of its own, or they were undone. -/
def settles : Call → Bool
  | ⟨.pool, .autoCommit, .ok true⟩ | ⟨.pool, .rollback, .ok ()⟩ => true
  | _ => false

/-- After this call something may be pending on the connection: a holder did something with it, or
a query was run to probe it. -/
def unsettles : Call → Bool
  | ⟨.holder, _, _⟩ | ⟨.pool, .execute _, _⟩ => true
  | _ => false

end Call

/-- Nothing is pending after some calls, the latest first: since the last of them after which
something may be pending, the pool learned that nothing is. -/
def Settled : List Call → Prop
  | [] => True
  | c :: earlier => c.settles = true ∨ c.unsettles = false ∧ Settled earlier

instance decidableSettled : (calls : List Call) → Decidable (Settled calls)
  | [] => .isTrue trivial
  | c :: earlier =>
    have := decidableSettled earlier
    inferInstanceAs (Decidable (c.settles = true ∨ c.unsettles = false ∧ Settled earlier))

/-- Nothing is pending if the pool learned so from the latest call. -/
theorem settled_of_head {calls : List Call} (settles : calls.head?.any Call.settles = true) :
    Settled calls := by
  cases calls with
  | nil => exact trivial
  | cons c earlier => exact .inl settles

/-- Nothing is pending exactly if every call after which something may be pending was followed by
one from which the pool learned that nothing is. -/
theorem settled_iff {calls : List Call} :
    Settled calls ↔ ∀ later c earlier, calls = later ++ c :: earlier → c.unsettles = true →
      ∃ c' ∈ later, c'.settles = true := by
  induction calls with
  | nil => simp [Settled]
  | cons c calls ih =>
    rw [Settled, ih]
    constructor
    · rintro (settles | ⟨neutral, others⟩) later c' earlier split unsettles
      · cases later with
        | nil =>
          -- no call is of both kinds
          obtain ⟨rfl, -⟩ := List.cons.inj split
          revert settles unsettles
          unfold Call.settles Call.unsettles
          split <;> simp
        | cons first later =>
          obtain ⟨rfl, -⟩ := List.cons.inj split
          exact ⟨c, List.mem_cons_self, settles⟩
      · cases later with
        | nil =>
          obtain ⟨rfl, -⟩ := List.cons.inj split
          rw [neutral] at unsettles
          cases unsettles
        | cons first later =>
          obtain ⟨rfl, rest⟩ := List.cons.inj split
          obtain ⟨c'', there, settles⟩ := others later c' earlier rest unsettles
          exact ⟨c'', List.mem_cons_of_mem _ there, settles⟩
    · intro followed
      by_cases settles : c.settles = true
      · exact .inl settles
      · refine .inr ⟨?_, ?_⟩
        · -- nothing is later than the latest call
          cases unsettles : c.unsettles with
          | false => rfl
          | true =>
            obtain ⟨_, there, -⟩ := followed [] c calls rfl unsettles
            cases there
        · intro later c' earlier split unsettles
          obtain ⟨c'', there, settles'⟩ := followed (c :: later) c' earlier (by simp [split])
            unsettles
          rcases List.mem_cons.mp there with rfl | there
          · exact absurd settles' settles
          · exact ⟨c'', there, settles'⟩

example : ¬ Settled [⟨.pool, .rollback, .error .closed⟩, ⟨.pool, .autoCommit, .ok false⟩,
    ⟨.holder, .execute "BEGIN", .ok ()⟩] := by decide

/-! ### How connections stand -/

/-- The calls on a connection, the latest first, and whether a holder has it. -/
structure Standing where
  calls : List Call := []
  held : Bool := false

namespace Standing

/-- How the connection with a number stands after an event. -/
def note (n : Nat) (s : Standing) : Event → Standing
  | .asked party id operation answer =>
    if id = n then { s with calls := ⟨party, operation, answer⟩ :: s.calls } else s
  | .handedOut _ id => if id = n then { s with held := true } else s
  | .reclaimed id | .withdrawn id | .returned id => if id = n then { s with held := false } else s
  | _ => s

@[simp] theorem note_event (s : Standing) (n : Nat) (c : Call) :
    s.note n (c.event n) = { s with calls := c :: s.calls } := by
  simp [note, Call.event]

theorem note_event_of_ne (s : Standing) {n m : Nat} (other : m ≠ n) (c : Call) :
    s.note m (c.event n) = s := by
  simp [note, Call.event, other.symm]

/-- No holder has the connection, and the last thing that the pool did with it was to close it or to
see that it is closed. -/
def IsDisposed (s : Standing) : Prop := s.held = false ∧ s.calls.head?.any Call.isFinal = true

instance (s : Standing) : Decidable s.IsDisposed := inferInstanceAs (Decidable (_ ∧ _))

/-- No holder has the connection, and from the last call the pool knows that nothing is pending. -/
def IsSettled (s : Standing) : Prop := s.held = false ∧ s.calls.head?.any Call.settles = true

theorem IsSettled.not_isDisposed {s : Standing} (settled : s.IsSettled) : ¬ s.IsDisposed := by
  obtain ⟨calls, held⟩ := s
  rintro ⟨-, final⟩
  have settles := settled.2
  cases calls with
  | nil => cases settles
  | cons c earlier =>
    -- a call from which the pool learns that nothing is pending does not close the connection
    revert settles final
    simp only [List.head?_cons, Option.any_some]
    unfold Call.settles Call.isFinal
    split <;> simp

theorem IsSettled.settled {s : Standing} (settled : s.IsSettled) : Settled s.calls :=
  settled_of_head settled.2

end Standing

/-- The event is a call on the backend. -/
def Event.isCall : Event → Bool
  | .opened .. | .unopened .. | .asked .. => true
  | _ => false

/-- The number of the connection of whose opening an event tells. -/
def Event.opened? : Event → Option Nat
  | .opened id _ _ => some id
  | _ => none

namespace Environment

variable {σ : Type} {e e' e'' : Environment σ} {n m : Nat} {made made' : List Call}

/-- What happened, the latest first. -/
def events (e : Environment σ) : List Event := e.journal.map Entry.event

/-- The calls on the backend so far, the latest first. -/
def traffic (e : Environment σ) : List Event := e.events.filter Event.isCall

/-- How a connection stands, says the journal. -/
def standing (e : Environment σ) (n : Nat) : Standing :=
  e.events.foldr (fun event s => s.note n event) {}

/-- The calls on a connection, the latest first. -/
def calls (e : Environment σ) (n : Nat) : List Call := (e.standing n).calls

/-- The numbers of the connections that were opened, in order. -/
def opened (e : Environment σ) : List Nat := (e.events.filterMap Event.opened?).reverse

/-- The connections with which the pool is done. -/
def disposed (e : Environment σ) : List Nat :=
  e.opened.filter fun n => (e.standing n).IsDisposed

@[simp] theorem standing_record (e : Environment σ) (event : Event) (n : Nat) :
    (e.record event).standing n = (e.standing n).note n event := rfl

@[simp] theorem calls_handedOut (e : Environment σ) (name : String) (m n : Nat) :
    (e.record (.handedOut name m)).calls n = e.calls n := by
  simp only [calls, standing_record, Standing.note]
  split <;> rfl

theorem opened_record (e : Environment σ) (event : Event) :
    (e.record event).opened = e.opened ++ event.opened?.toList := by
  unfold opened events record
  cases found : event.opened? <;> simp [found]

theorem mem_disposed {e : Environment σ} :
    n ∈ e.disposed ↔ n ∈ e.opened ∧ (e.standing n).IsDisposed := by
  simp [disposed]

/-- From one environment to another, some calls were made on one connection, the latest first, and
nothing else was noted. -/
def Called (n : Nat) (made : List Call) (e e' : Environment σ) : Prop :=
  e'.events = made.map (Call.event n) ++ e.events

theorem Called.trans (first : Called n made e e') (second : Called n made' e' e'') :
    Called n (made' ++ made) e e'' := by
  unfold Called at *
  rw [second, first, List.map_append, List.append_assoc]

/-- Nothing was called. -/
theorem Called.none (n : Nat) (e : Environment σ) : Called n [] e e := rfl

theorem standing_append {events : List Event} (later : e'.events = events ++ e.events) (n : Nat) :
    e'.standing n = events.foldr (fun event s => s.note n event) (e.standing n) := by
  unfold standing
  rw [later, List.foldr_append]

theorem standing_called (called : Called n made e e') :
    e'.standing n = { e.standing n with calls := made ++ e.calls n } := by
  have whole (s : Standing) (made : List Call) :
      (made.map (Call.event n)).foldr (fun event s => s.note n event) s =
        { s with calls := made ++ s.calls } := by
    induction made with
    | nil => rfl
    | cons c made ih => simp only [List.map_cons, List.foldr_cons, ih, Standing.note_event,
        List.cons_append]
  exact (standing_append called n).trans (whole _ made)

theorem calls_called (called : Called n made e e') : e'.calls n = made ++ e.calls n :=
  congrArg Standing.calls (standing_called called)

theorem standing_called_of_ne (called : Called n made e e') (other : m ≠ n) :
    e'.standing m = e.standing m := by
  have whole (s : Standing) (made : List Call) :
      (made.map (Call.event n)).foldr (fun event s => s.note m event) s = s := by
    induction made with
    | nil => rfl
    | cons c made ih =>
      simp only [List.map_cons, List.foldr_cons, ih, Standing.note_event_of_ne _ other]
  exact (standing_append called m).trans (whole _ made)

theorem calls_suffix (same : e'.calls n = e.calls n) : e.calls n <:+ e'.calls n :=
  ⟨[], same.symm⟩

theorem opened_called (called : Called n made e e') : e'.opened = e.opened := by
  unfold opened
  have noOpening : (made.map (Call.event n)).filterMap Event.opened? = [] := by
    simp [List.filterMap_eq_nil_iff, Call.event, Event.opened?]
  rw [called, List.filterMap_append, noOpening, List.nil_append]

end Environment

/-! ### What is done with a connection -/

/-- The calls of a reset, and what it comes to. -/
inductive Resets : List Call → Except BackendError Unit → Prop
  /-- Every statement is a transaction of its own. -/
  | unneeded : Resets [⟨.pool, .autoCommit, .ok true⟩] (.ok ())
  /-- Whether that is so cannot be told. -/
  | unknown (cause : BackendError) :
      Resets [⟨.pool, .autoCommit, .error cause⟩] (.error cause)
  /-- It is not so, and the connection is rolled back. -/
  | rolledBack (answer : Except BackendError Unit) :
      Resets [⟨.pool, .rollback, answer⟩, ⟨.pool, .autoCommit, .ok false⟩] answer

/-- The calls with which a connection that is handed back is reset, and what that comes to. -/
inductive Restores : List Call → Except BackendError Unit → Prop
  /-- The connection is closed. -/
  | closed : Restores [⟨.pool, .isClosed, true⟩] (.error .closed)
  | reset {made : List Call} {result : Except BackendError Unit} (resets : Resets made result) :
      Restores (made ++ [⟨.pool, .isClosed, false⟩]) result

/-- The calls with which a connection is closed for good: one `close`, unless it is closed
already, whatever that and the reset before it come to. -/
inductive Disposes : List Call → Prop
  /-- The connection is closed already. -/
  | closed : Disposes [⟨.pool, .isClosed, true⟩]
  | close {made : List Call} {result : Except BackendError Unit} (resets : Resets made result)
      (answer : Except BackendError Unit) :
      Disposes (⟨.pool, .close, answer⟩ :: (made ++ [⟨.pool, .isClosed, false⟩]))

/-- The calls of a check whether a connection may be handed out, and what it comes to. -/
inductive Checks : List Call → Bool → Prop
  /-- The lease was revoked, or its stamp is not the expected one. -/
  | refused : Checks [] false
  /-- The connection is closed. -/
  | closed : Checks [⟨.pool, .isClosed, true⟩] false
  /-- It is not, and no probe is due. -/
  | unprobed : Checks [⟨.pool, .isClosed, false⟩] true
  /-- A probe fails, and the connection is closed. -/
  | dead (query : String) (cause : BackendError) (answer : Except BackendError Unit) :
      Checks [⟨.pool, .close, answer⟩, ⟨.pool, .execute query, .error cause⟩,
        ⟨.pool, .isClosed, false⟩] false
  /-- A probe succeeds, but not the reset after it, and the connection is closed. -/
  | stuck (query : String) {made : List Call} {cause : BackendError}
      (resets : Resets made (.error cause)) (answer : Except BackendError Unit) :
      Checks (⟨.pool, .close, answer⟩ ::
        (made ++ [⟨.pool, .execute query, .ok ()⟩, ⟨.pool, .isClosed, false⟩])) false
  /-- A probe succeeds, and the reset after it. -/
  | alive (query : String) {made : List Call} (resets : Resets made (.ok ())) :
      Checks (made ++ [⟨.pool, .execute query, .ok ()⟩, ⟨.pool, .isClosed, false⟩]) true

/-- A reset leaves nothing pending if it succeeds. -/
theorem Resets.settles {made : List Call} (resets : Resets made (.ok ())) (calls : List Call) :
    (made ++ calls).head?.any Call.settles = true := by
  cases resets <;> rfl

/-- A reset leaves nothing pending where nothing was, whether or not it succeeds. -/
theorem Resets.settled {made calls : List Call} {result : Except BackendError Unit}
    (resets : Resets made result) (settled : Settled calls) : Settled (made ++ calls) := by
  cases resets with
  | unneeded => exact .inl rfl
  | unknown => exact .inr ⟨rfl, settled⟩
  | rolledBack =>
    cases result with
    | ok => exact .inl rfl
    | error => exact .inr ⟨rfl, .inr ⟨rfl, settled⟩⟩

theorem Restores.settles {made : List Call} (restores : Restores made (.ok ()))
    (calls : List Call) : (made ++ calls).head?.any Call.settles = true := by
  cases restores with
  | reset resets =>
    rw [List.append_assoc]
    exact resets.settles _

/-- A check that a connection passes without a probe only asks whether it is closed; after a probe
nothing is pending. -/
theorem Checks.settles {made : List Call} (checks : Checks made true) (calls : List Call) :
    made = [⟨.pool, .isClosed, false⟩] ∨ (made ++ calls).head?.any Call.settles = true := by
  cases checks with
  | unprobed => exact .inl rfl
  | alive query resets =>
    right
    rw [List.append_assoc]
    exact resets.settles _

/-- After a disposal the pool knows that the connection is closed, or has closed it. -/
theorem Disposes.isFinal {made : List Call} (disposes : Disposes made) (calls : List Call) :
    (made ++ calls).head?.any Call.isFinal = true := by
  cases disposes <;> rfl

namespace Environment

variable {σ : Type} (b : Backend σ)

/-- To open a connection, or to try to, does nothing to any connection. -/
theorem standing_connect {e e' : Environment σ} {id : Nat} {endpoint : String}
    {credentials : Credentials} {answer : Except BackendError Unit}
    (connected : e.connect b id endpoint credentials = (answer, e')) (n : Nat) :
    e'.standing n = e.standing n := by
  obtain ⟨answered, rfl⟩ := Prod.mk.inj connected
  cases answer <;> simp only [answered] <;> rfl

theorem opened_connect {e e' : Environment σ} {id : Nat} {endpoint : String}
    {credentials : Credentials} (connected : e.connect b id endpoint credentials = (.ok (), e')) :
    e'.opened = e.opened ++ [id] := by
  obtain ⟨answered, rfl⟩ := Prod.mk.inj connected
  simp only [answered]
  exact opened_record _ _

theorem opened_refused {e e' : Environment σ} {id : Nat} {endpoint : String}
    {credentials : Credentials} {cause : BackendError}
    (refused : e.connect b id endpoint credentials = (.error cause, e')) :
    e'.opened = e.opened := by
  obtain ⟨answered, rfl⟩ := Prod.mk.inj refused
  simp only [answered]
  exact (opened_record _ _).trans (List.append_nil _)

theorem called_ask (e : Environment σ) (party : Party) (n : Nat) (operation : Operation) :
    Called n [⟨party, operation, (e.ask b party n operation).1⟩] e
      (e.ask b party n operation).2 := rfl

theorem called_of_ask {e e' : Environment σ} {party : Party} {n : Nat} {operation : Operation}
    {answer : operation.Answer} (asked : e.ask b party n operation = (answer, e')) :
    Called n [⟨party, operation, answer⟩] e e' := by
  have called := e.called_ask b party n operation
  rwa [asked] at called

theorem called_reset (e : Environment σ) (n : Nat) :
    ∃ made, Resets made (e.reset b n).1 ∧ Called n made e (e.reset b n).2 := by
  unfold reset
  split
  · rename_i cause e' asked
    exact ⟨_, .unknown cause, called_of_ask b asked⟩
  · rename_i e' asked
    exact ⟨_, .unneeded, called_of_ask b asked⟩
  · rename_i e' asked
    exact ⟨_, .rolledBack _, (called_of_ask b asked).trans (e'.called_ask b .pool n .rollback)⟩

theorem called_of_reset {e e' : Environment σ} {n : Nat} {result : Except BackendError Unit}
    (reset : e.reset b n = (result, e')) : ∃ made, Resets made result ∧ Called n made e e' := by
  have called := e.called_reset b n
  rwa [reset] at called

theorem called_dispose (e : Environment σ) (n : Nat) :
    ∃ made, Disposes made ∧ Called n made e (e.dispose b n) := by
  unfold dispose
  split
  · rename_i e' asked
    exact ⟨_, .closed, called_of_ask b asked⟩
  · rename_i e' asked
    obtain ⟨made, resets, called⟩ := e'.called_reset b n
    have closed := called_ask b (e'.reset b n).2 .pool n .close
    exact ⟨_, .close resets _, ((called_of_ask b asked).trans called).trans closed⟩

theorem called_restore (e : Environment σ) (n : Nat) :
    ∃ made, Restores made (Pool.restore b e n).1 ∧ Called n made e (Pool.restore b e n).2 := by
  unfold Pool.restore
  split
  · rename_i e' asked
    exact ⟨_, .closed, called_of_ask b asked⟩
  · rename_i e' asked
    obtain ⟨made, resets, called⟩ := e'.called_reset b n
    exact ⟨_, .reset resets, (called_of_ask b asked).trans called⟩

/-- A check of a lease consists of calls on its connection. -/
theorem called_usable (e : Environment σ) (l : Lease) (s : Settings) (expected : Fingerprint)
    (revoked : List Nat) :
    ∃ made, Checks made (l.usable b s expected revoked e).1 ∧
      Called l.connection made e (l.usable b s expected revoked e).2 := by
  unfold Lease.usable
  split
  · exact ⟨[], .refused, .none _ e⟩
  · split
    · rename_i e' asked
      exact ⟨_, .closed, called_of_ask b asked⟩
    · rename_i e' asked
      have opened := called_of_ask b asked
      split
      · unfold probe
        split
        · rename_i cause e'' executed
          exact ⟨_, .dead s.pingQuery cause _,
            (opened.trans (called_of_ask b executed)).trans (e''.called_ask b .pool _ .close)⟩
        · rename_i e'' executed
          have queried := opened.trans (called_of_ask b executed)
          split
          · rename_i cause restored reset
            obtain ⟨made, resets, called⟩ := called_of_reset b reset
            exact ⟨_, .stuck s.pingQuery resets _,
              (queried.trans called).trans (restored.called_ask b .pool _ .close)⟩
          · rename_i restored reset
            obtain ⟨made, resets, called⟩ := called_of_reset b reset
            exact ⟨_, .alive s.pingQuery resets, queried.trans called⟩
      · exact ⟨_, .unprobed, opened⟩

/-- What a holder does with a connection consists of calls on it. -/
theorem called_performAll (e : Environment σ) (n : Nat) (operations : List Operation) :
    ∃ made, Called n made e (Pool.performAll b n operations e).2 := by
  induction operations generalizing e with
  | nil => exact ⟨[], .none n e⟩
  | cons operation rest ih =>
    obtain ⟨made, called⟩ := ih (e.ask b .holder n operation).2
    exact ⟨_, (e.called_ask b .holder n operation).trans called⟩

end Environment

end LeasePool
