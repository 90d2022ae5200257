import LeasePool.Proofs.Links

/-!
# When a connection counts as closed

A TCP connection counts as closed from the first call that closes it or meets its end: a `close`,
by whomever, or a query that reads that the peer has closed the connection. Nothing else marks it,
neither a failure of the system nor anything that the peer does. The journal notes every call, so it
tells of each connection that was opened whether it is closed.

## Main definitions

* `Tcp.PeerActs`: something that a peer can do; `Tcp.WithPeer`: nothing else happens to the network.
* `Call.closes`: after the call the connection is closed.
* `Tcp.Tells`: the journal tells of every connection whether it is closed.

## Main results

* `Tcp.Link.closed_perform_iff`: what closes a link.
* `Tcp.tells_affects`, `Tcp.tells_reachable`: the journal tells so after every action, and hence at
  every reachable site.
-/

namespace LeasePool

/-- After the call the connection is closed: it was to be closed, or a query met its end. -/
def Call.closes : Call → Bool
  | ⟨_, .close, _⟩ | ⟨_, .execute _, .error .closed⟩ => true
  | _ => false

namespace Environment

variable {σ : Type} {b : Backend σ} {n : Nat} {e : Environment σ}

/-- To note what is no call adds no call. -/
theorem calls_record_of_plain {event : Event} (plain : event.isCall = false) :
    (e.record event).calls n = e.calls n := by
  cases event with
  | opened | unopened | asked => cases plain
  | handedOut => exact calls_handedOut ..
  | begun | parked | resumed | failed | discarded | spurned => rfl
  | reclaimed | withdrawn | returned =>
    simp only [calls, standing_record, Standing.note]
    split <;> rfl

theorem opened_record_of_plain {event : Event} (plain : event.isCall = false) :
    (e.record event).opened = e.opened := by
  have noOpening : event.opened? = none := by
    cases event with
    | opened | unopened | asked => cases plain
    | _ => rfl
  rw [opened_record, noOpening, Option.toList_none, List.append_nil]

theorem opened_ask (e : Environment σ) (party : Party) (m : Nat) (operation : Operation) :
    (e.ask b party m operation).2.opened = e.opened :=
  opened_called (e.called_ask b party m operation)

end Environment

namespace Tcp

open Site (Affects)

/-! ### What a peer can do -/

/-- What has been done with a connection and what its peer has received are the same. -/
structure Link.Kept (l l' : Link) : Prop where
  closed : l'.closed = l.closed
  received : l'.received = l.received
  partialLine : l'.partialLine = l.partialLine

theorem Link.Kept.of_eq {l l' : Link} (same : l' = l) : l.Kept l' :=
  same ▸ ⟨rfl, rfl, rfl⟩

theorem Link.Kept.trans {l l' l'' : Link} (first : l.Kept l') (second : l'.Kept l'') :
    l.Kept l'' :=
  ⟨second.closed.trans first.closed, second.received.trans first.received,
    second.partialLine.trans first.partialLine⟩

/-- A peer can send bytes, hang up, go out of reach and change its mind about what it will do. It
cannot close this end, nor undo that it has received something. -/
def PeerActs (happen : Network → Network) : Prop :=
  ∀ (network : Network) (id : Nat), (network.link id).Kept ((happen network).link id)

/-- What happens to the network is the peer's doing. -/
def WithPeer (_ : Site Network) (a : Action Network) : Prop :=
  ∀ happen, a = .backend happen → PeerActs happen

/-! ### What closes a link -/

/-- A link is closed after an operation if it was closed before, or if the operation closes it. -/
theorem Link.closed_perform_iff (l : Link) (party : Party) (operation : Operation) :
    (l.perform operation).2.closed =
      (Call.closes ⟨party, operation, (l.perform operation).1⟩ || l.closed) := by
  cases operation with
  | close => exact l.closed_close
  | rollback | autoCommit | isClosed => rfl
  | execute query =>
    change (l.execute query).2.closed =
      (Call.closes ⟨party, .execute query, (l.execute query).1⟩ || l.closed)
    cases isClosed : l.closed with
    | true =>
      rw [execute_of_closed isClosed query]
      exact isClosed
    | false =>
      have unmarked := (closed_exchange l query).trans isClosed
      have executes := executes_execute isClosed query
      generalize l.execute query = result at executes
      cases executes with
      | answered | failed => exact unmarked
      | ended => rfl

/-! ### What the journal tells -/

variable {e e' : Environment Network} {m : Nat} {p q : Pool Network} {held : List Lease}
  {r : Request} {s : Site Network} {a : Action Network}

/-- The journal tells of every connection that was opened whether it is closed. -/
def Tells (e : Environment Network) : Prop :=
  ∀ n ∈ e.opened, (link e n).closed = (e.calls n).any Call.closes

theorem tells_ask (tells : Tells e) (party : Party) (m : Nat) (operation : Operation) :
    Tells (e.ask backend party m operation).2 := by
  intro n opened
  rw [Environment.opened_ask] at opened
  have called := e.called_ask backend party m operation
  rw [link_ask]
  split
  · rename_i same
    subst same
    rw [Environment.calls_called called, List.singleton_append, List.any_cons,
      Link.closed_perform_iff, tells n opened]
    rfl
  · rename_i other
    have standing := Environment.standing_called_of_ne called other
    rw [Environment.calls, standing]
    exact tells n opened

theorem tells_record {event : Event} (tells : Tells e) (plain : event.isCall = false) :
    Tells (e.record event) := by
  intro n opened
  rw [Environment.opened_record_of_plain plain] at opened
  rw [Environment.calls_record_of_plain plain]
  exact tells n opened

theorem tells_asks (asks : Environment.Asks backend m e e') (tells : Tells e) : Tells e' := by
  induction asks with
  | refl => exact tells
  | ask _ party operation ih => exact tells_ask ih party m operation
  | record _ _ plain ih => exact tells_record ih plain

/-- A connection under a new number is open, and nothing was asked of it yet. -/
theorem tells_connect {endpoint : String} {c : Credentials} {answer : Except BackendError Unit}
    (tells : Tells e) (isNew : m ∉ e.opened) (uncalled : e.calls m = [])
    (connected : e.connect backend m endpoint c = (answer, e')) : Tells e' := by
  intro n opened
  have standing := Environment.standing_connect backend connected n
  have others (before : n ∈ e.opened) : (link e' n).closed = (e'.calls n).any Call.closes := by
    have other : n ≠ m := fun same => isNew (same ▸ before)
    have same := link_connect e endpoint c other
    rw [connected] at same
    rw [same, Environment.calls, standing]
    exact tells n before
  cases answer with
  | error cause => exact others (Environment.opened_refused backend connected ▸ opened)
  | ok =>
    rw [Environment.opened_connect backend connected, List.mem_append, List.mem_singleton] at opened
    rcases opened with before | rfl
    · exact others before
    · have answered : (e.backend.connect n endpoint).1 = .ok () := congrArg Prod.fst connected
      have isOpen := Network.link_connect (Prod.ext answered rfl)
      have same : e'.backend = (e.backend.connect n endpoint).2 :=
        congrArg (fun out => out.2.backend) connected.symm
      rw [Environment.calls, standing, ← Environment.calls, uncalled, link, same]
      exact isOpen

/-! ### Searching -/

theorem tells_found {c : Credentials} {out : Except BackendError (Option Lease) × Pool Network}
    (agrees : (p.places []).Agrees) (tells : Tells p.environment)
    (found : Pool.Found backend c p out) : Tells out.2.environment := by
  have isNew : p.nextConnection ∉ p.environment.opened :=
    fun there => Nat.lt_irrefl _ (agrees.mem_opened_iff.mp there).2
  have uncalled : p.environment.calls p.nextConnection = [] :=
    congrArg Standing.calls (agrees.unknown _ isNew)
  cases found with
  | idle | nothing => exact tells
  | opened _ _ connected => exact tells_connect tells isNew uncalled connected
  | unopened _ _ refused => exact tells_connect tells isNew uncalled refused
  | @overdue oldest rest =>
    have noted : Tells (p.environment.record (.reclaimed oldest.connection)) :=
      tells_record tells rfl
    exact tells_asks (Environment.asks_reset backend _ oldest.connection) noted

theorem tells_round (agrees : (p.places []).Agrees) (tells : Tells p.environment)
    (round : Pool.Round backend r p q) : Tells q.environment := by
  obtain ⟨l, taken, checked, -, -, found, bad⟩ := round
  have asks := (Pool.asks_of_checked bad).trans (Pool.asks_discard backend _ l)
  exact tells_asks asks (tells_found agrees tells (Pool.found_of_candidate backend found))

theorem tells_ending {waited : Bool} {discarded : Nat} {out : Acquired × Pool Network}
    (agrees : (p.places []).Agrees) (tells : Tells p.environment)
    (ending : Pool.Ending backend r waited discarded p out) : Tells out.2.environment := by
  cases ending with
  | closed | interrupted => exact tells_record tells rfl
  | refused _ _ found | waiting _ _ found =>
    exact tells_record (tells_found agrees tells (Pool.found_of_candidate backend found)) rfl
  | granted l taken checked _ _ found good =>
    have asks := (Pool.asks_of_checked good).trans (Pool.asks_handOut backend _ r l)
    exact tells_asks asks (tells_found agrees tells (Pool.found_of_candidate backend found))

theorem tells_seek (agrees : (p.places []).Agrees) (tells : Tells p.environment) (r : Request)
    (waited : Bool) (spare discarded : Nat) :
    Tells (p.seek backend r waited spare discarded).2.environment := by
  obtain ⟨k, q, rounds, ending⟩ := Pool.rounds_seek backend r waited spare discarded p
  -- where the connections are is known along the way
  have along := rounds.keeps backend
    (P := fun t => (t.places []).Agrees ∧ Tells t.environment)
    (fun _ _ round before =>
      ⟨before.1.moves (Pool.moves_round round), tells_round before.1 before.2 round⟩)
    ⟨agrees, tells⟩
  rcases ending with ⟨-, ending⟩ | ⟨-, failed⟩
  · exact tells_ending along.1 along.2 ending
  · rw [failed]
    exact tells_record along.2 rfl

/-! ### Along a run -/

theorem tells_closeAll (p : Pool Network) (tells : Tells p.environment) :
    Tells (p.closeAll backend).environment :=
  Pool.keeps_closeAll (fun _ _ _ asks before => tells_asks asks before) p tells

/-- Where the calls are the same and no connection was closed or opened, the journal tells as
much. -/
theorem Tells.unchanged (tells : Tells e) (events : e'.events = e.events)
    (same : ∀ n, (link e' n).closed = (link e n).closed) : Tells e' := by
  have opened : e'.opened = e.opened :=
    congrArg (fun events => (events.filterMap Event.opened?).reverse) events
  have calls (n : Nat) : e'.calls n = e.calls n :=
    congrArg (fun events => (events.foldr (fun event st => Standing.note n st event) {}).calls)
      events
  intro n there
  rw [same, calls]
  exact tells n (opened ▸ there)

theorem tells_affects (agrees : s.places.Agrees) (tells : Tells s.pool.environment)
    (may : WithPeer s a) (affects : Affects backend s a q) : Tells q.environment := by
  cases affects with
  | aside custody same events _ =>
    refine tells.unchanged events fun n => ?_
    rw [link, same]
    rfl
  | used isHeld uses =>
    rcases uses with rfl | ⟨-, asks⟩
    · exact tells
    · exact tells_asks asks tells
  | meddled happens =>
    exact tells.unchanged rfl fun n => (may _ happens s.pool.environment.backend n).closed
  | sought starts r waited spare discarded =>
    refine tells_seek (agrees.moves starts.moves) ?_ r waited spare discarded
    cases starts <;> exact tells_record tells rfl
  | released => exact tells_asks (Pool.asks_release backend s.pool _) tells
  | closed source settings shutDown =>
    exact tells_closeAll { s.pool with source, settings, shutDown } tells

/-- At every reachable site the journal tells of every connection whether it is closed. -/
theorem tells_reachable (reach : Site.Reachable backend WithPeer s) :
    Tells s.pool.environment := by
  have both := reach.keepsOrderly (P := fun t => t.places.Agrees ∧ Tells t.pool.environment)
    (fun source settings network =>
      ⟨Site.agrees_new source settings network, fun _ opened => absurd opened List.not_mem_nil⟩)
    fun t a may orderly before =>
      ⟨before.1.moves (Site.moves_act orderly a),
        tells_affects before.1 before.2 may (Site.affects_act backend t a)⟩
  exact both.2

end Tcp

end LeasePool
