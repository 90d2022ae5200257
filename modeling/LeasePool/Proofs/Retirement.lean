import LeasePool.Proofs.Closings

/-!
# Closed connections are retired

A TCP connection of a pool is closed by a `close`, and by a query that meets its end, be it of its
holder or of the pool. From that moment it is retired, whatever its peer does: it stays closed, the
peer receives nothing more on it, it does not lie idle and nobody gets it. Its holder can still hand
it back, or lose it to another acquire or when everything is closed. However that comes about, the
pool is then done with it, and its place is free for another connection.

## Main definitions

* `Pool.HasFreePlace`: there is room for another connection.
* `Tcp.ClosedByCalls`: what closes a connection.
* `Tcp.Retired`: what holds of a closed connection from then on.

## Main results

* `Site.Orderly.hasFreePlace_act`: the place of a lease that ends is free.
* `Tcp.idleOpen_affects`, `Tcp.kept_affects`: actions put no closed connection to the idle ones, and
  change none.
* `Tcp.closed_for_good`: calls close a connection, and a closed connection is retired.
-/

namespace LeasePool

/-! ### Room for another connection -/

namespace Pool

variable {σ : Type} {b : Backend σ} {p q : Pool σ} {r : Request} {held : List Lease} {n : Nat}

/-- There is room for another connection. -/
def HasFreePlace (p : Pool σ) : Prop := p.idle.length + p.active.length < p.settings.maxActive

/-- A bad candidate that is closed leaves its place. -/
theorem hasFreePlace_of_round (orderly : p.Orderly [] held) (round : Round b r p q) :
    q.HasFreePlace := by
  obtain ⟨l, taken, checked, -, -, found, bad⟩ := round
  have inHand : taken.Orderly [l] held := orderly.candidate b found
  have fits := (inHand.usable b bad).fits
  rw [List.length_singleton] at fits
  change checked.idle.length + checked.active.length < checked.settings.maxActive
  omega

theorem hasFreePlace_of_rounds {k : Nat} (orderly : p.Orderly [] held) (room : p.HasFreePlace)
    (rounds : Rounds b r k p q) : q.HasFreePlace := by
  have both := rounds.keeps b (P := fun t => t.Orderly [] held ∧ t.HasFreePlace)
    (fun _ _ round before => ⟨before.1.round b round, hasFreePlace_of_round before.1 round⟩)
    ⟨orderly, room⟩
  exact both.2

/-- Where there was room there is room yet, unless a lease took it. Nobody waits there. -/
theorem hasFreePlace_ending {waited : Bool} {discarded : Nat} {out : Acquired × Pool σ}
    (room : p.HasFreePlace) (ending : Ending b r waited discarded p out) :
    out.2.HasFreePlace ∨ ∃ l, out.1 = .granted l := by
  cases ending with
  | closed | interrupted => exact .inl room
  | refused _ _ found =>
    cases found_of_candidate b found
    exact .inl room
  | waiting _ _ found =>
    cases found_of_candidate b found with
    | nothing noneIdle full =>
      rw [HasFreePlace, noneIdle, List.length_nil, Nat.zero_add] at room
      exact absurd room (Nat.not_lt_of_le full)
  | granted l => exact .inr ⟨_, rfl⟩

/-- The end of a search leaves the active leases alone, unless it adds to them. -/
theorem active_ending {waited : Bool} {discarded : Nat} {out : Acquired × Pool σ}
    (ending : Ending b r waited discarded p out) :
    out.2.active = p.active ∨ ∃ l, out.1 = .granted l := by
  cases ending with
  | closed | interrupted => exact .inl rfl
  | refused _ _ found =>
    cases found_of_candidate b found
    exact .inl rfl
  | waiting _ _ found =>
    cases found_of_candidate b found
    exact .inl rfl
  | granted l => exact .inr ⟨_, rfl⟩

/-- An acquire that takes a lease from its holder, and gets nothing, leaves room. -/
theorem hasFreePlace_seek (orderly : p.Orderly [] held) (waited : Bool) (spare discarded : Nat)
    (before : n ∈ p.active.map Lease.connection)
    (after : n ∉ (p.seek b r waited spare discarded).2.active.map Lease.connection) :
    (p.seek b r waited spare discarded).2.HasFreePlace ∨
      ∃ l, (p.seek b r waited spare discarded).1 = .granted l := by
  obtain ⟨k, q, rounds, ending⟩ := rounds_seek b r waited spare discarded p
  cases rounds with
  | none =>
    -- without a bad candidate no lease is lost
    rcases ending with ⟨-, ending⟩ | ⟨impossible, -⟩
    · rcases active_ending ending with same | granted
      · exact absurd (same ▸ before) after
      · exact .inr granted
    · cases impossible
  | more first others =>
    have room :=
      hasFreePlace_of_rounds (orderly.round b first) (hasFreePlace_of_round orderly first) others
    rcases ending with ⟨-, ending⟩ | ⟨-, failed⟩
    · exact hasFreePlace_ending room ending
    · rw [failed]
      exact .inl room

/-- A lease that is handed back leaves the idle ones as they were, or its connection is laid to
them. -/
theorem idle_eq_or_laid (b : Backend σ) (p : Pool σ) (l : Lease) :
    (p.takeBack b l).idle = p.idle ∨
      l.connection ∈ (p.takeBack b l).idle.map Lease.connection := by
  unfold takeBack
  split
  · split
    · right
      simp [shelve, renew, Lease.renewed]
    · exact .inl rfl
  · exact .inl rfl

/-- A lease that is handed back leaves room, unless its connection is laid to the idle ones. -/
theorem hasFreePlace_release (orderly : p.Orderly [] held) {l : Lease} (isHeld : l ∈ held)
    (before : n ∈ p.active.map Lease.connection)
    (after : n ∉ (p.release b l).active.map Lease.connection)
    (notIdle : n ∉ (p.release b l).idle.map Lease.connection) :
    (p.release b l).HasFreePlace := by
  by_cases valid : p.IsValid l
  · have active : l ∈ p.active := orderly.sound.active_of_held l isHeld valid
    obtain ⟨first, last, whole, rest⟩ := split_dropActive orderly.sound active
    rw [release_of_valid b valid] at after notIdle ⊢
    have laid := idle_eq_or_laid b ((p.dropActive l).noteReturn l) l
    have remain := (active_takeBack b ((p.dropActive l).noteReturn l) l).trans rest
    have terms := terms_takeBack b ((p.dropActive l).noteReturn l) l
    generalize ((p.dropActive l).noteReturn l).takeBack b l = taken at *
    have active' : taken.notifyOne.active = first ++ last :=
      (congrArg Custody.active (custody_notifyOne taken)).trans remain
    have idle' : taken.notifyOne.idle = taken.idle :=
      congrArg Custody.idle (custody_notifyOne taken)
    have settings : taken.notifyOne.settings = p.settings :=
      congrArg Terms.settings ((terms_notifyOne taken).trans terms)
    -- the lease that is handed back is the one that had the connection
    have isN : l.connection = n := by
      rw [active'] at after
      rw [whole] at before
      simp only [List.map_append, List.map_cons, List.mem_append, List.mem_cons] at before after
      tauto
    have sameIdle : taken.idle = p.idle := laid.resolve_right (isN ▸ idle' ▸ notIdle)
    have fits := orderly.fits
    rw [whole, List.length_append, List.length_cons] at fits
    rw [HasFreePlace, idle', sameIdle, active', settings, List.length_append]
    omega
  · rw [release_of_revoked b valid, dropActive_of_revoked orderly.sound valid] at after
    exact absurd before after

end Pool

namespace Site

variable {σ : Type} {b : Backend σ} {s : Site σ} {n : Nat}

/-- The place of a lease that ends is free, unless the acquire that ended it has taken it. -/
theorem Orderly.hasFreePlace_act (orderly : s.Orderly) (a : Action σ)
    (before : n ∈ s.pool.active.map Lease.connection)
    (after : n ∉ (s.act b a).2.pool.active.map Lease.connection)
    (notIdle : n ∉ (s.act b a).2.pool.idle.map Lease.connection) :
    (s.act b a).2.pool.HasFreePlace ∨ (∃ m, (s.act b a).1 = .leased m) ∨
      a.Closes ∧ (s.act b a).2.pool.idle = [] ∧ (s.act b a).2.pool.active = [] := by
  have step := step_act b s a
  have acquired (t : Site σ) (name : String) (out : Acquired × Pool σ)
      (upshot : out.2.HasFreePlace ∨ ∃ l, out.1 = .granted l) :
      (t.afterAcquire name out).2.pool.HasFreePlace ∨
        ∃ m, (t.afterAcquire name out).1 = .leased m := by
    refine upshot.imp (fun room => (pool_afterAcquire t name out).symm ▸ room) ?_
    obtain ⟨acquired, q⟩ := out
    rintro ⟨l, rfl⟩
    exact ⟨l.connection, rfl⟩
  generalize s.act b a = result at step after notIdle ⊢
  cases step with
  | rest | outside | lookUp | notifyAll | rouse => exact absurd before after
  | begin r lookups =>
    rw [pool_afterAcquire] at after
    have begun : (s.pool.record (.begun r.name)).Orderly [] s.leases := orderly.pool.record
    have upshot := Pool.hasFreePlace_seek (b := b) begun false _ 0 before after
    exact (acquired _ _ _ upshot).imp_right .inl
  | resume w =>
    rw [pool_afterAcquire] at after
    have woken : (s.pool.wake w).Orderly [] s.leases := orderly.pool.wake
    have upshot := Pool.hasFreePlace_seek (b := b) woken true _ w.discarded before after
    exact (acquired _ _ _ upshot).imp_right .inl
  | release name l found =>
    exact .inl (Pool.hasFreePlace_release orderly.pool (mem_leases found) before after notIdle)
  | close source settings shutDown _ _ closes =>
    have custody := Pool.custody_clear b { s.pool with source, settings, shutDown }
    exact .inr (.inr ⟨closes, congrArg Custody.idle custody, congrArg Custody.active custody⟩)

end Site

namespace Tcp

open Site (Affects)

variable {s t : Site Network} {p q : Pool Network} {held : List Lease} {a : Action Network}
  {n : Nat}

/-! ### Idle connections are open -/

/-- No closed connection lies idle. -/
def IdleOpen (p : Pool Network) : Prop :=
  ∀ l ∈ p.idle, (link p.environment l.connection).closed = false

theorem idleOpen_seek (orderly : p.Orderly [] held) (idleOpen : IdleOpen p) (r : Request)
    (waited : Bool) (spare discarded : Nat) :
    IdleOpen (p.seek backend r waited spare discarded).2 := by
  intro l there
  have before : l ∈ p.idle := (Pool.idle_seek backend r waited spare discarded p).subset there
  have old : l.connection < p.nextConnection :=
    orderly.sound.distinct.connection_lt l (by simp [Custody.live, Pool.custody, before])
  rw [link_seek orderly r waited spare discarded old (.inr (List.mem_map_of_mem there))]
  exact idleOpen l before

theorem idleOpen_uses (orderly : p.Orderly [] held) (idleOpen : IdleOpen p) {l : Lease}
    {e : Environment Network} (isHeld : l ∈ held) (uses : p.Uses backend l e) :
    IdleOpen { p with environment := e } := by
  rcases uses with rfl | ⟨valid, asks⟩
  · exact idleOpen
  · intro l' idle
    have active : l ∈ p.active := orderly.sound.active_of_held l isHeld valid
    change (link e l'.connection).closed = false
    rw [link_asks asks (.inr (orderly.sound.connection_ne_of_idle idle active))]
    exact idleOpen l' idle

theorem idleOpen_release (orderly : p.Orderly [] held) (idleOpen : IdleOpen p) {l : Lease}
    (isHeld : l ∈ held) : IdleOpen (p.release backend l) := by
  intro l' there
  by_cases valid : p.IsValid l
  · rcases idle_release there with idle | ⟨same, isOpen⟩
    · have active : l ∈ p.active := orderly.sound.active_of_held l isHeld valid
      have asks := Pool.asks_release backend p l
      rw [link_asks asks (.inr (orderly.sound.connection_ne_of_idle idle active))]
      exact idleOpen l' idle
    · exact same ▸ isOpen
  · rw [Pool.release_of_revoked backend valid] at there ⊢
    exact idleOpen l' there

theorem idleOpen_affects (orderly : s.Orderly) (idleOpen : IdleOpen s.pool) (may : WithPeer s a)
    (affects : Affects backend s a q) : IdleOpen q := by
  cases affects with
  | aside custody same _ _ =>
    intro l there
    have idle : q.idle = s.pool.idle := congrArg Custody.idle custody
    rw [link, same]
    exact idleOpen l (idle ▸ there)
  | used isHeld uses => exact idleOpen_uses orderly.pool idleOpen isHeld uses
  | meddled happens =>
    intro l there
    exact (may _ happens s.pool.environment.backend l.connection).closed.trans (idleOpen l there)
  | sought starts r waited spare discarded =>
    refine idleOpen_seek (starts.orderly orderly.pool) ?_ r waited spare discarded
    cases starts <;> exact idleOpen
  | released isHeld => exact idleOpen_release orderly.pool idleOpen isHeld
  | closed source settings shutDown =>
    have custody := Pool.custody_clear backend { s.pool with source, settings, shutDown }
    have idle : (Pool.closeAll backend _).idle = [] := congrArg Custody.idle custody
    exact fun l there => absurd (idle ▸ there) List.not_mem_nil

/-- At every reachable site no closed connection lies idle. -/
theorem idleOpen_reachable (reach : Site.Reachable backend WithPeer s) : IdleOpen s.pool := by
  apply reach.keepsOrderly (P := fun t => IdleOpen t.pool)
  · exact fun _ _ _ _ there => absurd there List.not_mem_nil
  · intro t a may orderly idleOpen
    exact idleOpen_affects orderly idleOpen may (Site.affects_act backend t a)

/-! ### Closed connections do not change -/

theorem link_starts (starts : p.Starts q) (n : Nat) :
    link q.environment n = link p.environment n := by
  cases starts <;> rfl

/-- Nothing is done any more with a closed connection. -/
theorem kept_affects (orderly : s.Orderly) (may : WithPeer s a) (old : n < s.pool.nextConnection)
    (closed : (link s.pool.environment n).closed = true) (affects : Affects backend s a q) :
    (link s.pool.environment n).Kept (link q.environment n) := by
  cases affects with
  | aside custody same _ _ =>
    refine .of_eq ?_
    rw [link, same]
    rfl
  | used isHeld uses =>
    rcases uses with rfl | ⟨-, asks⟩
    · exact .of_eq rfl
    · exact .of_eq (link_asks asks (.inl closed))
  | meddled happens => exact may _ happens s.pool.environment.backend n
  | sought starts r waited spare discarded =>
    have same := link_starts starts n
    have still := link_seek (starts.orderly orderly.pool) r waited spare discarded
      (starts.nextConnection ▸ old) (.inl (same ▸ closed))
    exact .of_eq (still.trans same)
  | released isHeld => exact .of_eq (link_asks (Pool.asks_release backend s.pool _) (.inl closed))
  | closed source settings shutDown =>
    exact .of_eq (link_closeAll { s.pool with source, settings, shutDown } closed)

/-- A connection that is closed stays as it is, whatever follows. -/
theorem kept_leads (orderly : s.Orderly) (old : n < s.pool.nextConnection)
    (closed : (link s.pool.environment n).closed = true) (leads : s.Leads backend WithPeer t) :
    (link s.pool.environment n).Kept (link t.pool.environment n) := by
  have along := leads.keeps (P := fun u => (u.Orderly ∧ n < u.pool.nextConnection) ∧
    (link s.pool.environment n).Kept (link u.pool.environment n)) ?_
    ⟨⟨orderly, old⟩, .of_eq rfl⟩
  · exact along.2
  · intro u a may ⟨⟨orderly, old⟩, kept⟩
    have affects := Site.affects_act backend u a
    have later := (Site.moves_act (b := backend) orderly a).course.next_le
    exact ⟨⟨orderly.act a, Nat.lt_of_lt_of_le old later⟩,
      kept.trans (kept_affects orderly may old (kept.closed.trans closed) affects)⟩

/-- Who gets a connection gets an open one. -/
theorem open_of_leased (leased : n ∈ (s.act backend a).1.leased?) :
    (link (s.act backend a).2.pool.environment n).closed = false := by
  obtain ⟨p, r, waited, spare, discarded, l, -, granted, rfl, after⟩ := Site.search_of_leased leased
  rw [after]
  exact open_of_granted granted

/-! ### Closing -/

/-- What closes a connection. -/
structure ClosedByCalls (n : Nat) (s : Site Network) : Prop where
  /-- It is closed exactly if it was to be closed or a query met its end, by anybody. -/
  told : (link s.pool.environment n).closed = true ↔ ∃ c ∈ s.calls n, c.closes = true
  /-- Whoever closes it, it is closed. -/
  close : ∀ party, (link (s.pool.environment.ask backend party n .close).2 n).closed = true
  /-- Whoever runs a query that reads its end is told so, and it is closed. -/
  ended : ∀ party query, (link s.pool.environment n).closed = false →
    ((link s.pool.environment n).exchange query).1 = .ok 0 →
      (s.pool.environment.ask backend party n (.execute query)).1 = .error .closed ∧
        (link (s.pool.environment.ask backend party n (.execute query)).2 n).closed = true

theorem closedByCalls (reach : Site.Reachable backend WithPeer s) (opened : n ∈ s.opened) :
    ClosedByCalls n s where
  told := by
    rw [tells_reachable reach n opened]
    exact List.any_eq_true
  close party := by
    rw [link_ask, if_pos rfl]
    exact Link.closed_close _
  ended party query isOpen ended := by
    have executed := Link.execute_of_end isOpen ended
    refine ⟨(answer_ask ..).trans (congrArg Prod.fst executed), ?_⟩
    rw [link_ask, if_pos rfl]
    exact congrArg (fun out => out.2.closed) executed

/-! ### Retirement -/

/-- What holds of a connection at any site after one at which it is closed. -/
structure Retired (n : Nat) (s t : Site Network) : Prop where
  closed : (link t.pool.environment n).closed = true
  /-- The peer has received no further line, nor a part of one. -/
  silent : (link t.pool.environment n).received = (link s.pool.environment n).received ∧
    (link t.pool.environment n).partialLine = (link s.pool.environment n).partialLine
  /-- A query is refused, whoever runs it, and nothing is sent. -/
  execute : ∀ party query,
    (t.pool.environment.ask backend party n (.execute query)).1 = .error .closed ∧
      ∀ m, link (t.pool.environment.ask backend party n (.execute query)).2 m =
        link t.pool.environment m
  /-- To close it again succeeds, and does nothing. -/
  close : ∀ party,
    (t.pool.environment.ask backend party n .close).1 = .ok () ∧
      ∀ m, link (t.pool.environment.ask backend party n .close).2 m = link t.pool.environment m
  /-- So its holder is told. -/
  holder : ∀ name l, t.handle? name = some l → l.connection = n → t.pool.IsValid l →
    (∀ query,
      (t.act backend (.perform name (.execute query))).1 = .failed (.connection .closed)) ∧
    (t.act backend (.perform name .close)).1 = .performed ⟨.close, .ok ()⟩
  notIdle : n ∉ t.pool.idle.map Lease.connection
  notLeased : ∀ a, n ∉ (t.act backend a).1.leased?
  /-- The place of its lease is free when that ends, however it ends, unless the acquire that ended
  it has taken the place for another connection. -/
  place : ∀ a, n ∈ t.pool.active.map Lease.connection →
    n ∉ (t.act backend a).2.pool.active.map Lease.connection →
      (t.act backend a).2.pool.HasFreePlace ∨ (∃ m ≠ n, (t.act backend a).1 = .leased m) ∨
        a.Closes ∧ (t.act backend a).2.pool.idle = [] ∧ (t.act backend a).2.pool.active = []
  /-- Without a lease it is one of those with which the pool is done. -/
  disposed : n ∉ t.pool.active.map Lease.connection → n ∈ t.disposed

/-- What is asked of a closed connection changes none. -/
theorem link_ask_of_closed {e : Environment Network} (closed : (link e n).closed = true)
    (party : Party) (operation : Operation) (m : Nat) :
    link (e.ask backend party n operation).2 m = link e m := by
  rw [link_ask]
  split
  · rename_i same
    rw [same, Link.perform_of_closed closed]
  · rfl

/-- The holder of a closed connection learns that it is closed, and can close it again. -/
theorem perform_of_closed {name : String} {l : Lease}
    (closed : (link t.pool.environment n).closed = true) (found : t.handle? name = some l)
    (isN : l.connection = n) (valid : t.pool.IsValid l) :
    (∀ query,
      (t.act backend (.perform name (.execute query))).1 = .failed (.connection .closed)) ∧
    (t.act backend (.perform name .close)).1 = .performed ⟨.close, .ok ()⟩ := by
  subst isN
  refine ⟨fun query => ?_, ?_⟩
  · have answer : (t.pool.environment.ask backend .holder l.connection (.execute query)).1 =
        .error .closed :=
      (answer_ask ..).trans (congrArg Prod.fst (Link.execute_of_closed closed query))
    simp only [Site.act, Site.withHandle, found, Pool.perform, if_pos valid, answer,
      Answered.failure?]
  · have answer : (t.pool.environment.ask backend .holder l.connection .close).1 = .ok () :=
      (answer_ask ..).trans (congrArg Prod.fst (Link.close_of_closed closed))
    simp only [Site.act, Site.withHandle, found, Pool.perform, if_pos valid, answer,
      Answered.failure?]

/-- A connection that is closed at a reachable site is retired there. -/
theorem retired_of_kept (reach : Site.Reachable backend WithPeer t) (opened : n ∈ t.opened)
    (closed : (link t.pool.environment n).closed = true)
    (kept : (link s.pool.environment n).Kept (link t.pool.environment n)) : Retired n s t := by
  have orderly := reach.orderly
  have old : n < t.pool.nextConnection := (reach.agrees.mem_opened_iff.mp opened).2
  have notIdle {u : Site Network} (reach : Site.Reachable backend WithPeer u)
      (closed : (link u.pool.environment n).closed = true) :
      n ∉ u.pool.idle.map Lease.connection := by
    intro idle
    obtain ⟨l, there, rfl⟩ := List.mem_map.mp idle
    rw [idleOpen_reachable reach l there] at closed
    cases closed
  -- what is not something that happens to the network is allowed
  have stays (a : Action Network) (may : WithPeer t a) :
      (link (t.act backend a).2.pool.environment n).closed = true :=
    (kept_affects orderly may old closed (Site.affects_act backend t a)).closed.trans closed
  have notLeased (a : Action Network) : n ∉ (t.act backend a).1.leased? := by
    intro leased
    have may : WithPeer t a := by
      rintro happen rfl
      cases leased
    have isOpen := open_of_leased leased
    rw [stays a may] at isOpen
    cases isOpen
  refine ⟨closed, ⟨kept.received, kept.partialLine⟩, fun party query => ?_, fun party => ?_,
    fun name l found isN valid => perform_of_closed closed found isN valid,
    notIdle reach closed, notLeased, fun a before after => ?_, fun inactive => ?_⟩
  · exact ⟨(answer_ask ..).trans (congrArg Prod.fst (Link.execute_of_closed closed query)),
      link_ask_of_closed closed party _⟩
  · exact ⟨(answer_ask ..).trans (congrArg Prod.fst (Link.close_of_closed closed)),
      link_ask_of_closed closed party _⟩
  · have may : WithPeer t a := by
      rintro happen rfl
      exact absurd before after
    obtain ⟨source, settings, network, leads⟩ := reach
    have idle := notIdle ⟨source, settings, network, leads.act a may⟩ (stays a may)
    refine (orderly.hasFreePlace_act a before after idle).imp_right (Or.imp_left ?_)
    rintro ⟨m, leased⟩
    refine ⟨m, fun same => notLeased a ?_, leased⟩
    rw [leased, same]
    rfl
  · refine Environment.mem_disposed.mpr ⟨opened, reach.agrees.nowhere n opened fun there => ?_⟩
    obtain ⟨l, there, isN⟩ := Site.mem_places.mp there
    rcases List.mem_append.mp there with idle | active
    · exact notIdle reach closed (isN ▸ List.mem_map_of_mem idle)
    · exact inactive (isN ▸ List.mem_map_of_mem active)

/-- A connection is closed by the calls that close it or meet its end, and by nothing else. Once it
is closed it is retired, at whatever site and whatever its peer does. What lies idle is open, and
whoever gets a connection gets an open one. -/
theorem closed_for_good (reach : Site.Reachable backend WithPeer s) :
    (∀ l ∈ s.pool.idle, (link s.pool.environment l.connection).closed = false) ∧
      (∀ a, ∀ n ∈ (s.act backend a).1.leased?,
        (link (s.act backend a).2.pool.environment n).closed = false) ∧
      ∀ n ∈ s.opened, ClosedByCalls n s ∧
        ((link s.pool.environment n).closed = true →
          ∀ t, s.Leads backend WithPeer t → Retired n s t) := by
  refine ⟨idleOpen_reachable reach, fun a n leased => open_of_leased leased, fun n opened =>
    ⟨closedByCalls reach opened, fun closed t leads => ?_⟩⟩
  obtain ⟨positive, old⟩ := reach.agrees.mem_opened_iff.mp opened
  have kept := kept_leads reach.orderly old closed leads
  have later := (leads.moves reach.orderly).2.course.next_le
  obtain ⟨source, settings, network, before⟩ := reach
  have reach' : Site.Reachable backend WithPeer t := ⟨source, settings, network, before.trans leads⟩
  have opened' : n ∈ t.opened :=
    reach'.agrees.mem_opened_iff.mpr ⟨positive, Nat.lt_of_lt_of_le old later⟩
  exact retired_of_kept reach' opened' (kept.closed.trans closed) kept

/-- The peer closes every connection. -/
def Network.hangUp (n : Network) : Network :=
  { n with links := n.links.map fun entry => (entry.1, { entry.2 with hungUp := true }) }

/-- A connection is not closed at this end as long as nobody has read that the peer closed it. -/
theorem peerActs_hangUp : PeerActs Network.hangUp := by
  intro network id
  have found (links : List (Nat × Link)) :
      (links.map fun entry => (entry.1, { entry.2 with hungUp := true })).lookup id =
        (links.lookup id).map fun l => { l with hungUp := true } := by
    induction links with
    | nil => rfl
    | cons entry links ih =>
      rw [List.map_cons, List.lookup_cons, List.lookup_cons, ih]
      split <;> rfl
  rw [Network.hangUp, Network.link, Network.link, found]
  cases network.links.lookup id <;> exact ⟨rfl, rfl, rfl⟩

/-- The peer hangs up, which the holder learns from a query, and not from one before that could not
be written. It keeps the connection too long, and another acquire takes it away and gets a new
one. -/
theorem closed_for_good_hung_up :
    let network : Network :=
      { address := "peer:1", reach := .listening
        transits := [[.unwritten 0 "Broken pipe (os error 32)"]] }
    let r := (Site.new ⟨"peer:1", {}⟩ { maxActive := 1 } network).run backend
      [.get "a", .backend Network.hangUp, .perform "a" (.execute "PING")]
    let s := r.run backend [.perform "a" (.execute "PING")]
    let t := s.run backend [.elapse 21_000_000_000, .get "b"]
    (r.opened = [1] ∧ ((link r.pool.environment 1).exchange "PING").1 = .ok 0 ∧
        (link r.pool.environment 1).closed = false) ∧
      ((r.pool.environment.ask backend .holder 1 (.execute "PING")).1 = .error .closed ∧
        (link (r.pool.environment.ask backend .holder 1 (.execute "PING")).2 1).closed = true) ∧
      (link s.pool.environment 1).closed = true ∧ (∃ c ∈ s.calls 1, c.closes = true) ∧
      t.pool.active.map Lease.connection = [2] ∧ t.disposed = [1] ∧ Retired 1 s t := by
  intro network r s t
  -- in one piece, so that the sites are evaluated once
  have happened : r.opened = [1] ∧
      ((link r.pool.environment 1).exchange "PING").1.toOption = some 0 ∧
      (link r.pool.environment 1).closed = false ∧ s.opened = [1] ∧
      (link s.pool.environment 1).closed = true ∧
      t.pool.active.map Lease.connection = [2] ∧ t.disposed = [1] := by
    decide +kernel
  obtain ⟨openedBefore, read, isOpen, opened, closed, active, disposed⟩ := happened
  have ended : ((link r.pool.environment 1).exchange "PING").1 = .ok 0 := by
    revert read
    cases ((link r.pool.environment 1).exchange "PING").1 with
    | ok count => exact fun same => congrArg Except.ok (Option.some.inj same)
    | error => exact fun same => nomatch same
  have before : Site.Reachable backend WithPeer r := by
    refine ⟨_, _, _, Site.Leads.refl.run _ fun u a there happen same => ?_⟩
    simp only [same, List.mem_cons, reduceCtorEq, Action.backend.injEq, List.not_mem_nil, or_false,
      false_or] at there
    exact there ▸ peerActs_hangUp
  have queried : r.Leads backend WithPeer s := by
    refine Site.Leads.refl.run _ fun u a there happen same => ?_
    simp [same] at there
  have reach : Site.Reachable backend WithPeer s := by
    obtain ⟨source, settings, network, first⟩ := before
    exact ⟨source, settings, network, first.trans queried⟩
  have leads : s.Leads backend WithPeer t := by
    refine Site.Leads.refl.run _ fun u a there happen same => ?_
    simp [same] at there
  have byCalls := ((closed_for_good before).2.2 1 (by simp [openedBefore])).1
  obtain ⟨byCalls', retires⟩ := (closed_for_good reach).2.2 1 (by simp [opened])
  exact ⟨⟨openedBefore, ended, isOpen⟩, byCalls.ended .holder "PING" isOpen ended, closed,
    byCalls'.told.mp closed, active, disposed, retires closed t leads⟩

end Tcp

end LeasePool
