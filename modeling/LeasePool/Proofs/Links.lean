import LeasePool.Proofs.Asks
import LeasePool.Proofs.Whereabouts
import LeasePool.Tcp.Network

/-!
# TCP connections in a pool

A TCP connection that is closed stays so, and nothing is sent on it any more: what is asked of it is
answered without a byte. What a pool does with one connection changes no other. Wherever a pool
passes a connection on, to a holder or to the idle ones, it has just found it open.

## Main definitions

* `Tcp.link`: a connection, seen from both ends.

## Main results

* `Tcp.link_asks`: what questions about one connection do to the others, and to a closed one.
* `Tcp.open_of_usable`, `Tcp.open_of_restore`: a connection that passes is open.
* `Tcp.link_seek`, `Tcp.link_closeAll`: operations of a pool leave alone the closed connections, and
  a search those that remain idle.
* `Tcp.open_of_granted`, `Tcp.idle_release`: who gets a connection, and what comes to the idle ones.
-/

namespace LeasePool.Tcp

/-! ### Links -/

namespace Link

/-- A query of a closed link is refused, and nothing is sent. -/
theorem execute_of_closed {l : Link} (closed : l.closed = true) (query : String) :
    l.execute query = (.error .closed, l) :=
  if_pos closed

/-- To close a closed link again does nothing. -/
theorem close_of_closed {l : Link} (closed : l.closed = true) : l.close = (.ok (), l) :=
  if_pos closed

/-- A closed link is left as it is, whatever is asked of it. -/
theorem perform_of_closed {l : Link} (closed : l.closed = true) (operation : Operation) :
    (l.perform operation).2 = l := by
  cases operation with
  | close => exact congrArg Prod.snd (close_of_closed closed)
  | execute query => exact congrArg Prod.snd (execute_of_closed closed query)
  | rollback | autoCommit | isClosed => rfl

/-- Closing a link marks it as closed, even where the system fails to shut it down. -/
theorem closed_close (l : Link) : l.close.2.closed = true := by
  unfold close
  split
  · assumption
  · rfl

theorem closed_foldl_receiveLine (lines : List String) (l : Link) :
    (lines.foldl receiveLine l).closed = l.closed := by
  induction lines generalizing l with
  | nil => rfl
  | cons line lines ih =>
    refine (ih _).trans ?_
    unfold receiveLine
    split <;> rfl

/-- What a peer receives does not close this end. -/
theorem closed_receive (l : Link) (text : String) : (l.receive text).closed = l.closed := by
  unfold receive
  split
  · rfl
  · exact closed_foldl_receiveLine _ _

theorem closed_take (l : Link) (count : Nat) : (l.take count).closed = l.closed := rfl

theorem closed_read (l : Link) (ended : Bool) : (l.read ended).2.closed = l.closed := by
  unfold read
  by_cases arrived : 0 < l.arrived
  · rw [if_pos arrived]
    exact closed_take l _
  · rw [if_neg arrived]
    split <;> rfl

/-- The system alone does not mark a link as closed. -/
theorem closed_exchange (l : Link) (query : String) :
    (l.exchange query).2.closed = l.closed := by
  unfold exchange
  split
  · exact (closed_read _ true).trans (closed_receive l.onward _)
  · exact (closed_read _ false).trans (closed_receive l.onward _)
  · exact closed_receive l.onward _
  · exact closed_receive l.onward _

/-- When the system fails it says why. -/
theorem io_of_exchange {l : Link} {query : String} {cause : BackendError}
    (failed : (l.exchange query).1 = .error cause) : ∃ reason, cause = .io reason := by
  have late {t : Link} {ended : Bool} (failed : (t.read ended).1 = .error cause) :
      ∃ reason, cause = .io reason := by
    unfold read at failed
    split at failed
    · cases failed
    · split at failed
      · cases failed
      · exact ⟨_, (Except.error.inj failed).symm⟩
  unfold exchange at failed
  split at failed
  · exact late failed
  · exact late failed
  · exact ⟨_, (Except.error.inj failed).symm⟩
  · exact ⟨_, (Except.error.inj failed).symm⟩

/-- What a query on an open link comes to. -/
inductive Executes (l : Link) (query : String) : Except BackendError Unit × Link → Prop
  /-- Something was read. -/
  | answered {count : Nat} (read : (l.exchange query).1 = .ok (count + 1)) :
      Executes l query (.ok (), (l.exchange query).2)
  /-- The connection has ended, and the link is marked as closed. -/
  | ended (read : (l.exchange query).1 = .ok 0) :
      Executes l query (.error .closed, { (l.exchange query).2 with closed := true })
  /-- Nothing could be written or read. -/
  | failed {reason : String} (failed : (l.exchange query).1 = .error (.io reason)) :
      Executes l query (.error (.io reason), (l.exchange query).2)

theorem executes_execute {l : Link} (isOpen : l.closed = false) (query : String) :
    l.Executes query (l.execute query) := by
  have notClosed : ¬ l.closed = true := by simp [isOpen]
  unfold execute
  rw [if_neg notClosed]
  split
  · rename_i exchanged
    have failed := congrArg Prod.fst exchanged
    obtain ⟨reason, rfl⟩ := io_of_exchange failed
    have executes : Executes l query _ := .failed failed
    rwa [exchanged] at executes
  · rename_i exchanged
    have executes : Executes l query _ := .ended (congrArg Prod.fst exchanged)
    rwa [exchanged] at executes
  · rename_i exchanged
    have executes : Executes l query _ := .answered (congrArg Prod.fst exchanged)
    rwa [exchanged] at executes

/-- A query of an open link that reads the end of the connection says so, and marks the link as
closed. -/
theorem execute_of_end {l : Link} {query : String} (isOpen : l.closed = false)
    (ended : (l.exchange query).1 = .ok 0) :
    l.execute query = (.error .closed, { (l.exchange query).2 with closed := true }) := by
  have executes := executes_execute isOpen query
  generalize l.execute query = result at executes
  cases executes with
  | answered read => simp [ended] at read
  | ended => rfl
  | failed failed => simp [ended] at failed

/-- Only an open link answers a query, and it remains open. -/
theorem closed_execute {l l' : Link} {query : String} (answered : l.execute query = (.ok (), l')) :
    l'.closed = false := by
  cases isClosed : l.closed with
  | true =>
    rw [execute_of_closed isClosed] at answered
    cases answered
  | false =>
    have executes := executes_execute isClosed query
    rw [answered] at executes
    cases executes with
    | answered => exact (closed_exchange l query).trans isClosed

end Link

namespace Network

theorem lookup_cons_of_ne {links : List (Nat × Link)} {id m : Nat} (other : m ≠ id) (l : Link) :
    ((id, l) :: links).lookup m = links.lookup m := by
  rw [List.lookup_cons, beq_eq_false_iff_ne.mpr other]

/-- To replace the link of a number changes no other. -/
theorem lookup_replace (links : List (Nat × Link)) (id m : Nat) (l : Link) :
    (links.map fun entry => if entry.1 = id then (id, l) else entry).lookup m =
      if m = id then (links.lookup m).map fun _ => l else links.lookup m := by
  induction links with
  | nil => simp
  | cons entry links ih =>
    obtain ⟨k, old⟩ := entry
    rw [List.map_cons]
    by_cases here : k = id
    · subst here
      rw [if_pos rfl]
      by_cases same : m = k
      · subst same
        simp
      · rw [lookup_cons_of_ne same, lookup_cons_of_ne same, ih]
    · rw [if_neg here]
      by_cases same : m = k
      · subst same
        simp [here]
      · rw [lookup_cons_of_ne same, lookup_cons_of_ne same, ih]

/-- An operation changes the link that it is performed on, and no other. -/
theorem link_perform (n : Network) (id m : Nat) (operation : Operation) :
    (n.perform id operation).2.link m =
      if m = id then ((n.link id).perform operation).2 else n.link m := by
  unfold perform link
  dsimp only
  rw [lookup_replace]
  split
  · rename_i same
    subst same
    cases n.links.lookup m with
    | none => exact (Link.perform_of_closed rfl operation).symm
    | some l => rfl
  · rfl

theorem link_connect_of_ne {n : Network} {id m : Nat} (other : m ≠ id) (endpoint : String) :
    (n.connect id endpoint).2.link m = n.link m := by
  have accepted : (n.accept id).link m = n.link m := by
    rw [accept, link, lookup_cons_of_ne other]
    rfl
  unfold connect
  split
  · rfl
  · split <;> exact accepted

/-- A new connection is open. -/
theorem link_connect {n n' : Network} {id : Nat} {endpoint : String}
    (connected : n.connect id endpoint = (.ok (), n')) : (n'.link id).closed = false := by
  unfold connect at connected
  split at connected
  · cases connected
  · split at connected
    · cases connected
    · cases connected
      simp [accept, link]

end Network

/-- A connection, seen from both ends. -/
def link (e : Environment Network) (n : Nat) : Link := e.backend.link n

variable {e e' : Environment Network} {n m : Nat}

/-! ### Questions -/

theorem link_ask (e : Environment Network) (party : Party) (m n : Nat) (operation : Operation) :
    link (e.ask backend party m operation).2 n =
      if n = m then ((link e m).perform operation).2 else link e n :=
  e.backend.link_perform m n operation

theorem answer_ask (e : Environment Network) (party : Party) (m : Nat) (operation : Operation) :
    (e.ask backend party m operation).1 = ((link e m).perform operation).1 := rfl

/-- Questions about one connection change no other, and no closed one. -/
theorem link_asks (asks : Environment.Asks backend m e e')
    (spared : (link e n).closed = true ∨ n ≠ m) : link e' n = link e n := by
  induction asks with
  | refl => rfl
  | record _ _ _ ih => exact ih
  | @ask e' _ party operation ih =>
    rw [link_ask]
    split
    · rename_i same
      subst same
      have closed : (link e' n).closed = true := ih ▸ spared.resolve_right (not_not_intro rfl)
      rw [Link.perform_of_closed closed, ih]
    · exact ih

/-- Every statement stands alone, so nothing is to be rolled back. -/
theorem reset_eq (e : Environment Network) (m : Nat) :
    (e.reset backend m).1 = .ok () ∧ ∀ n, link (e.reset backend m).2 n = link e n := by
  refine ⟨rfl, fun n => ?_⟩
  refine (link_ask e .pool m n .autoCommit).trans ?_
  split
  · rename_i same
    rw [same]
    rfl
  · rfl

/-- A connection that says that it is not closed is open, and remains so. -/
theorem open_of_isClosed (asked : e.ask backend .pool m .isClosed = (false, e')) :
    (link e' m).closed = false := by
  have answer : (link e m).closed = false := congrArg Prod.fst asked
  have same := link_ask e .pool m m .isClosed
  rw [if_pos rfl, asked] at same
  exact same.symm ▸ answer

theorem open_of_execute {query : String}
    (asked : e.ask backend .pool m (.execute query) = (.ok (), e')) :
    (link e' m).closed = false := by
  have answer : ((link e m).execute query).1 = .ok () := congrArg Prod.fst asked
  have same := link_ask e .pool m m (.execute query)
  rw [if_pos rfl, asked] at same
  exact same.symm ▸ Link.closed_execute (Prod.ext answer rfl)

/-- A connection that passes a check is open. -/
theorem open_of_usable {l : Lease} {s : Settings} {expected : Fingerprint} {revoked : List Nat}
    (checked : l.usable backend s expected revoked e = (true, e')) :
    (link e' l.connection).closed = false := by
  unfold Lease.usable at checked
  split at checked
  · cases checked
  · split at checked
    · cases checked
    · rename_i e₁ asked
      split at checked
      · unfold Environment.probe at checked
        split at checked
        · cases checked
        · rename_i e₂ executed
          split at checked
          · cases checked
          · rename_i e₃ reset
            obtain ⟨-, rfl⟩ := Prod.mk.inj checked
            have same := (reset_eq e₂ l.connection).2 l.connection
            rw [reset] at same
            exact same.symm ▸ open_of_execute executed
      · obtain ⟨-, rfl⟩ := Prod.mk.inj checked
        exact open_of_isClosed asked

/-- A connection that is restored is open. -/
theorem open_of_restore (restored : Pool.restore backend e m = (.ok (), e')) :
    (link e' m).closed = false := by
  unfold Pool.restore at restored
  split at restored
  · cases restored
  · rename_i e₁ asked
    have same := (reset_eq e₁ m).2 m
    rw [restored] at same
    exact same.symm ▸ open_of_isClosed asked

/-! ### Searching -/

variable {p q : Pool Network} {r : Request} {l : Lease} {held : List Lease}

theorem link_connect (e : Environment Network) (endpoint : String) (c : Credentials)
    (other : n ≠ m) : link (e.connect backend m endpoint c).2 n = link e n :=
  Network.link_connect_of_ne other endpoint

/-- No lease in the hand is of an idle connection. -/
theorem connection_ne_of_idle (orderly : p.Orderly [l] held)
    (idle : n ∈ p.idle.map Lease.connection) : n ≠ l.connection := by
  have connections := orderly.sound.distinct.connections
  rw [Custody.live, List.map_append, List.map_append] at connections
  rintro rfl
  exact List.disjoint_of_nodup_append connections List.mem_cons_self (List.mem_append_left _ idle)

/-- What finds a candidate leaves alone the connections that remain idle, and the closed ones. -/
theorem link_found {c : Credentials} {out : Except BackendError (Option Lease) × Pool Network}
    (found : Pool.Found backend c p out) (old : n < p.nextConnection)
    (spared : (link p.environment n).closed = true ∨ n ∈ out.2.idle.map Lease.connection) :
    n < out.2.nextConnection ∧ link out.2.environment n = link p.environment n := by
  cases found with
  | idle => exact ⟨old, rfl⟩
  | opened _ _ connected =>
    refine ⟨Nat.lt_succ_of_lt old, ?_⟩
    have same := link_connect p.environment p.source.endpoint c (Nat.ne_of_lt old)
    rwa [connected] at same
  | unopened _ _ refused =>
    refine ⟨old, ?_⟩
    have same := link_connect p.environment p.source.endpoint c (Nat.ne_of_lt old)
    rwa [refused] at same
  | @overdue oldest rest noneIdle _ _ _ =>
    refine ⟨old, ?_⟩
    have noted : Environment.Asks backend oldest.connection p.environment _ :=
      .record .refl (.reclaimed oldest.connection) rfl
    have asks := noted.trans (Environment.asks_reset backend _ oldest.connection)
    refine link_asks asks (spared.imp_right fun idle => ?_)
    -- nothing is idle where a lease is taken from its holder
    have noneIdle' : (p.seize backend oldest rest).2.idle = [] := noneIdle
    simp [noneIdle'] at idle
  | nothing => exact ⟨old, rfl⟩

theorem link_round (orderly : p.Orderly [] held) (round : Pool.Round backend r p q)
    (old : n < p.nextConnection)
    (spared : (link p.environment n).closed = true ∨ n ∈ q.idle.map Lease.connection) :
    n < q.nextConnection ∧ link q.environment n = link p.environment n := by
  obtain ⟨l, taken, checked, -, -, found, bad⟩ := round
  have inHand : taken.Orderly [l] held := orderly.candidate backend found
  obtain rfl : (taken.usable backend l).2 = checked := congrArg Prod.snd bad
  obtain ⟨still, same⟩ := link_found (Pool.found_of_candidate backend found) old spared
  have asks := (Pool.asks_of_checked bad).trans (Pool.asks_discard backend _ l)
  have spared' : (link taken.environment n).closed = true ∨ n ≠ l.connection :=
    spared.imp (fun closed => same ▸ closed) (connection_ne_of_idle inHand)
  exact ⟨still, (link_asks asks spared').trans same⟩

theorem link_rounds {k : Nat} (rounds : Pool.Rounds backend r k p q) (orderly : p.Orderly [] held)
    (old : n < p.nextConnection)
    (spared : (link p.environment n).closed = true ∨ n ∈ q.idle.map Lease.connection) :
    n < q.nextConnection ∧ link q.environment n = link p.environment n := by
  induction rounds with
  | none => exact ⟨old, rfl⟩
  | more first others ih =>
    obtain ⟨still, same⟩ := link_round orderly first old
      (spared.imp_right fun idle => List.map_subset _ (Pool.idle_rounds backend others).subset idle)
    obtain ⟨last, same'⟩ := ih (orderly.round backend first) still (spared.imp_left (same ▸ ·))
    exact ⟨last, same'.trans same⟩

theorem link_ending {waited : Bool} {discarded : Nat} {out : Acquired × Pool Network}
    (ending : Pool.Ending backend r waited discarded p out) (orderly : p.Orderly [] held)
    (old : n < p.nextConnection)
    (spared : (link p.environment n).closed = true ∨ n ∈ out.2.idle.map Lease.connection) :
    n < out.2.nextConnection ∧ link out.2.environment n = link p.environment n := by
  cases ending with
  | closed | interrupted => exact ⟨old, rfl⟩
  | refused _ _ found => exact link_found (Pool.found_of_candidate backend found) old spared
  | waiting _ _ found => exact link_found (Pool.found_of_candidate backend found) old spared
  | granted l taken checked _ _ found good =>
    have inHand : taken.Orderly [l] held := orderly.candidate backend found
    obtain rfl : (taken.usable backend l).2 = checked := congrArg Prod.snd good
    obtain ⟨still, same⟩ := link_found (Pool.found_of_candidate backend found) old spared
    have asks := (Pool.asks_of_checked good).trans (Pool.asks_handOut backend _ r l)
    have spared' : (link taken.environment n).closed = true ∨ n ≠ l.connection :=
      spared.imp (fun closed => same ▸ closed) (connection_ne_of_idle inHand)
    exact ⟨still, (link_asks asks spared').trans same⟩

/-- A search leaves alone the connections that remain idle, and the closed ones. -/
theorem link_seek (orderly : p.Orderly [] held) (r : Request) (waited : Bool)
    (spare discarded : Nat) (old : n < p.nextConnection)
    (spared : (link p.environment n).closed = true ∨
      n ∈ (p.seek backend r waited spare discarded).2.idle.map Lease.connection) :
    link (p.seek backend r waited spare discarded).2.environment n = link p.environment n := by
  obtain ⟨k, q, rounds, ending⟩ := Pool.rounds_seek backend r waited spare discarded p
  have atLast : q.Orderly [] held :=
    rounds.keeps backend (fun _ _ round before => Pool.Orderly.round backend before round) orderly
  rcases ending with ⟨-, ending⟩ | ⟨-, failed⟩
  · obtain ⟨still, same⟩ := link_rounds rounds orderly old
      (spared.imp_right fun idle => List.map_subset _ (Pool.idle_ending backend ending).subset idle)
    exact (link_ending ending atLast still (spared.imp_left (same ▸ ·))).2.trans same
  · rw [failed] at spared ⊢
    exact (link_rounds rounds orderly old spared).2

/-- Who is handed a connection is handed an open one. -/
theorem open_of_granted {waited : Bool} {spare discarded : Nat}
    (granted : (p.seek backend r waited spare discarded).1 = .granted l) :
    (link (p.seek backend r waited spare discarded).2.environment l.connection).closed = false := by
  obtain ⟨k, q, -, ⟨-, ending⟩ | ⟨-, failed⟩⟩ :=
    Pool.rounds_seek backend r waited spare discarded p
  · generalize p.seek backend r waited spare discarded = out at granted ending ⊢
    cases ending with
    | closed | interrupted | refused | waiting => cases granted
    | granted l' taken checked _ _ _ good =>
      cases granted
      obtain rfl : (taken.usable backend l').2 = checked := congrArg Prod.snd good
      have passed := congrArg Prod.fst good
      have isOpen := open_of_usable (Prod.ext passed rfl)
      exact (congrArg Link.closed ((reset_eq _ l'.connection).2 l'.connection)).trans isOpen
  · rw [failed] at granted
    cases granted

/-! ### Handing back and closing everything -/

/-- Of the connections that are handed back, only an open one is laid to the idle ones. -/
theorem idle_takeBack {l' : Lease} (there : l' ∈ (p.takeBack backend l).idle) :
    l' ∈ p.idle ∨ l'.connection = l.connection ∧
      (link (p.takeBack backend l).environment l.connection).closed = false := by
  unfold Pool.takeBack at there ⊢
  split at there
  · rename_i room
    rw [if_pos room]
    split at there
    · rename_i restored
      rcases List.mem_append.mp there with before | isNew
      · exact .inl before
      · obtain rfl := List.mem_singleton.mp isNew
        exact .inr ⟨rfl, open_of_restore restored⟩
    · exact .inl there
  · exact .inl there

theorem idle_release {l' : Lease} (there : l' ∈ (p.release backend l).idle) :
    l' ∈ p.idle ∨ l'.connection = l.connection ∧
      (link (p.release backend l).environment l.connection).closed = false := by
  by_cases valid : p.IsValid l
  · rw [Pool.release_of_valid backend valid] at there ⊢
    rw [Pool.environment_notifyOne]
    have same := Pool.custody_notifyOne (((p.dropActive l).noteReturn l).takeBack backend l)
    have idle : Pool.idle _ = Pool.idle _ := congrArg Custody.idle same
    exact idle_takeBack (p := (p.dropActive l).noteReturn l) (idle ▸ there)
  · rw [Pool.release_of_revoked backend valid] at there
    exact .inl there

/-- To close everything changes no closed connection. -/
theorem link_closeAll (p : Pool Network) (closed : (link p.environment n).closed = true) :
    link (p.closeAll backend).environment n = link p.environment n :=
  Pool.keeps_closeAll (P := fun e => link e n = link p.environment n)
    (fun _ _ _ asks before => (link_asks asks (.inl (before ▸ closed))).trans before) p rfl

end LeasePool.Tcp
