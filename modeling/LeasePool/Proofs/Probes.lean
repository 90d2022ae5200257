import LeasePool.Proofs.Generations
import LeasePool.Proofs.Stamps

/-!
# Probes

Before a lease is handed out, and whenever its holder asks, the pool validates it. A connection that
was not used for long is probed with a query then. Whether that is due is read off the stamps of the
lease, which change hands with the connection; since they agree with the journal, a probe is due
exactly if the journal says so. The question whether the connection is closed comes first, and may
take time: what counts is the time when it is answered.

## Main definitions

* `Pool.OwesProbe`: a validation owes the connection a probe, says the journal.
* `Pool.Validates`: a validation probes exactly if it owes that.
* `Site.TurnsAway`, `Site.TriesInTurn`: a candidate is counted and never handed out again; all that
  an acquire tries.
* `Site.WasOpened`: when a connection was opened, says the journal.

## Main results

* `Pool.validates_usable`: a validation probes exactly if it owes that.
* `Site.Reachable.probesWhenDue`: so do all validations, at whatever reachable site.
-/

namespace LeasePool

/-- Of two entries of a list only one can yield an outcome, if no outcome comes twice. -/
theorem eq_of_nodup_filterMap {α β : Type} {f : α → Option β} {as : List α}
    (nodup : (as.filterMap f).Nodup) {a a' : α} {x : β} (there : a ∈ as) (there' : a' ∈ as)
    (yields : f a = some x) (yields' : f a' = some x) : a = a' := by
  induction as with
  | nil => cases there
  | cons c as ih =>
    have once {d : α} (first : f c = some x) (later : d ∈ as) (again : f d = some x) : False := by
      rw [List.filterMap_cons_some first] at nodup
      exact (List.nodup_cons.mp nodup).1 (List.mem_filterMap.mpr ⟨d, later, again⟩)
    have rest : (as.filterMap f).Nodup := by
      rw [List.filterMap_cons] at nodup
      split at nodup
      · exact nodup
      · exact (List.nodup_cons.mp nodup).2
    rcases List.mem_cons.mp there with rfl | later <;> rcases List.mem_cons.mp there' with rfl | later'
    · rfl
    · exact (once yields later' yields').elim
    · exact (once yields' later yields).elim
    · exact ih rest later later'

/-- The call executes a query. -/
def Call.executes (c : Call) : Bool :=
  match c.operation with
  | .execute _ => true
  | _ => false

/-- A reset executes no query. -/
theorem Resets.filter_executes {made : List Call} {result : Except BackendError Unit}
    (resets : Resets made result) : made.filter Call.executes = [] := by
  cases resets <;> rfl

/-- A probe executes its query once. A connection that fails it is closed in the end. -/
theorem Environment.called_probe {σ : Type} (b : Backend σ) (e : Environment σ) (n : Nat)
    (query : String) :
    ∃ made answer, Called n made e (e.probe b n query).2 ∧
      made.filter Call.executes = [⟨.pool, .execute query, answer⟩] ∧
      ((e.probe b n query).1 = false → ∃ closed, made.head? = some ⟨.pool, .close, closed⟩) := by
  unfold probe
  split
  · rename_i cause e' executed
    have closed := (called_of_ask b executed).trans (e'.called_ask b .pool n .close)
    exact ⟨_, .error cause, closed, rfl, fun _ => ⟨_, rfl⟩⟩
  · rename_i e' executed
    obtain ⟨made, resets, called⟩ := e'.called_reset b n
    have queried := (called_of_ask b executed).trans called
    have once : (made ++ [(⟨.pool, .execute query, .ok ()⟩ : Call)]).filter Call.executes =
        [⟨.pool, .execute query, .ok ()⟩] := by
      rw [List.filter_append, resets.filter_executes]
      rfl
    split
    · rename_i cause e'' restored
      rw [restored] at queried
      have closed := queried.trans (e''.called_ask b .pool n .close)
      exact ⟨_, .ok (), closed, once, fun _ => ⟨_, rfl⟩⟩
    · rename_i e'' restored
      rw [restored] at queried
      exact ⟨_, .ok (), queried, once, nofun⟩

namespace Pool

variable {σ : Type} {b : Backend σ} {p q t : Pool σ} {r : Request} {l : Lease}

/-! ### Validating -/

/-- A validation of a lease owes its connection a probe: the lease is valid, the connection says that
it is not closed, probes are wanted, and the connection was handed out before, the last time longer
ago than it may be left unprobed. -/
structure OwesProbe (b : Backend σ) (p : Pool σ) (l : Lease) : Prop where
  valid : p.IsValid l
  notClosed : (p.environment.ask b .pool l.connection .isClosed).1 = false
  wanted : p.settings.pingEnabled = true
  longAgo : ∃ entry ∈ p.lastHandOut l.connection, p.settings.pingIdleThreshold.nanos <
    (p.environment.ask b .pool l.connection .isClosed).2.clock - entry.time

/-- A validation of a lease executes the query of the settings once if it owes a probe, and no query
at all if it does not. If it owes one and comes to nothing good, the connection is closed. -/
inductive Validates (b : Backend σ) (p : Pool σ) (l : Lease) (good : Bool) (q : Pool σ) : Prop
  | probed (owes : p.OwesProbe b l) (made : List Call) (answer : Except BackendError Unit)
      (called : Environment.Called l.connection made p.environment q.environment)
      (once : made.filter Call.executes = [⟨.pool, .execute p.settings.pingQuery, answer⟩])
      (closes : good = false → ∃ closed, made.head? = some ⟨.pool, .close, closed⟩)
  | unprobed (owesNone : ¬ p.OwesProbe b l) (made : List Call)
      (called : Environment.Called l.connection made p.environment q.environment)
      (never : made.filter Call.executes = [])

/-- Whether a probe is due by the stamps of a lease is what the journal says. -/
theorem Recalls.probeDue_iff (recalls : p.Recalls l) (now : Nat) :
    l.ProbeDue p.settings now ↔ p.settings.pingEnabled = true ∧
      ∃ entry ∈ p.lastHandOut l.connection,
        p.settings.pingIdleThreshold.nanos < now - entry.time := by
  constructor
  · rintro ⟨wanted, used, longAgo⟩
    obtain ⟨name, handedOut⟩ := recalls.lent used
    exact ⟨wanted, _, handedOut, longAgo⟩
  · rintro ⟨wanted, entry, handedOut, longAgo⟩
    -- whoever was never handed out is not in the journal
    have used : l.fresh = false := by
      by_contra unused
      have fresh : l.fresh = true := by simpa using unused
      rw [recalls.unlent fresh] at handedOut
      cases handedOut
    obtain ⟨name, isLast⟩ := recalls.lent used
    obtain rfl := Option.some.inj (isLast.symm.trans handedOut)
    exact ⟨wanted, used, longAgo⟩

/-- A validation of a lease whose stamps agree with the journal probes exactly if it owes that. -/
theorem validates_usable (b : Backend σ) (stamp : p.IsValid l → l.fingerprint = p.expected)
    (recalls : p.IsValid l → p.Recalls l) :
    p.Validates b l (p.usable b l).1 (p.usable b l).2 := by
  by_cases valid : p.IsValid l
  · -- the stamp of a valid lease is the expected one, so the connection is asked
    have accepted : ¬ (l.key ∈ p.revoked ∨ l.fingerprint ≠ p.expected) :=
      not_or.mpr ⟨valid, not_not_intro (stamp valid)⟩
    have due := (recalls valid).probeDue_iff
    rcases asked : p.environment.ask b .pool l.connection .isClosed with ⟨closed, e⟩
    have called := Environment.called_of_ask b asked
    cases closed with
    | true =>
      have result : p.usable b l = (false, { p with environment := e }) := by
        simp only [usable, Lease.usable, if_neg accepted, asked]
      rw [result]
      refine .unprobed (fun owes => ?_) _ called rfl
      have notClosed := owes.notClosed
      rw [asked] at notClosed
      cases notClosed
    | false =>
      -- what counts is the time at which the connection has answered
      by_cases isDue : l.ProbeDue p.settings e.clock
      · have result : p.usable b l =
            ((e.probe b l.connection p.settings.pingQuery).1,
              { p with environment := (e.probe b l.connection p.settings.pingQuery).2 }) := by
          simp only [usable, Lease.usable, if_neg accepted, asked, if_pos isDue]
        obtain ⟨made, answer, probed, once, closes⟩ :=
          e.called_probe b l.connection p.settings.pingQuery
        obtain ⟨wanted, longAgo⟩ := (due e.clock).mp isDue
        rw [result]
        refine .probed ⟨valid, ?_, wanted, ?_⟩ _ answer (called.trans probed) ?_ fun bad => ?_
        · rw [asked]
        · rw [asked]
          exact longAgo
        · rw [List.filter_append, once]
          rfl
        · obtain ⟨answer', isLast⟩ := closes bad
          exact ⟨answer', by rw [List.head?_append, isLast]; rfl⟩
      · have result : p.usable b l = (true, { p with environment := e }) := by
          simp only [usable, Lease.usable, if_neg accepted, asked, if_neg isDue]
        rw [result]
        refine .unprobed (fun owes => isDue ((due e.clock).mpr ⟨owes.wanted, ?_⟩)) _ called rfl
        have longAgo := owes.longAgo
        rwa [asked] at longAgo
  · have result : p.usable b l = (false, p) := by
      simp only [usable, Lease.usable, show l.key ∈ p.revoked from not_not.mp valid, true_or,
        if_true]
    rw [result]
    exact .unprobed (fun owes => valid owes.valid) [] (.none _ _) rfl

/-! ### Counting -/

/-- Every round counts the connection that it turns down. -/
theorem badConnections_round (round : Round b r p q) :
    q.statistics.badConnections = p.statistics.badConnections + 1 := by
  obtain ⟨l, taken, checked, -, -, found, bad⟩ := round
  obtain rfl : (taken.usable b l).2 = checked := congrArg Prod.snd bad
  cases found_of_candidate b found with
  | idle | opened | overdue => rfl

theorem badConnections_rounds {n : Nat} (rounds : Rounds b r n p q) :
    q.statistics.badConnections = p.statistics.badConnections + n := by
  induction rounds with
  | none => rfl
  | more first others ih => rw [ih, badConnections_round first, Nat.add_assoc, Nat.add_comm 1]

theorem badConnections_ending {waited : Bool} {discarded : Nat} {out : Acquired × Pool σ}
    (ending : Ending b r waited discarded p out) :
    out.2.statistics.badConnections = p.statistics.badConnections := by
  cases ending with
  | closed | interrupted => rfl
  | refused _ _ found =>
    cases found_of_candidate b found
    rfl
  | waiting _ _ found =>
    cases found_of_candidate b found
    rfl
  | granted l taken checked _ _ found good =>
    obtain rfl : (taken.usable b l).2 = checked := congrArg Prod.snd good
    cases found_of_candidate b found <;> rfl

theorem badConnections_seek (b : Backend σ) (r : Request) (waited : Bool) (spare discarded : Nat)
    (p : Pool σ) :
    p.statistics.badConnections ≤
      (seek b r waited spare discarded p).2.statistics.badConnections := by
  obtain ⟨n, q, rounds, ending⟩ := rounds_seek b r waited spare discarded p
  have counted := badConnections_rounds rounds
  have before : p.statistics.badConnections ≤ q.statistics.badConnections :=
    counted ▸ Nat.le_add_right _ _
  rcases ending with ⟨-, ending⟩ | ⟨-, failed⟩
  · exact badConnections_ending ending ▸ before
  · exact failed ▸ before

theorem Starts.badConnections (starts : p.Starts q) :
    q.statistics.badConnections = p.statistics.badConnections := by
  cases starts with
  | begun | woken => rfl

/-- Among several rounds there is one after any smaller number of them. -/
theorem round_of_lt {n k : Nat} (rounds : Rounds b r n p q) (early : k < n) :
    ∃ p' q', Rounds b r k p p' ∧ Round b r p' q' := by
  induction rounds generalizing k with
  | none => cases early
  | more first others ih =>
    cases k with
    | zero => exact ⟨_, _, .none, first⟩
    | succ k =>
      obtain ⟨p', q', before, round⟩ := ih (Nat.lt_of_succ_lt_succ early)
      exact ⟨p', q', .more first before, round⟩

/-! ### Turning down -/

/-- What is left of a search after one round more than it was allowed so far: it moves connections,
and counts no fewer bad ones. -/
theorem rest_of_rounds (b : Backend σ) {n spare : Nat} (waited : Bool) (discarded : Nat)
    (rounds : Rounds b r n p q) (few : n ≤ spare + 1) :
    Places.Moves (q.places []) ((seek b r waited spare discarded p).2.places []) ∧
      q.environment.Later (seek b r waited spare discarded p).2.environment ∧
      q.statistics.badConnections ≤
        (seek b r waited spare discarded p).2.statistics.badConnections := by
  rw [seek_of_rounds b rounds few]
  split
  · exact ⟨moves_seek .., later_seek .., badConnections_seek ..⟩
  · exact ⟨moves_record (fun _ _ => rfl) rfl, (q.used_note fun _ => rfl).toLater, Nat.le_refl _⟩

end Pool

namespace Site

variable {σ : Type} {b : Backend σ} {allowed : Site σ → Action σ → Prop} {s t : Site σ}
  {a : Action σ} {name : String} {k : Nat} {l : Lease} {p : Pool σ}

/-- A candidate that is turned down is counted, beside those that were before it, and disposed of.
It is not handed out then, nor ever again. -/
structure TurnsAway (b : Backend σ) (s : Site σ) (a : Action σ) (k : Nat) (l : Lease) : Prop where
  counted : s.pool.statistics.badConnections + k + 1 ≤ (s.act b a).2.pool.statistics.badConnections
  noted : .discarded l.connection ∈ (s.act b a).2.pool.environment.events
  disposed : l.connection ∈ (s.act b a).2.disposed
  notLeased : l.connection ∉ (s.act b a).1.leased?
  gone : ∀ t, Leads b (fun _ _ => True) (s.act b a).2 t →
    Gone l.connection (s.act b a).2 t ∧ ∀ a', l.connection ∉ (t.act b a').1.leased?

/-- The journal tells once when a connection was opened. -/
structure WasOpened (s : Site σ) (n time : Nat) : Prop where
  noted : ∃ endpoint credentials,
    ⟨time, .opened n endpoint credentials⟩ ∈ s.pool.environment.journal
  once : ∀ entry ∈ s.pool.environment.journal, entry.event.opened? = some n → entry.time = time

/-! ### Handles -/

/-- The holder of a lease asks whether it is still good. -/
theorem validates_handle (orderly : s.Orderly) (stamped : s.pool.Stamped) (remembers : s.Remembers)
    (found : s.handle? name = some l) :
    ∃ good, (s.act b (.validate name)).1 = .validated good ∧
      s.pool.Validates b l good (s.act b (.validate name)).2.pool := by
  have isHeld := mem_leases found
  have same : s.act b (.validate name) =
      (.validated (s.pool.usable b l).1, { s with pool := (s.pool.usable b l).2 }) := by
    simp only [act, withHandle, found]
  rw [same]
  refine ⟨_, rfl, Pool.validates_usable b (stamped.of_held orderly.pool.sound isHeld) fun valid => ?_⟩
  have active : l ∈ s.pool.active := orderly.active_of_found found valid
  exact remembers.pool.recalls l (List.mem_append_right _ active)

/-- Whoever has a lease, be it revoked or not, can tell when its connection was opened. -/
theorem wasOpened_of_held (agrees : s.places.Agrees) (remembers : s.Remembers) (isHeld : l ∈ s.leases) :
    s.WasOpened l.connection l.openedAt := by
  obtain ⟨endpoint, credentials, noted⟩ := remembers.opened l isHeld
  refine ⟨⟨endpoint, credentials, noted⟩, fun entry there isOpening => ?_⟩
  have opened : s.pool.environment.opened.Nodup := agrees.opened ▸ List.nodup_range'
  have once : (s.pool.environment.journal.filterMap (Event.opened? ∘ Entry.event)).Nodup := by
    rw [← List.filterMap_map]
    exact List.nodup_reverse.mp opened
  exact congrArg Entry.time (eq_of_nodup_filterMap once there noted isOpening rfl)

/-! ### Candidates -/

theorem Tries.validates (tries : s.Tries b a k l p) (orderly : s.Orderly)
    (stamped : s.pool.Stamped) (remembers : s.Remembers) :
    p.Validates b l (p.usable b l).1 (p.usable b l).2 := by
  obtain ⟨x, t, q, entered, rounds, -, -, -, found⟩ := tries
  obtain ⟨starts, -, -⟩ := act_of_enters (b := b) entered
  obtain ⟨-, stamp⟩ := Pool.stamped_of_candidate (starts.stamped stamped)
    (starts.orderly orderly.pool) rounds found
  have atLast := (starts.remembers remembers.pool).rounds rounds
  obtain ⟨-, recalls⟩ := Pool.recalls_candidate atLast found
  exact Pool.validates_usable b (fun _ => stamp) fun _ => recalls l List.mem_cons_self

/-- A good candidate is handed out. -/
theorem Tries.leased (tries : s.Tries b a k l p) (good : (p.usable b l).1 = true) :
    l.connection ∈ (s.act b a).1.leased? := by
  obtain ⟨x, t, q, entered, rounds, few, serving, wanted, found⟩ := tries
  obtain ⟨-, -, whole⟩ := act_of_enters (b := b) entered
  rw [whole, Pool.seek_of_rounds b rounds (Nat.le_succ_of_le few), if_pos few,
    Pool.seek_of_candidate b _ serving wanted found]
  generalize p.usable b l = checked at good
  obtain ⟨isGood, checked⟩ := checked
  obtain rfl : isGood = true := good
  exact rfl

/-- A bad candidate is turned away. -/
theorem Tries.turnsAway (tries : s.Tries b a k l p) (orderly : s.Orderly) (agrees : s.places.Agrees)
    (bad : (p.usable b l).1 = false) : s.TurnsAway b a k l := by
  obtain ⟨x, t, q, entered, rounds, few, serving, wanted, found⟩ := tries
  obtain ⟨starts, -, whole⟩ := act_of_enters (b := b) entered
  -- to turn down the candidate is one round more, after which the search may end or go on
  have round : Pool.Round b x.request q ((p.usable b l).2.discard b l) :=
    .intro l p _ serving wanted found (Prod.ext bad rfl)
  obtain ⟨moves, later, counted⟩ := Pool.rest_of_rounds b x.waited (x.discarded + k)
    (.more round .none) (Nat.le_add_left 1 (x.spare - k))
  have after : (s.act b a).2.pool =
      (Pool.seek b x.request x.waited (x.spare - k) (x.discarded + k) q).2 := by
    rw [whole, pool_afterAcquire, Pool.seek_of_rounds b rounds (Nat.le_succ_of_le few), if_pos few]
  rw [← after] at moves later counted
  -- the instant at which the candidate has been closed
  let u : Site σ := { s with pool := (p.usable b l).2.discard b l }
  have atLast : (q.places []).Agrees := agrees.moves (starts.moves.trans (Pool.moves_rounds rounds))
  have agreesThen : u.places.Agrees := atLast.moves (Pool.moves_round round)
  have disposedThen : l.connection ∈ u.disposed := by
    have inHand : (p.places [l]).Agrees := atLast.moves (Pool.moves_candidate found)
    have known : l.connection ∈ p.environment.opened := inHand.known _ List.mem_cons_self
    have number : 0 < l.connection ∧ l.connection < p.nextConnection :=
      inHand.mem_opened_iff.mp known
    -- to turn down a candidate brings no lease back
    have fewer : Pool.Fewer p u.pool :=
      (Pool.fewer_of_checked (b := b) rfl).trans (Pool.fewer_discard b _ l)
    have number' : 0 < l.connection ∧ l.connection < u.pool.nextConnection :=
      ⟨number.1, Nat.lt_of_lt_of_le number.2 fewer.next_le⟩
    exact disposed_of_absent agreesThen (agreesThen.mem_opened_iff.mpr number')
      fun l' there => Pool.apart_of_candidate atLast found (fewer.leases there)
  have gone := gone_of_disposed agreesThen (agreesThen.moves moves) moves disposedThen
  refine ⟨?_, ?_, gone.disposed, fun leased => ?_, fun t leads => ?_⟩
  · rw [Pool.badConnections_round round, Pool.badConnections_rounds rounds,
      starts.badConnections] at counted
    exact counted
  · have noted := (p.usable b l).2.decisions_discard b l
    have there : _ ∈ ((p.usable b l).2.discard b l).decisions := noted ▸ List.mem_cons_self
    exact List.mem_map_of_mem (later.journal.subset (List.mem_of_mem_filter there))
  · obtain ⟨l', active, same⟩ := active_of_leased leased
    exact gone.nowhere l' (List.mem_append_right _ active) same
  · exact gone_of_leads (orderly.act a) (agreesThen.moves moves) gone.disposed leads

/-- An acquire tries so many bad candidates, one after the other, and then perhaps a good one, which
it hands out. -/
structure TriesInTurn (b : Backend σ) (s : Site σ) (a : Action σ) (n : Nat) : Prop where
  bad : ∀ k < n, ∃ l p, s.Tries b a k l p ∧ (p.usable b l).1 = false
  good : ∀ m ∈ (s.act b a).1.leased?, ∃ l p, s.Tries b a n l p ∧ (p.usable b l).1 = true ∧
    l.connection = m
  counted : (s.act b a).2.pool.statistics.badConnections = s.pool.statistics.badConnections + n

/-- Whatever an acquire turns down or hands out it has tried. -/
theorem triesInTurn_of_enters {x : Search} (entered : s.enters a = some (x, t)) :
    ∃ n, s.TriesInTurn b a n := by
  obtain ⟨starts, -, whole⟩ := act_of_enters (b := b) entered
  obtain ⟨n, q, rounds, ending⟩ :=
    Pool.rounds_seek b x.request x.waited x.spare x.discarded t.pool
  have most : n ≤ x.spare + 1 := by
    rcases ending with ⟨few, -⟩ | ⟨many, -⟩
    · exact Nat.le_succ_of_le few
    · exact Nat.le_of_eq many
  have counted := (Pool.badConnections_rounds rounds).trans
    (congrArg (· + n) starts.badConnections)
  refine ⟨n, fun k early => ?_, fun m leased => ?_, ?_⟩
  · obtain ⟨p, q', before, l, taken, checked, serving, wanted, found, bad⟩ :=
      Pool.round_of_lt rounds early
    exact ⟨l, taken, .intro x t p entered before (by omega) serving wanted found,
      congrArg Prod.fst bad⟩
  · rw [whole] at leased
    generalize Pool.seek b x.request x.waited x.spare x.discarded t.pool = out at leased ending
    rcases ending with ⟨few, ending⟩ | ⟨-, rfl⟩
    · cases ending with
      | closed | interrupted | refused | waiting => cases leased
      | granted l taken checked serving wanted found good =>
        exact ⟨l, taken, .intro x t q entered rounds few serving wanted found,
          congrArg Prod.fst good, Option.some.inj leased⟩
    · cases leased
  · rw [whole, pool_afterAcquire]
    rcases ending with ⟨-, ending⟩ | ⟨-, failed⟩
    · exact (Pool.badConnections_ending ending).trans counted
    · rw [failed]
      exact counted

/-! ### Along a run -/

/-- Every validation, of a handle or of a candidate, probes exactly if that is due. A good candidate
is handed out and a bad one is turned away, and an acquire tries no others. And every handle tells
when its connection was opened. -/
structure ProbesWhenDue (b : Backend σ) (s : Site σ) : Prop where
  handle : ∀ name l, s.handle? name = some l → ∃ good,
    (s.act b (.validate name)).1 = .validated good ∧
      s.pool.Validates b l good (s.act b (.validate name)).2.pool
  candidate : ∀ a k l p, s.Tries b a k l p → p.Validates b l (p.usable b l).1 (p.usable b l).2
  leased : ∀ a k l p, s.Tries b a k l p → (p.usable b l).1 = true →
    l.connection ∈ (s.act b a).1.leased?
  turnsAway : ∀ a k l p, s.Tries b a k l p → (p.usable b l).1 = false → s.TurnsAway b a k l
  inTurn : ∀ a x t, s.enters a = some (x, t) → ∃ n, s.TriesInTurn b a n
  wasOpened : ∀ l ∈ s.leases, s.WasOpened l.connection l.openedAt

/-- At every reachable site validations probe exactly when the journal says that it is due: if the
lease is valid, its connection is not closed, probes are wanted, and the connection was last handed
out too long ago. Then the query is executed once, and no query otherwise. -/
theorem Reachable.probesWhenDue (reach : Reachable b allowed s) : s.ProbesWhenDue b where
  handle _ _ found := validates_handle reach.orderly reach.stamped reach.remembers found
  candidate _ _ _ _ tries := tries.validates reach.orderly reach.stamped reach.remembers
  leased _ _ _ _ tries := tries.leased
  turnsAway _ _ _ _ tries := tries.turnsAway reach.orderly reach.agrees
  inTurn _ _ _ entered := triesInTurn_of_enters entered
  wasOpened _ isHeld := wasOpened_of_held reach.agrees reach.remembers isHeld

/-- A connection that was left alone for a nanosecond too long is probed once and fails. It is turned
away, and the acquire gets another one. -/
theorem probesWhenDue_dead :
    let probing : Settings :=
      { pingEnabled := true, pingQuery := "SELECT 1", pingIdleThreshold := .ofMillis 5 }
    let dying : Action Scripted :=
      .backend fun state => state.adjust 1 fun c => { c with executeError := some .closed }
    let s := (new ⟨"db", {}⟩ probing {}).run Scripted.backend
      [.get "a", .release "a", .elapse 5_000_001, dying]
    let t := (s.act Scripted.backend (.get "b")).2
    (((s.calls 1).filter Call.executes).length = 0 ∧
        ((t.calls 1).filter Call.executes).length = 1 ∧ 1 ∈ t.disposed ∧
        2 ∈ (s.act Scripted.backend (.get "b")).1.leased?) ∧
      s.ProbesWhenDue Scripted.backend := by
  intro probing dying s t
  refine ⟨by decide +kernel, ?_⟩
  have reach : Reachable Scripted.backend (fun _ _ => True) s := reachable_run ..
  exact reach.probesWhenDue

end Site

end LeasePool
