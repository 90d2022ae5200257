import LeasePool.Proofs.Whereabouts

/-!
# Generations of connections

To change anything about a pool, or to close everything, ends a generation of connections. Each
connection that the pool had is disposed of, whatever the backend answers, and every handle to one
is worthless. Connections that the pool has later were opened later, at the endpoint that the data
source has then. So the leases of a pool never differ in their stamps, and no lease that is valid is
refused for its stamp.

## Main definitions

* `Pool.Closes`: from one pool to another, certain connections were disposed of, each once.
* `Pool.AtEndpoint`: every connection was opened, once, at the endpoint of the data source.
* `Site.Uniform`: whatever is valid has the expected stamp.
* `Site.Separates`: nothing that a pool had remains.

## Main results

* `Pool.closes_closeAll`: closing everything disposes of each connection once.
* `Site.Reachable.separated`: sites are uniform, and every change separates what was there before
  from what comes after.
-/

namespace LeasePool

namespace Pool

variable {σ : Type} {b : Backend σ} {p q t taken : Pool σ} {r : Request} {l : Lease}
  {held : List Lease} {ms ns : List Nat}

/-! ### Closing everything -/

/-- From one pool to the other, certain connections were disposed of, each once, and nothing was
called on others. -/
structure Closes (ns : List Nat) (p q : Pool σ) : Prop where
  closed : ∀ n ∈ ns, ∃ made, Disposes made ∧
    q.environment.calls n = made ++ p.environment.calls n
  others : ∀ n ∉ ns, q.environment.calls n = p.environment.calls n

theorem Closes.append (first : Closes ms p q) (second : Closes ns q t) (apart : ms.Disjoint ns) :
    Closes (ms ++ ns) p t where
  closed n there := by
    rcases List.mem_append.mp there with before | after
    · obtain ⟨made, disposes, calls⟩ := first.closed n before
      exact ⟨made, disposes, (second.others n (apart before)).trans calls⟩
    · obtain ⟨made, disposes, calls⟩ := second.closed n after
      exact ⟨made, disposes, first.others n (fun before => apart before after) ▸ calls⟩
  others n absent := by
    rw [List.mem_append, not_or] at absent
    exact (second.others n absent.2).trans (first.others n absent.1)

theorem closes_of_called {n : Nat} {made : List Call} (disposes : Disposes made)
    (called : Environment.Called n made p.environment q.environment) : Closes [n] p q where
  closed m there := by
    obtain rfl := List.mem_singleton.mp there
    exact ⟨made, disposes, Environment.calls_called called⟩
  others m absent := by
    have other : m ≠ n := fun same => absent (List.mem_singleton.mpr same)
    exact congrArg Standing.calls (Environment.standing_called_of_ne called other)

theorem closes_destroy (b : Backend σ) (p : Pool σ) (l : Lease) :
    Closes [l.connection] p (p.destroy b l) := by
  obtain ⟨made, disposes, called⟩ := p.environment.called_dispose b l.connection
  exact closes_of_called disposes called

theorem closes_withdraw (b : Backend σ) (p : Pool σ) (l : Lease) :
    Closes [l.connection] p (p.withdraw b l) := by
  have destroyed := closes_destroy b (p.record (.withdrawn l.connection)) l
  -- that the holder loses the connection is no call
  have same (n : Nat) :
      (p.record (.withdrawn l.connection)).environment.calls n = p.environment.calls n :=
    Event.Parts.withdrawn.calls_record p.environment n
  exact ⟨fun n there => same n ▸ destroyed.closed n there,
    fun n absent => (destroyed.others n absent).trans (same n)⟩

/-- What disposes of the connection of one lease disposes of those of several, if they differ. -/
theorem closes_foldl (f : Pool σ → Lease → Pool σ) (one : ∀ p l, Closes [l.connection] p (f p l))
    (ls : List Lease) (p : Pool σ) (once : (ls.map Lease.connection).Nodup) :
    Closes (ls.map Lease.connection) p (ls.foldl f p) := by
  induction ls generalizing p with
  | nil => exact ⟨fun _ there => absurd there List.not_mem_nil, fun _ _ => rfl⟩
  | cons l ls ih =>
    obtain ⟨new, others⟩ := List.nodup_cons.mp once
    exact (one p l).append (ih (f p l) others) (List.singleton_disjoint.mpr new)

/-- Closing everything disposes of each connection once. -/
theorem closes_closeAll (b : Backend σ) (once : (p.leases.map Lease.connection).Nodup) :
    ∀ l ∈ p.leases, ∃ made, Disposes made ∧
      (p.closeAll b).environment.calls l.connection =
        made ++ p.environment.calls l.connection := by
  rw [leases, List.map_append] at once
  have apart := List.disjoint_of_nodup_append once
  have withdrawn := closes_foldl (withdraw b) (closes_withdraw b) p.active.reverse p.vacated
    (by simpa using once.of_append_right)
  have destroyed := closes_foldl (destroy b) (closes_destroy b) p.idle.reverse
    (p.active.reverse.foldl (withdraw b) p.vacated) (by simpa using once.of_append_left)
  have closes := withdrawn.append destroyed (by
    intro n active idle
    simp only [List.map_reverse, List.mem_reverse] at active idle
    exact apart idle active)
  intro l there
  refine closes.closed l.connection ?_
  have among := List.mem_map_of_mem (f := Lease.connection) there
  simpa [leases, or_comm] using among

/-- Closing everything revokes every lease. -/
theorem revoked_closeAll (b : Backend σ) (sound : p.custody.Sound [] held) :
    ∀ l ∈ held, ¬ (p.closeAll b).IsValid l := by
  intro l isHeld valid
  have revoked : (p.closeAll b).revoked =
      p.idle.map Lease.key ++ (p.active.map Lease.key ++ p.revoked) :=
    congrArg Custody.revoked (custody_clear b p)
  rw [IsValid, revoked, List.mem_append, List.mem_append, not_or, not_or] at valid
  have active : l ∈ p.active := sound.active_of_held l isHeld valid.2.2
  exact valid.2.1 (List.mem_map_of_mem active)

/-! ### Stamps of candidates -/

/-- A candidate has a valid lease with the expected stamp. -/
theorem stamped_of_candidate (stamped : p.Stamped) (orderly : p.Orderly [] held) {n : Nat}
    (rounds : Rounds b r n p q) (found : q.candidate b r.credentials = (.ok (some l), taken)) :
    taken.IsValid l ∧ l.fingerprint = taken.expected := by
  have atLast : q.Orderly [] held :=
    rounds.keeps b (fun _ _ round before => Orderly.round b before round) orderly
  have inHand : taken.Orderly [l] held := atLast.candidate b found
  have expected : q.expected = p.expected := expected_of_terms (terms_rounds b rounds)
  have stampedAtLast : ∀ l ∈ q.leases, l.fingerprint = q.expected := fun l there =>
    expected ▸ stamped.stamped l ((fewer_rounds rounds).leases there)
  refine ⟨inHand.sound.distinct.valid l (by simp [Custody.live]), ?_⟩
  cases found_of_candidate b found with
  | idle first => exact stampedAtLast l (by simp [leases, first])
  | opened => rfl
  | @overdue oldest _ _ _ isHeld => exact stampedAtLast oldest (by simp [leases, isHeld])

/-- Every connection was opened, once, at the endpoint of the data source. -/
def AtEndpoint (p : Pool σ) : Prop :=
  ∀ l ∈ p.leases, ∃ c, p.environment.openings l.connection = [⟨p.source.endpoint, c⟩]

end Pool

namespace Site

variable {σ : Type} {b : Backend σ} {allowed : Site σ → Action σ → Prop} {s t u : Site σ}

/-! ### Within a generation -/

/-- Whatever is valid has the stamp of the data source, which the pool expects: the leases of the
pool, those behind the handles, and every candidate that a search can come to. -/
structure Uniform (b : Backend σ) (s : Site σ) : Prop where
  expected : s.pool.expected = .of s.pool.source.endpoint s.pool.source.credentials
  stamped : ∀ l ∈ s.pool.idle ++ s.pool.active, l.fingerprint = s.pool.expected
  held : ∀ l ∈ s.leases, s.pool.IsValid l → l.fingerprint = s.pool.expected
  candidate : ∀ p r n q l taken, s.pool.Starts p → Pool.Rounds b r n p q →
    q.candidate b r.credentials = (.ok (some l), taken) →
      taken.IsValid l ∧ l.fingerprint = taken.expected

theorem uniform_of_stamped (orderly : s.Orderly) (stamped : s.pool.Stamped) : s.Uniform b where
  expected := stamped.expected
  stamped := stamped.stamped
  held _ isHeld valid := stamped.of_held orderly.pool.sound isHeld valid
  candidate _ _ _ _ _ _ starts rounds found :=
    Pool.stamped_of_candidate (starts.stamped stamped) (starts.orderly orderly.pool) rounds found

theorem atEndpoint_act (orderly : s.Orderly) (stamped : s.pool.Stamped)
    (atEndpoint : s.pool.AtEndpoint) (a : Action σ) : (s.act b a).2.pool.AtEndpoint := by
  intro l there
  obtain ⟨source, origin⟩ := origin_act orderly stamped a l there
  rw [source]
  cases origin with
  | kept l' before same openings =>
    rw [openings, ← same]
    exact atEndpoint l' before
  | fresh c _ _ _ openings => exact ⟨c, openings⟩

/-! ### From one generation to the next -/

/-- Nothing that a pool had remains: it is empty, each of its connections was disposed of, once, and
every handle is worthless. -/
structure Separates (s t : Site σ) : Prop where
  idle : t.pool.idle = []
  active : t.pool.active = []
  closed : ∀ l ∈ s.pool.idle ++ s.pool.active, l.connection ∈ t.disposed ∧
    ∃ made, Disposes made ∧ t.calls l.connection = made ++ s.calls l.connection
  revoked : ∀ l ∈ s.leases, ¬ t.pool.IsValid l

theorem separates_closeAll (agrees : s.places.Agrees) (orderly : s.Orderly) (source : DataSource)
    (settings : Settings) (shutDown : Bool) :
    Separates s { s with pool := { s.pool with source, settings, shutDown }.closeAll b } := by
  have moves := Pool.moves_closeAll b { s.pool with source, settings, shutDown }
  have agrees' := agrees.moves moves
  have gone : (Pool.closeAll b { s.pool with source, settings, shutDown }).leases = [] :=
    Pool.leases_closeAll b _
  obtain ⟨idle, active⟩ := List.append_eq_nil_iff.mp gone
  have once := orderly.pool.sound.distinct.connections
  have closed := Pool.closes_closeAll (p := { s.pool with source, settings, shutDown }) b once
  refine ⟨idle, active, fun l there => ⟨?_, closed l there⟩, ?_⟩
  · -- it was opened, and is nowhere now
    obtain ⟨positive, old⟩ :=
      agrees.mem_opened_iff.mp (agrees.known l.connection (mem_places.mpr ⟨l, there, rfl⟩))
    have opened := agrees'.mem_opened_iff.mpr
      ⟨positive, Nat.lt_of_lt_of_le old moves.course.next_le⟩
    refine Environment.mem_disposed.mpr ⟨opened, agrees'.nowhere _ opened ?_⟩
    simp [Places.all, Pool.places, idle, active]
  · have sound : Custody.Sound _ [] s.leases := orderly.pool.sound
    exact Pool.revoked_closeAll b sound

/-- Where a pool is empty, what it has later was opened later. -/
theorem opened_later (agrees : s.places.Agrees) (moves : Places.Moves s.places t.places)
    (idle : s.pool.idle = []) (active : s.pool.active = []) :
    ∀ l ∈ t.pool.idle ++ t.pool.active, l.connection ∉ s.opened := by
  intro l there opened
  have nowhere : l.connection ∉ s.places.all := by
    simp [Places.all, places, Pool.places, idle, active]
  have new : s.places.next ≤ l.connection :=
    (moves.course.all _ (mem_places.mpr ⟨l, there, rfl⟩)).resolve_left nowhere
  exact Nat.not_lt_of_le new (agrees.mem_opened_iff.mp opened).2

/-- At every reachable site whatever is valid has the stamp of the data source. To change anything
about the pool, or to close everything, leaves nothing of what there was; whatever the pool has
later was opened later, once, at the endpoint that the data source has then. -/
theorem Reachable.separated (reach : Reachable b allowed s) :
    s.Uniform b ∧
      ∀ a, (a = .closeAll ∨ ∃ c, a = .change c) →
        let t := (s.act b a).2
        Separates s t ∧
          ∀ u, Leads b (fun _ _ => True) t u → ∀ l ∈ u.pool.idle ++ u.pool.active,
            l.connection ∉ t.opened ∧
              ∃ c, u.pool.environment.openings l.connection = [⟨u.pool.source.endpoint, c⟩] := by
  have orderly := reach.orderly
  refine ⟨uniform_of_stamped orderly reach.stamped, ?_⟩
  intro a closes t
  have agrees : t.places.Agrees := reach.agrees.moves (moves_act orderly a)
  have separates : Separates s t := by
    rcases closes with rfl | ⟨c, rfl⟩
    · exact separates_closeAll reach.agrees orderly s.pool.source s.pool.settings s.pool.shutDown
    · exact separates_closeAll reach.agrees orderly _ _ s.pool.shutDown
  refine ⟨separates, fun u leads l there => ⟨?_, ?_⟩⟩
  · have moves := (leads.moves (orderly.act a)).2
    exact opened_later agrees moves separates.idle separates.active l there
  · have kept : u.Orderly ∧ u.pool.Stamped ∧ u.pool.AtEndpoint := by
      apply leads.keeps (P := fun v => v.Orderly ∧ v.pool.Stamped ∧ v.pool.AtEndpoint)
      · intro v a' _ ⟨orderly, stamped, atEndpoint⟩
        exact ⟨orderly.act a', stamped_act orderly stamped a',
          atEndpoint_act orderly stamped atEndpoint a'⟩
      · refine ⟨orderly.act a, stamped_act orderly reach.stamped a, fun l there => ?_⟩
        rw [Pool.leases, separates.idle, separates.active] at there
        exact absurd there List.not_mem_nil
    exact kept.2.2 l there

/-- The endpoint is changed while one connection is held; then another is opened. -/
theorem separated_moved :
    let s := (new ⟨"db", {}⟩ {} {}).run Scripted.backend [.get "a"]
    let t := (s.act Scripted.backend (.change (.endpoint "other"))).2
    let u := t.run Scripted.backend [.get "b"]
    (1 ∉ s.disposed ∧ 1 ∈ t.disposed ∧ u.opened = [1, 2]) ∧ s.Uniform Scripted.backend ∧
      Separates s t ∧
      ∀ l ∈ u.pool.idle ++ u.pool.active, l.connection ∉ t.opened ∧
        ∃ c, u.pool.environment.openings l.connection = [⟨u.pool.source.endpoint, c⟩] := by
  intro s t u
  have there : 1 ∉ s.disposed ∧ 1 ∈ t.disposed ∧ u.opened = [1, 2] := by decide +kernel
  have reach : Reachable Scripted.backend (fun _ _ => True) s :=
    ⟨_, _, _, Leads.refl.run _ fun _ _ _ => trivial⟩
  have leads : Leads Scripted.backend (fun _ _ => True) t u := Leads.refl.run _ fun _ _ _ => trivial
  obtain ⟨uniform, changes⟩ := reach.separated
  obtain ⟨separates, later⟩ := changes (.change (.endpoint "other")) (.inr ⟨_, rfl⟩)
  exact ⟨there, uniform, separates, later u leads⟩

end Site

end LeasePool
