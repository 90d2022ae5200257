import LeasePool.Backend.Scripted
import LeasePool.Proofs.Orderly
import LeasePool.Proofs.Step

/-!
# Who holds which connection

At every reachable site the pool is orderly with the leases of its callers, whatever they, the
passing time and the backend did. So the connections of a pool stay within its settings, and each of
them is in one place: it lies idle, or exactly one handle can use it.

## Main definitions

* `Site.Orderly`: nobody shares a name, and the pool is orderly with the leases of the callers.
* `Site.Exclusive`: every connection is in one place.

## Main results

* `Site.Orderly.act`, `Site.Reachable.orderly`: sites are orderly, and remain so.
* `Site.Reachable.withinCapacity`: connections stay within the settings.
* `Site.Reachable.exclusive`: every connection is in one place.
-/

namespace LeasePool.Site

variable {σ : Type} {b : Backend σ} {allowed : Site σ → Action σ → Prop} {s : Site σ}

/-- The leases behind the handles. -/
def leases (s : Site σ) : List Lease := s.handles.map Prod.snd

theorem mem_leases {name : String} {l : Lease} (found : s.handle? name = some l) :
    l ∈ s.leases := by
  obtain ⟨before, after, split, -⟩ := List.lookup_eq_some_iff.mp found
  exact List.mem_map.mpr ⟨(name, l), by simp [split], rfl⟩

/-- Where nobody shares a name, no two of those who wait do. -/
theorem nodup_waiters (names : s.names.Nodup) :
    (s.pool.waiters.map fun w => w.request.name).Nodup :=
  names.of_append_left.of_append_right

/-- Nobody shares a name, and the pool is orderly with the leases of the callers. -/
structure Orderly (s : Site σ) : Prop where
  names : s.names.Nodup
  pool : s.pool.Orderly [] s.leases

/-- Whoever holds a valid lease is among those that the pool counts as holders. -/
theorem Orderly.active_of_found {name : String} {l : Lease} (orderly : s.Orderly)
    (found : s.handle? name = some l) (valid : s.pool.IsValid l) : l ∈ s.pool.active :=
  orderly.pool.sound.active_of_held l (mem_leases found) valid

/-! ### Every action keeps sites orderly -/

/-- A new site is orderly. -/
theorem orderly_new (source : DataSource) (settings : Settings) (backend : σ) :
    (new source settings backend).Orderly where
  names := List.nodup_nil
  pool :=
    { sound :=
        { distinct := by constructor <;> simp [Custody.live, Pool.custody, new, Pool.new]
          heldKeys := List.nodup_nil
          held_lt := by simp [leases, new]
          active_of_held := by simp [leases, new]
          held_of_active := by simp [Pool.custody, new, Pool.new] }
      fits := Nat.zero_le _
      idle_fits := Nat.zero_le _ }

/-- An acquire under a free name leaves a site orderly when it leaves the pool so and does nothing
to those who wait but perhaps join them. -/
theorem Orderly.afterAcquire {r : Request} {acquired : Acquired × Pool σ}
    (names : (r.name :: s.names).Nodup)
    (pool : acquired.2.Orderly [] (acquired.1.leases ++ s.leases))
    (requests : acquired.2.waiters.map Waiter.request =
      s.waiters.map Waiter.request ++ if acquired.1 = .waiting then [r] else []) :
    (s.afterAcquire r.name acquired).2.Orderly := by
  -- what the acquire does to those who wait, it does to their names
  have waiters : acquired.2.waiters.map (fun w => w.request.name) =
      s.waiters.map (fun w => w.request.name) ++
        if acquired.1 = .waiting then [r.name] else [] := by
    have sameNames := congrArg (List.map Request.name) requests
    rw [List.map_append, List.map_map, List.map_map, apply_ite (List.map Request.name)] at sameNames
    exact sameNames
  obtain ⟨outcome, q⟩ := acquired
  cases outcome with
  | granted l =>
    refine ⟨?_, pool⟩
    simp only [reduceCtorEq, if_false, List.append_nil] at waiters
    simpa [Site.names, Site.afterAcquire, Site.waiters, waiters] using names
  | failed cause =>
    refine ⟨?_, pool⟩
    simp only [reduceCtorEq, if_false, List.append_nil] at waiters
    have others := (List.nodup_cons.mp names).2
    simpa [Site.names, Site.afterAcquire, Site.waiters, waiters] using others
  | waiting =>
    refine ⟨?_, pool⟩
    simp only [if_true] at waiters
    -- the name moves behind those who wait already
    have moved : (s.handles.map Prod.fst ++
        (s.waiters.map (fun w => w.request.name) ++ [r.name]) ++ s.lookups.map Prod.fst).Perm
          (r.name :: s.names) := by
      simp only [Site.names, List.append_assoc, List.singleton_append]
      rw [← List.append_assoc, ← List.append_assoc (s.handles.map Prod.fst)]
      exact List.perm_middle
    simp only [Site.names, Site.afterAcquire, Site.waiters, waiters]
    exact moved.nodup_iff.mpr names

/-- The pool that an acquire leaves replaces the one in which it began. -/
theorem afterAcquire_pool (s : Site σ) (p : Pool σ) (name : String)
    (acquired : Acquired × Pool σ) :
    { s with pool := p }.afterAcquire name acquired = s.afterAcquire name acquired := by
  unfold Site.afterAcquire
  split <;> rfl

/-- An acquire waits if its search does. -/
theorem afterAcquire_eq_waiting_iff {name : String} {acquired : Acquired × Pool σ} :
    (s.afterAcquire name acquired).1 = .waiting ↔ acquired.1 = .waiting := by
  obtain ⟨outcome, q⟩ := acquired
  cases outcome <;> simp [afterAcquire]

/-- An acquire fails if its search does. -/
theorem afterAcquire_eq_failed_iff {name : String} {acquired : Acquired × Pool σ}
    {cause : PoolError} :
    (s.afterAcquire name acquired).1 = .failed cause ↔ acquired.1 = .failed cause := by
  obtain ⟨outcome, q⟩ := acquired
  cases outcome <;> simp [afterAcquire]

/-- The handles are one of them and the others. -/
theorem perm_handles {name : String} {l : Lease} (names : s.names.Nodup)
    (found : s.handle? name = some l) :
    s.handles.Perm ((name, l) :: s.handles.filter fun entry => entry.1 ≠ name) := by
  obtain ⟨before, after, split, earlier⟩ := List.lookup_eq_some_iff.mp found
  have once : (s.handles.map Prod.fst).Nodup := by
    rw [Site.names, List.append_assoc] at names
    exact names.of_append_left
  -- names are not shared, so no other handle is left out
  have noneBefore : ∀ entry ∈ before, entry.1 ≠ name := by
    intro entry there same
    simpa [same] using earlier entry there
  have noneAfter : ∀ entry ∈ after, entry.1 ≠ name := by
    intro entry there same
    rw [split, List.map_append, List.map_cons] at once
    apply (List.nodup_cons.mp once.of_append_right).1
    exact List.mem_map.mpr ⟨entry, there, same⟩
  have others : (s.handles.filter fun entry => entry.1 ≠ name) = before ++ after := by
    rw [split, List.filter_append, List.filter_cons_of_neg (by simp),
      List.filter_eq_self.mpr (by simpa using noneBefore),
      List.filter_eq_self.mpr (by simpa using noneAfter)]
  rw [others, split]
  exact List.perm_middle

/-- Whatever happens at an orderly site leaves it orderly. -/
theorem Orderly.act (orderly : s.Orderly) (a : Action σ) : (s.act b a).2.Orderly := by
  obtain ⟨names, pool⟩ := orderly
  have step := step_act b s a
  generalize s.act b a = result at step
  cases step with
  | rest => exact ⟨names, pool⟩
  | outside => exact ⟨names, pool.sound, pool.fits, pool.idle_fits⟩
  | lookUp name free =>
    refine ⟨?_, pool⟩
    have moved : { s with lookups := (name, s.pool.source.credentials) :: s.lookups }.names.Perm
        (name :: s.names) := List.perm_middle
    exact moved.nodup_iff.mpr (List.nodup_cons.mpr ⟨free, names⟩)
  | notifyAll =>
    refine ⟨?_, pool.sound, pool.fits, pool.idle_fits⟩
    simpa [Site.names, Site.waiters] using names
  | rouse w waits =>
    refine ⟨?_, pool.sound, pool.fits, pool.idle_fits⟩
    have same := (Pool.perm_waiters_rouse waits).map fun w => w.request.name
    exact ((same.append_left _).append_right _).nodup_iff.mpr names
  | begin r lookups fewer free =>
    have noDuplicate : { s with lookups }.names.Nodup :=
      names.sublist ((fewer.map Prod.fst).append_left _)
    have begun : (s.pool.record (.begun r.name)).Orderly [] s.leases := pool.record
    exact .afterAcquire (List.nodup_cons.mpr ⟨free names, noDuplicate⟩)
      (begun.seek b r false _ 0) (Pool.waiters_seek b r false _ 0 _)
  | resume w waits =>
    have once := nodup_waiters names
    -- without the wait its name is free again, as for an acquire that begins
    have apart : s.names.Perm
        (w.request.name :: { s with pool := s.pool.wake w }.names) := by
      have stopped := (Pool.perm_waiters_wake waits once).map fun w => w.request.name
      have moved := (stopped.append_left (s.handles.map Prod.fst)).append_right
        (s.lookups.map Prod.fst)
      rw [List.map_cons] at moved
      refine moved.trans ?_
      rw [List.append_assoc, List.cons_append, Site.names, List.append_assoc]
      exact List.perm_middle
    rw [← afterAcquire_pool s (s.pool.wake w)]
    exact .afterAcquire (apart.nodup_iff.mp names) (pool.wake.seek b w.request true _ w.discarded)
      (Pool.waiters_seek b w.request true _ w.discarded _)
  | release name l found =>
    have others := perm_handles names found
    refine ⟨?_, pool.release b (others.map Prod.snd)⟩
    have fewer : (s.handles.filter fun entry => entry.1 ≠ name).map Prod.fst |>.Sublist
        (s.handles.map Prod.fst) := List.filter_sublist.map Prod.fst
    rw [Site.names, Site.waiters, Pool.waiters_release]
    exact names.sublist ((fewer.append_right _).append_right _)
  | close source settings shutDown =>
    refine ⟨?_, Pool.Orderly.closeAll b pool.sound⟩
    rw [Site.names, Site.waiters, Pool.waiters_closeAll]
    exact names

/-- Every reachable site is orderly. -/
theorem Reachable.orderly (reach : Reachable b allowed s) : s.Orderly :=
  reach.keeps orderly_new fun _ a _ orderly => orderly.act a

/-- What new sites have and every allowed action at an orderly site keeps, every reachable site
has. -/
theorem Reachable.keepsOrderly {P : Site σ → Prop}
    (new : ∀ source settings backend, P (.new source settings backend))
    (keep : ∀ t a, allowed t a → t.Orderly → P t → P (t.act b a).2)
    (reach : Reachable b allowed s) : P s := by
  have both : s.Orderly ∧ P s := by
    apply reach.keeps (P := fun t => t.Orderly ∧ P t)
    · intro source settings backend
      exact ⟨orderly_new source settings backend, new source settings backend⟩
    · intro t a may ⟨orderly, before⟩
      exact ⟨orderly.act a, keep t a may orderly before⟩
  exact both.2

/-! ### Capacity -/

/-- At every reachable site the connections of the pool, held and idle, are no more than may be
active under the settings in force, and no more lie idle than may. -/
theorem Reachable.withinCapacity (reach : Reachable b allowed s) :
    s.pool.status.active + s.pool.status.idle ≤ s.pool.settings.maxActive ∧
      s.pool.status.idle ≤ s.pool.settings.maxIdle := by
  -- with no operation under way the hand is empty
  obtain ⟨-, -, fits, idle_fits⟩ := reach.orderly
  rw [List.length_nil, Nat.zero_add, Nat.add_comm] at fits
  exact ⟨fits, idle_fits⟩

/-- One connection may be active, and one is. -/
theorem withinCapacity_held :
    let s := (new ⟨"db", {}⟩ { maxActive := 1 } {}).run Scripted.backend [.get "a"]
    s.pool.status.active = 1 ∧
      s.pool.status.active + s.pool.status.idle ≤ s.pool.settings.maxActive ∧
      s.pool.status.idle ≤ s.pool.settings.maxIdle := by
  refine ⟨by decide +kernel, ?_⟩
  have reach : Reachable Scripted.backend (fun _ _ => True)
      ((new ⟨"db", {}⟩ { maxActive := 1 } {}).run Scripted.backend [.get "a"]) :=
    ⟨_, _, _, Leads.refl.run _ fun _ _ _ => trivial⟩
  exact reach.withinCapacity

/-! ### Ownership -/

/-- Every connection of the pool is in one place: it lies idle, or exactly one handle can use it. -/
structure Exclusive (b : Backend σ) (s : Site σ) : Prop where
  connections : ((s.pool.idle ++ s.pool.active).map Lease.connection).Nodup
  valid : ∀ l ∈ s.pool.idle ++ s.pool.active, s.pool.IsValid l
  /-- No handle refers to an idle lease. -/
  notIdle : ∀ l ∈ s.leases, ∀ l' ∈ s.pool.idle, l.key ≠ l'.key
  valid_iff_active : ∀ l ∈ s.leases, s.pool.IsValid l ↔ l ∈ s.pool.active
  /-- Every active lease belongs to exactly one handle. -/
  holder : ∀ l ∈ s.pool.active, l ∈ s.leases ∧ (s.leases.map Lease.key).count l.key = 1
  /-- No two handles can operate on one connection. -/
  operator : ∀ h ∈ s.handles, ∀ h' ∈ s.handles, ∀ operation operation',
    h.2.connection = h'.2.connection → s.pool.Admits b h.2 operation →
      s.pool.Admits b h'.2 operation' → h = h'
  /-- As many leases are active as there are handles that are still good. -/
  count : s.pool.status.active = s.leases.countP fun l => s.pool.IsValid l

theorem Orderly.everyPlace (orderly : s.Orderly) : s.Exclusive b := by
  obtain ⟨-, ⟨sound, -, -⟩⟩ := orderly
  have isLive : s.pool.custody.live [] = s.pool.idle ++ s.pool.active := List.nil_append _
  have active_of_valid : ∀ l ∈ s.leases, s.pool.IsValid l → l ∈ s.pool.active :=
    sound.active_of_held
  have keys : (s.leases.map Lease.key).Nodup := sound.heldKeys
  refine ⟨isLive ▸ sound.distinct.connections, isLive ▸ sound.distinct.valid, ?_, ?_, ?_, ?_, ?_⟩
  · intro l isHeld l' idle
    exact sound.key_ne_of_held isHeld (.inr idle)
  · intro l isHeld
    exact sound.valid_iff_active isHeld
  · intro l active
    have isHeld : l ∈ s.leases := sound.held_of_active l active
    exact ⟨isHeld, List.count_eq_one_of_mem keys (List.mem_map_of_mem isHeld)⟩
  · intro h isHandle h' isHandle' operation operation' connection admits admits'
    have active : h.2 ∈ s.pool.active :=
      active_of_valid _ (List.mem_map_of_mem isHandle) (Pool.valid_of_admits b admits)
    have active' : h'.2 ∈ s.pool.active :=
      active_of_valid _ (List.mem_map_of_mem isHandle') (Pool.valid_of_admits b admits')
    have same : h.2 = h'.2 :=
      sound.distinct.eq_of_connection_eq (isLive ▸ List.mem_append_right _ active)
        (isLive ▸ List.mem_append_right _ active') connection
    -- handles of one lease are one handle, since handles differ in their keys
    rw [leases, List.map_map] at keys
    exact List.inj_on_of_nodup_map keys isHandle isHandle' (congrArg Lease.key same)
  · -- the active leases are the handles that are still good, in another order
    have noDuplicate : s.pool.active.Nodup := by
      have connections := sound.distinct.connections
      rw [isLive, List.map_append] at connections
      exact connections.of_append_right.of_map _
    have same : s.pool.active.Perm (s.leases.filter fun l => s.pool.IsValid l) := by
      refine (List.perm_ext_iff_of_nodup noDuplicate ((keys.of_map _).filter _)).mpr fun l => ?_
      rw [List.mem_filter, decide_eq_true_iff]
      constructor
      · intro active
        exact ⟨sound.held_of_active l active, sound.valid_of_active active⟩
      · intro ⟨isHeld, valid⟩
        exact active_of_valid l isHeld valid
    rw [List.countP_eq_length_filter]
    exact same.length_eq

/-- At every reachable site every connection is in one place. -/
theorem Reachable.exclusive (reach : Reachable b allowed s) : s.Exclusive b :=
  reach.orderly.everyPlace

/-- A connection that was taken from one holder for another is in one place. -/
theorem exclusive_reclaimed :
    let s := (new ⟨"db", {}⟩ { maxActive := 1 } {}).run Scripted.backend
      [.get "a", .elapse 21_000_000_000, .get "b"]
    s.handles.map (fun h => (h.1, h.2.connection)) = [("b", 1), ("a", 1)] ∧
      s.Exclusive Scripted.backend := by
  refine ⟨by decide +kernel, ?_⟩
  have reach : Reachable Scripted.backend (fun _ _ => True)
      ((new ⟨"db", {}⟩ { maxActive := 1 } {}).run Scripted.backend
        [.get "a", .elapse 21_000_000_000, .get "b"]) :=
    ⟨_, _, _, Leads.refl.run _ fun _ _ _ => trivial⟩
  exact reach.exclusive

end LeasePool.Site
