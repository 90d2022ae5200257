import LeasePool.Proofs.Revocation

/-!
# Shutting a pool down is final

A pool that was shut down has no lease, and nobody waits for a signal. Settings may still be
changed, everything closed again, tokens cancelled, and old handles used and handed back: none of
this opens, asks or closes anything. Every acquire, whether it waited or comes later, fails because
the pool is closed.

## Main definitions

* `Event.IsRefusal`: what is still noted of a pool that was shut down.
* `Site.Shut`: a pool that was shut down.
* `Site.Refuses`: from one site to another nothing but refusals were noted.
* `Site.Final`: what is true of a site at any time after its pool was shut down.

## Main results

* `Site.Reachable.shut`: whenever a pool was shut down, it is empty, and nobody waits for a signal.
* `Site.refuses_act`: at a pool that was shut down every action is refused.
* `Site.Reachable.final_of_shutdown`: what happens once a pool was shut down.
-/

namespace LeasePool

/-- What is still noted of a pool that was shut down: an acquire begins, runs on after its wait, or
fails because the pool is closed; a lease that was revoked is handed back. -/
inductive Event.IsRefusal : Event → Prop
  | begun (name : String) : IsRefusal (.begun name)
  | resumed (name : String) : IsRefusal (.resumed name)
  | closed (name : String) : IsRefusal (.failed name .closed)
  | spurned (n : Nat) : IsRefusal (.spurned n)

theorem Event.IsRefusal.not_isCall {event : Event} (refusal : event.IsRefusal) :
    event.isCall = false := by
  cases refusal <;> rfl

namespace Pool

variable {σ : Type} (b : Backend σ) {p : Pool σ}

/-- A pool that was shut down is searched for nothing. -/
theorem seek_of_shutDown (shut : p.shutDown = true) (r : Request) (waited : Bool)
    (spare discarded : Nat) : seek b r waited spare discarded p = p.fail r .closed := by
  unfold seek
  rw [if_pos shut]

theorem acquire_of_shutDown (shut : p.shutDown = true) (r : Request) :
    p.acquire b r = (p.record (.begun r.name)).fail r .closed :=
  seek_of_shutDown b (p := p.record (.begun r.name)) shut r false _ 0

theorem resume_of_shutDown (shut : p.shutDown = true) (w : Waiter) :
    p.resume b w = (p.wake w).fail w.request .closed :=
  seek_of_shutDown b (p := p.wake w) shut w.request true _ w.discarded

/-- To close everything where there is nothing signals those who wait, and does no more. -/
theorem closeAll_of_empty (idle : p.idle = []) (active : p.active = []) :
    p.closeAll b = p.vacated.notifyAll := by
  rw [closeAll, clear, idle, active]
  rfl

end Pool

namespace Site

variable {σ : Type} {b : Backend σ} {allowed : Site σ → Action σ → Prop} {s t u : Site σ}

/-! ### Pools that were shut down -/

/-- A pool that was shut down: it has no lease, and nobody waits for a signal. -/
structure Shut (s : Site σ) : Prop where
  shutDown : s.pool.shutDown = true
  idle : s.pool.idle = []
  active : s.pool.active = []
  parked : s.pool.parked = []

/-- No lease is valid at a pool that was shut down. -/
theorem Shut.not_isValid (shut : s.Shut) (orderly : s.Orderly) {name : String} {l : Lease}
    (found : s.handle? name = some l) : ¬ s.pool.IsValid l := by
  intro valid
  have active : l ∈ s.pool.active := orderly.active_of_found found valid
  rw [shut.active] at active
  cases active

theorem shut_closeAll (b : Backend σ) (s : Site σ) {p : Pool σ} (shutDown : p.shutDown = true) :
    { s with pool := p.closeAll b }.Shut where
  shutDown := (congrArg Pool.Terms.shutDown (Pool.terms_clear b p)).trans shutDown
  idle := congrArg Custody.idle (Pool.custody_clear b p)
  active := congrArg Custody.active (Pool.custody_clear b p)
  parked := rfl

/-! ### What happens at such a pool -/

/-- From one site to another nothing but refusals were noted: nobody has begun to wait, and whoever
waited waits still or has failed because the pool is closed. -/
structure Refuses (s t : Site σ) (since : List Event) : Prop where
  noted : t.pool.environment.events = since ++ s.pool.environment.events
  refusals : ∀ event ∈ since, event.IsRefusal
  waited : t.waiters ⊆ s.waiters
  ended : ∀ w ∈ s.waiters, w ∈ t.waiters ∨ .failed w.request.name .closed ∈ since

theorem Refuses.refl (s : Site σ) : Refuses s s [] :=
  ⟨rfl, nofun, List.Subset.refl _, fun _ waits => .inl waits⟩

theorem Refuses.trans {since since' : List Event} (first : Refuses s t since)
    (second : Refuses t u since') : Refuses s u (since' ++ since) where
  noted := by rw [second.noted, first.noted, List.append_assoc]
  refusals event there :=
    (List.mem_append.mp there).elim (second.refusals event) (first.refusals event)
  waited := List.Subset.trans second.waited first.waited
  ended w waits := by
    rcases first.ended w waits with still | failed
    · exact (second.ended w still).imp_right (List.mem_append_left _)
    · exact .inr (List.mem_append_right _ failed)

/-- Where nobody begins or ends to wait, only what is noted matters. -/
theorem Refuses.of_waiters {since : List Event}
    (noted : t.pool.environment.events = since ++ s.pool.environment.events)
    (refusals : ∀ event ∈ since, event.IsRefusal) (same : t.waiters = s.waiters) :
    Refuses s t since :=
  ⟨noted, refusals, same ▸ List.Subset.refl _, fun _ waits => .inl (same ▸ waits)⟩

/-- Whatever is tried at a pool that was shut down is refused, and it remains shut down. -/
theorem refuses_act (orderly : s.Orderly) (shut : s.Shut) (a : Action σ) :
    (s.act b a).2.Shut ∧ ∃ since, Refuses s (s.act b a).2 since := by
  have step := step_act b s a
  generalize s.act b a = result at step
  obtain ⟨shutDown, idle, active, parked⟩ := id shut
  cases step with
  | rest => exact ⟨shut, [], .refl _⟩
  | lookUp =>
    exact ⟨⟨shutDown, idle, active, parked⟩, [], .of_waiters rfl nofun rfl⟩
  | outside _ e _ touches =>
    refine ⟨⟨shutDown, idle, active, parked⟩, [], .of_waiters ?_ nofun rfl⟩
    rcases touches with same | ⟨name, l, -, found, rfl | ⟨valid, -⟩⟩
    · exact same
    · rfl
    · exact absurd valid (shut.not_isValid orderly found)
  | notifyAll =>
    exact ⟨⟨shutDown, idle, active, rfl⟩, [], .of_waiters rfl nofun (Pool.waiters_notifyAll _)⟩
  | rouse w waits =>
    rw [parked] at waits
    cases waits
  | begin r lookups =>
    rw [Pool.acquire_of_shutDown b shutDown]
    refine ⟨⟨shutDown, idle, active, parked⟩, [.failed r.name .closed, .begun r.name],
      .of_waiters rfl ?_ rfl⟩
    simpa using ⟨.closed r.name, .begun r.name⟩
  | resume w waits =>
    rw [Pool.resume_of_shutDown b shutDown]
    have stopped : s.waiters.Perm (w :: (s.pool.wake w).waiters) :=
      Pool.perm_waiters_wake waits orderly.names.of_append_left.of_append_right
    refine ⟨⟨shutDown, idle, active, ?_⟩, [.failed w.request.name .closed, .resumed w.request.name],
      rfl, ?_, ?_, ?_⟩
    · change s.pool.parked.erase w = []
      rw [parked, List.erase_nil]
    · simpa using ⟨.closed w.request.name, .resumed w.request.name⟩
    · exact fun _ still => stopped.mem_iff.mpr (List.mem_cons_of_mem _ still)
    · intro w' waits'
      rcases List.mem_cons.mp (stopped.mem_iff.mp waits') with rfl | still
      · exact .inr List.mem_cons_self
      · exact .inl still
  | release name l found =>
    have isOver := shut.not_isValid orderly found
    rw [Pool.release_of_revoked b isOver, Pool.dropActive_of_revoked orderly.pool.sound isOver]
    refine ⟨⟨shutDown, idle, active, parked⟩, [.spurned l.connection], .of_waiters rfl ?_ rfl⟩
    simpa using .spurned l.connection
  | close source settings shutDown' _ stays =>
    have emptied := Pool.closeAll_of_empty b
      (p := { s.pool with source, settings, shutDown := shutDown' }) idle active
    exact ⟨shut_closeAll b s (stays shutDown), [],
      .of_waiters (congrArg (fun p => p.environment.events) emptied) nofun
        (Pool.waiters_closeAll b _)⟩

/-- Whenever the pool of a reachable site was shut down, it has no lease, and nobody waits for a
signal. -/
theorem Reachable.shut (reach : Reachable b allowed s) (shutDown : s.pool.shutDown = true) :
    s.Shut := by
  revert shutDown
  apply reach.keepsOrderly (P := fun t => t.pool.shutDown = true → t.Shut)
  · exact fun _ _ _ shutDown => nomatch shutDown
  · intro t a _ orderly before shutDown
    by_cases already : t.pool.shutDown = true
    · exact (refuses_act orderly (before already) a).1
    · -- only closing everything can shut a pool down
      have step := step_act b t a
      generalize t.act b a = result at step shutDown
      cases step with
      | rest | outside | lookUp | notifyAll | rouse => exact absurd shutDown already
      | begin r lookups =>
        rw [pool_afterAcquire, Pool.shutDown_of_terms (Pool.terms_acquire b t.pool r)] at shutDown
        exact absurd shutDown already
      | resume w =>
        rw [pool_afterAcquire, Pool.shutDown_of_terms (Pool.terms_resume b t.pool w)] at shutDown
        exact absurd shutDown already
      | release name l =>
        rw [Pool.shutDown_of_terms (Pool.terms_release b t.pool l)] at shutDown
        exact absurd shutDown already
      | close source settings shutDown' =>
        have before : shutDown' = true := by
          rw [← shutDown]
          exact (congrArg Pool.Terms.shutDown
            (Pool.terms_clear b { t.pool with source, settings, shutDown := shutDown' })).symm
        exact shut_closeAll b t before

/-! ### For good -/

/-- What is true of a site at any time after its pool was shut down. There is no lease. Whoever asks
for a connection is told that the pool is closed, and so is whoever has waited when it is its turn;
nobody begins to wait. No handle can be used. Since the shutdown the backend was not called. -/
structure Final (b : Backend σ) (s t : Site σ) : Prop where
  idle : t.pool.idle = []
  active : t.pool.active = []
  parked : t.pool.parked = []
  get : ∀ name, ¬ t.IsTaken name → (t.act b (.get name)).1 = .failed .closed
  proceed : ∀ name credentials, t.lookups.lookup name = some credentials →
    (t.act b (.proceed name)).1 = .failed .closed
  acquire : ∀ name credentials token, ¬ t.IsTaken name →
    (t.act b (.acquire name credentials token)).1 = .failed .closed
  resume : ∀ w ∈ t.waiters, (t.act b (.resume w)).1 = .failed .closed ∧
    t.waiters.Perm (w :: (t.act b (.resume w)).2.waiters)
  handles : ∀ name l, t.handle? name = some l → t.Spent b name l
  refuses : ∃ since, Refuses s t since
  traffic : t.pool.environment.traffic = s.pool.environment.traffic

/-- An acquire at a pool that was shut down fails. -/
theorem Shut.start (shut : s.Shut) (name : String) (credentials : Credentials)
    (token : Option Nat) : (s.start b name credentials token).1 = .failed .closed := by
  rw [Site.start, Pool.acquire_of_shutDown b shut.shutDown]
  rfl

theorem Shut.final {since : List Event} (shut : t.Shut) (orderly : t.Orderly)
    (refuses : Refuses s t since) : Final b s t where
  idle := shut.idle
  active := shut.active
  parked := shut.parked
  get name free := by
    rw [act, begin, if_neg free]
    exact shut.start ..
  proceed name credentials found := by
    simp only [act, found]
    exact Shut.start (s := { t with lookups := t.lookups.filter fun entry => entry.1 ≠ name })
      ⟨shut.shutDown, shut.idle, shut.active, shut.parked⟩ ..
  acquire name credentials token free := by
    rw [act, begin, if_neg free]
    exact shut.start ..
  resume w waits := by
    rw [act, if_pos waits, Pool.resume_of_shutDown b shut.shutDown]
    exact ⟨rfl, Pool.perm_waiters_wake waits orderly.names.of_append_left.of_append_right⟩
  handles name l found := spent_of_revoked orderly found (shut.not_isValid orderly found)
  refuses := ⟨since, refuses⟩
  traffic := by
    have noCall : since.filter Event.isCall = [] :=
      List.filter_eq_nil_iff.mpr fun event there =>
        Bool.eq_false_iff.mp (refuses.refusals event there).not_isCall
    rw [Environment.traffic, refuses.noted, List.filter_append, noCall]
    rfl

/-- Once the pool of a reachable site was shut down, then whatever happens the pool has no lease;
every acquire, whether it waited or comes later, ends because the pool is closed, and nobody begins
to wait; no handle can be used; and the backend is not called any more. -/
theorem Reachable.final_of_shutdown (reach : Reachable b allowed s)
    (leads : Leads b (fun _ _ => True) (s.act b .shutdown).2 t) :
    Final b (s.act b .shutdown).2 t := by
  have orderly : (s.act b .shutdown).2.Orderly := reach.orderly.act .shutdown
  have shut : (s.act b .shutdown).2.Shut := by
    by_cases already : s.pool.shutDown = true
    · exact (refuses_act reach.orderly (reach.shut already) .shutdown).1
    · rw [act, Pool.shutdown, if_neg already]
      exact shut_closeAll b s rfl
  generalize (s.act b .shutdown).2 = closed at leads orderly shut
  have kept : t.Orderly ∧ t.Shut ∧ ∃ since, Refuses closed t since := by
    apply leads.keeps (P := fun u => u.Orderly ∧ u.Shut ∧ ∃ since, Refuses closed u since)
    · rintro u a - ⟨orderly, shut, since, refuses⟩
      obtain ⟨still, since', refuses'⟩ := refuses_act (b := b) orderly shut a
      exact ⟨orderly.act a, still, _, refuses.trans refuses'⟩
    · exact ⟨orderly, shut, [], .refl _⟩
  obtain ⟨orderly', shut', since, refuses⟩ := kept
  exact shut'.final orderly' refuses

/-- A pool is shut down while one lease is held and one acquire waits for it. Afterwards a setting is
changed, somebody else asks for a connection, and the lease is handed back. -/
theorem final_of_shutdown_waiting :
    let s := (new ⟨"db", {}⟩ { maxActive := 1 } {}).run Scripted.backend [.get "a", .get "b"]
    let t := (s.act Scripted.backend .shutdown).2
    let u := t.run Scripted.backend [.change (.maxActive 2), .get "c", .release "a"]
    s.pool.parked.map (fun w => w.request.name) = ["b"] ∧
      u.waiters.map (fun w => w.request.name) = ["b"] ∧ Final Scripted.backend t u := by
  intro s t u
  have there : s.pool.parked.map (fun w => w.request.name) = ["b"] ∧
      u.waiters.map (fun w => w.request.name) = ["b"] := by decide +kernel
  have reach : Reachable Scripted.backend (fun _ _ => True) s :=
    ⟨_, _, _, Leads.refl.run _ fun _ _ _ => trivial⟩
  have leads : Leads Scripted.backend (fun _ _ => True) t u :=
    Leads.refl.run _ fun _ _ _ => trivial
  exact ⟨there.1, there.2, reach.final_of_shutdown leads⟩

end Site

end LeasePool
