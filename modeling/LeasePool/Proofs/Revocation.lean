import LeasePool.Proofs.Possession

/-!
# Handles to revoked leases

A lease that was revoked stays revoked, whatever happens to its connection: that may be closed, lie
idle, or be leased to another holder under another key. So a handle to a revoked lease is worthless
for good. Whatever is tried through it is refused, and nothing changes; when it is handed back at
last, that is counted, and nothing else happens.

## Main definitions

* `Site.Spent`: a handle refuses every use, and handing it back is only counted.

## Main results

* `Pool.revoked_seek`, `Pool.revoked_release`, `Site.revoked_act`: revoked leases stay revoked.
* `Site.Reachable.spent`: a handle to a revoked lease is spent until it is handed back.
-/

namespace LeasePool

namespace Pool

variable {σ : Type} {b : Backend σ} {p q : Pool σ} {r : Request} {l : Lease}

/-! ### Revoked leases stay revoked -/

theorem revoked_found {c : Credentials} {out : Except BackendError (Option Lease) × Pool σ}
    (found : Found b c p out) : p.revoked ⊆ out.2.revoked := by
  cases found with
  | idle | opened | unopened | nothing => exact List.Subset.refl _
  | overdue => exact List.subset_cons_self _ _

theorem revoked_candidate {c : Credentials} {out : Except BackendError (Option Lease)}
    (found : p.candidate b c = (out, q)) : p.revoked ⊆ q.revoked :=
  revoked_found (found_of_candidate b found)

theorem revoked_of_checked {good : Bool} (checked : p.usable b l = (good, q)) :
    q.revoked = p.revoked := by
  obtain rfl : (p.usable b l).2 = q := congrArg Prod.snd checked
  rfl

theorem revoked_round (round : Round b r p q) : p.revoked ⊆ q.revoked := by
  obtain ⟨l, taken, checked, -, -, found, bad⟩ := round
  have atCheck : p.revoked ⊆ checked.revoked := revoked_of_checked bad ▸ revoked_candidate found
  exact List.subset_cons_of_subset _ atCheck

theorem revoked_ending {waited : Bool} {discarded : Nat} {out : Acquired × Pool σ}
    (ending : Ending b r waited discarded p out) : p.revoked ⊆ out.2.revoked := by
  cases ending with
  | closed | interrupted => exact List.Subset.refl _
  | refused _ _ found =>
    have atCandidate := revoked_candidate found
    exact atCandidate
  | waiting _ _ found =>
    have atCandidate := revoked_candidate found
    exact atCandidate
  | granted l taken checked _ _ found good =>
    exact revoked_of_checked good ▸ revoked_candidate found

theorem revoked_rounds {n : Nat} (rounds : Rounds b r n p q) : p.revoked ⊆ q.revoked :=
  rounds.keeps b (P := fun t => p.revoked ⊆ t.revoked)
    (fun _ _ round before => List.Subset.trans before (revoked_round round)) (List.Subset.refl _)

/-- A search may revoke leases, and makes none valid again. -/
theorem revoked_seek (b : Backend σ) (r : Request) (waited : Bool) (spare discarded : Nat)
    (p : Pool σ) : p.revoked ⊆ (seek b r waited spare discarded p).2.revoked := by
  obtain ⟨n, q, rounds, ending⟩ := rounds_seek b r waited spare discarded p
  have atLast := revoked_rounds rounds
  rcases ending with ⟨-, ending⟩ | ⟨-, failed⟩
  · exact List.Subset.trans atLast (revoked_ending ending)
  · rw [failed]
    exact atLast

theorem revoked_release (b : Backend σ) (p : Pool σ) (l : Lease) :
    p.revoked ⊆ (p.release b l).revoked := by
  by_cases valid : p.IsValid l
  · have taken : p.revoked ⊆ (((p.dropActive l).noteReturn l).takeBack b l).revoked := by
      unfold takeBack
      split
      · split <;> exact List.subset_cons_self _ _
      · exact List.subset_cons_self _ _
    rw [release_of_valid b valid]
    unfold notifyOne
    split <;> exact taken
  · rw [release_of_revoked b valid]
    exact List.Subset.refl _

end Pool

namespace Site

variable {σ : Type} {b : Backend σ} {allowed : Site σ → Action σ → Prop} {s t : Site σ}
  {name : String} {l : Lease}

/-- No action makes a lease valid again. -/
theorem revoked_act (s : Site σ) (a : Action σ) :
    s.pool.revoked ⊆ (s.act b a).2.pool.revoked := by
  have step := step_act b s a
  generalize s.act b a = result at step
  cases step with
  | rest | outside | lookUp | notifyAll | rouse => exact List.Subset.refl _
  | begin r =>
    rw [pool_afterAcquire]
    exact Pool.revoked_seek b r false _ 0 (s.pool.record (.begun r.name))
  | resume w =>
    rw [pool_afterAcquire]
    exact Pool.revoked_seek b w.request true _ w.discarded (s.pool.wake w)
  | release name l => exact Pool.revoked_release b s.pool l
  | close source settings shutDown =>
    have custody := Pool.custody_clear b { s.pool with source, settings, shutDown }
    have revoked : (Pool.closeAll b { s.pool with source, settings, shutDown }).revoked =
        s.pool.idle.map Lease.key ++ (s.pool.active.map Lease.key ++ s.pool.revoked) :=
      congrArg Custody.revoked custody
    rw [revoked]
    exact fun _ isOver => List.mem_append_right _ (List.mem_append_right _ isOver)

/-! ### Handles stay until they are handed back -/

theorem mem_handles_of_found (found : s.handle? name = some l) : (name, l) ∈ s.handles := by
  obtain ⟨before, after, split, -⟩ := List.lookup_eq_some_iff.mp found
  simp [split]

/-- As long as nobody shares a name, a handle is found by its name. -/
theorem handle?_of_mem (names : s.names.Nodup) (there : (name, l) ∈ s.handles) :
    s.handle? name = some l := by
  obtain ⟨before, after, split⟩ := List.append_of_mem there
  refine List.lookup_eq_some_iff.mpr ⟨before, after, split, fun entry earlier => ?_⟩
  have once : (s.handles.map Prod.fst).Nodup := by
    rw [Site.names, List.append_assoc] at names
    exact names.of_append_left
  rw [split, List.map_append, List.map_cons] at once
  have apart : name ∉ before.map Prod.fst := fun elsewhere =>
    List.disjoint_of_nodup_append once elsewhere List.mem_cons_self
  have differs : name ≠ entry.1 := fun same => apart (same ▸ List.mem_map_of_mem earlier)
  simpa using differs

theorem handles_afterAcquire (s : Site σ) (name : String) (acquired : Acquired × Pool σ) :
    s.handles ⊆ (s.afterAcquire name acquired).2.handles := by
  unfold afterAcquire
  split
  · exact List.subset_cons_self _ _
  · exact List.Subset.refl _
  · exact List.Subset.refl _

/-- A handle goes away only when it is handed back. -/
theorem mem_handles_act (a : Action σ) (other : a ≠ .release name) (there : (name, l) ∈ s.handles) :
    (name, l) ∈ (s.act b a).2.handles := by
  have step := step_act b s a
  generalize s.act b a = result at step
  cases step with
  | rest | outside | lookUp | notifyAll | rouse | close => exact there
  | begin r lookups => exact handles_afterAcquire { s with lookups } r.name _ there
  | resume w => exact handles_afterAcquire s w.request.name _ there
  | release name' =>
    have differs : name ≠ name' := fun same => other (by rw [same])
    exact List.mem_filter.mpr ⟨there, by simpa using differs⟩

/-! ### Spent handles -/

/-- A handle refuses every use and leaves everything as it is. To hand it back is counted as a bad
connection and noted, and changes nothing else. -/
structure Spent (b : Backend σ) (name : String) (l : Lease) (t : Site σ) : Prop where
  perform : ∀ operation, t.act b (.perform name operation) =
    (.failed (.invalidConnection l.connection), t)
  borrow : ∀ operations, t.act b (.borrow name operations) =
    (.failed (.invalidConnection l.connection), t)
  validate : t.act b (.validate name) = (.validated false, t)
  release : t.act b (.release name) =
    (.done,
      { t with
        pool :=
          { t.pool with
            statistics.badConnections := t.pool.statistics.badConnections + 1
            environment := t.pool.environment.record (.spurned l.connection) }
        handles := t.handles.filter fun entry => entry.1 ≠ name })

theorem spent_of_revoked (orderly : t.Orderly) (found : t.handle? name = some l)
    (isOver : ¬ t.pool.IsValid l) : t.Spent b name l := by
  have revoked : l.key ∈ t.pool.revoked := Decidable.not_not.mp isOver
  refine ⟨fun operation => ?_, fun operations => ?_, ?_, ?_⟩
  · simp only [act, withHandle, found, Pool.perform, if_neg isOver]
  · simp only [act, withHandle, found, Pool.borrow, if_neg isOver]
  · simp only [act, withHandle, found, Pool.usable, Lease.usable, revoked, true_or, if_true]
  · simp only [act, withHandle, found]
    rw [Pool.release_of_revoked b isOver, Pool.dropActive_of_revoked orderly.pool.sound isOver]
    rfl

/-- Once the lease behind a handle is revoked, then whatever happens, until the handle is handed
back it is the same handle to the same revoked lease: it refuses every use, and to hand it back is
only counted. -/
theorem Reachable.spent (reach : Reachable b allowed s) (found : s.handle? name = some l)
    (isOver : ¬ s.pool.IsValid l) (leads : Leads b (fun _ a => a ≠ .release name) s t) :
    t.handle? name = some l ∧ ¬ t.pool.IsValid l ∧ t.Spent b name l := by
  have kept : t.Orderly ∧ (name, l) ∈ t.handles ∧ l.key ∈ t.pool.revoked := by
    apply leads.keeps (P := fun u => u.Orderly ∧ (name, l) ∈ u.handles ∧ l.key ∈ u.pool.revoked)
    · intro u a other ⟨orderly, there, revoked⟩
      exact ⟨orderly.act a, mem_handles_act a other there, revoked_act u a revoked⟩
    · exact ⟨reach.orderly, mem_handles_of_found found, Decidable.not_not.mp isOver⟩
  obtain ⟨orderly, there, revoked⟩ := kept
  have stillOver : ¬ t.pool.IsValid l := fun valid => valid revoked
  have stillFound := handle?_of_mem orderly.names there
  exact ⟨stillFound, stillOver, spent_of_revoked orderly stillFound stillOver⟩

/-- A connection is taken from its holder for another, who hands it back, so that it lies idle. -/
theorem spent_reclaimed :
    let s := (new ⟨"db", {}⟩ { maxActive := 1 } {}).run Scripted.backend
      [.get "a", .elapse 21_000_000_000, .get "b"]
    let t := s.run Scripted.backend [.release "b"]
    ∃ l, l.connection = 1 ∧ s.handle? "a" = some l ∧ ¬ s.pool.IsValid l ∧
      t.handle? "a" = some l ∧ ¬ t.pool.IsValid l ∧ t.Spent Scripted.backend "a" l := by
  intro s t
  have there : ∃ l ∈ s.handle? "a", l.connection = 1 ∧ ¬ s.pool.IsValid l := by decide +kernel
  obtain ⟨l, found, connection, isOver⟩ := there
  have reach : Reachable Scripted.backend (fun _ _ => True) s :=
    ⟨_, _, _, Leads.refl.run _ fun _ _ _ => trivial⟩
  have leads : Leads Scripted.backend (fun _ a => a ≠ .release "a") s t := by
    refine Leads.refl.run _ fun _ a released => ?_
    rw [List.mem_singleton] at released
    simp [released]
  exact ⟨l, connection, found, isOver, reach.spent found isOver leads⟩

end Site

end LeasePool
