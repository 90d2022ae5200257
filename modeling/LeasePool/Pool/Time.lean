import LeasePool.Pool.Search

/-!
# Time in a pool

Whatever an acquire does takes time or none, and never turns the clock back.

## Main results

* `Pool.now_le_seek`, `Pool.now_le_resume`: a search ends no earlier than it began.
-/

namespace LeasePool.Pool

variable {σ : Type} (b : Backend σ)

theorem now_le_usable (p : Pool σ) (l : Lease) : p.now ≤ (p.usable b l).2.now :=
  l.clock_le_usable b p.settings p.expected p.revoked p.environment

theorem now_le_discard (p : Pool σ) (l : Lease) : p.now ≤ (p.discard b l).now :=
  Environment.clock_le_dispose b (p.environment.record (.discarded l.connection)) l.connection

theorem now_le_handOut (p : Pool σ) (r : Request) (l : Lease) :
    p.now ≤ (p.handOut b r l).2.now :=
  p.environment.clock_le_reset b l.connection

theorem now_le_openLease (p : Pool σ) (c : Credentials) : p.now ≤ (p.openLease b c).2.now := by
  have connected :=
    p.environment.clock_le_connect b p.nextConnection p.source.endpoint c
  unfold openLease
  split <;> simp_all [now]

theorem now_le_reclaim (p : Pool σ) : p.now ≤ (p.reclaim b).2.now := by
  unfold reclaim
  split
  · exact Nat.le_refl _
  · rename_i oldest _ _
    dsimp only
    split
    · exact Nat.le_refl _
    · exact Environment.clock_le_reset b (p.environment.record _) oldest.connection

theorem now_le_candidate (p : Pool σ) (c : Credentials) : p.now ≤ (p.candidate b c).2.now := by
  unfold candidate
  split
  · exact Nat.le_refl _
  · split
    · exact p.now_le_openLease b c
    · exact p.now_le_reclaim b

theorem now_le_round {r : Request} {p q : Pool σ} (round : Round b r p q) : p.now ≤ q.now := by
  obtain ⟨l, taken, checked, _, _, found, bad⟩ := round
  have atCandidate := p.now_le_candidate b r.credentials
  have atCheck := taken.now_le_usable b l
  rw [found] at atCandidate
  rw [bad] at atCheck
  exact Nat.le_trans atCandidate (Nat.le_trans atCheck (checked.now_le_discard b l))

theorem now_le_ending {r : Request} {waited : Bool} {discarded : Nat} {p : Pool σ}
    {ended : Acquired × Pool σ} (ending : Ending b r waited discarded p ended) :
    p.now ≤ ended.2.now := by
  have atCandidate := p.now_le_candidate b r.credentials
  cases ending with
  | closed => exact Nat.le_refl _
  | interrupted => exact Nat.le_refl _
  | refused _ _ found =>
    rw [found] at atCandidate
    exact atCandidate
  | waiting _ _ found =>
    rw [found] at atCandidate
    exact atCandidate
  | granted l taken checked _ _ found good =>
    have atCheck := taken.now_le_usable b l
    rw [found] at atCandidate
    rw [good] at atCheck
    exact Nat.le_trans atCandidate (Nat.le_trans atCheck (checked.now_le_handOut b r l))

/-- A search ends no earlier than it began. -/
theorem now_le_seek (r : Request) (waited : Bool) (spare discarded : Nat) (p : Pool σ) :
    p.now ≤ (seek b r waited spare discarded p).2.now := by
  obtain ⟨n, q, rounds, ending⟩ := rounds_seek b r waited spare discarded p
  have atLast : p.now ≤ q.now :=
    rounds.keeps b (fun _ _ round before => Nat.le_trans before (now_le_round b round))
      (Nat.le_refl _)
  rcases ending with ⟨_, ending⟩ | ⟨_, failed⟩
  · exact Nat.le_trans atLast (now_le_ending b ending)
  · rw [failed]
    exact atLast

/-- An acquire that goes on after a wait ends no earlier than that. -/
theorem now_le_resume (p : Pool σ) (w : Waiter) : p.now ≤ (p.resume b w).2.now :=
  now_le_seek b _ _ _ _ (p.wake w)

end LeasePool.Pool
