import LeasePool.Pool.Change
import LeasePool.Pool.Release
import LeasePool.Pool.Search
import LeasePool.Proofs.Custody

/-!
# Orderly pools

A pool is orderly when its account of custody is sound and its leases fit the settings: those that
are active and those that lie idle are together no more than may be active, and no more lie idle
than may. A lease in the hand of an operation takes a place like any other. The bound on the active
ones alone would not last, since an acquire takes an idle connection without asking for room.

Every operation on a pool keeps it orderly.

## Main definitions

* `Pool.Orderly`: the account is sound, and the leases fit the settings.

## Main results

* `Pool.Orderly.seek`: a search keeps a pool orderly, whoever gets a lease from it.
* `Pool.Orderly.release`, `Pool.Orderly.closeAll`: so do handing back and closing everything.
-/

namespace LeasePool

/-- The leases that an acquire got. -/
def Acquired.leases : Acquired → List Lease
  | .granted l => [l]
  | .failed _ | .waiting => []

namespace Pool

variable {σ : Type} {p q : Pool σ} {hand held : List Lease} {l : Lease}

/-- The account of custody is sound, and the leases fit the settings. -/
structure Orderly (p : Pool σ) (hand held : List Lease) : Prop where
  sound : p.custody.Sound hand held
  fits : hand.length + p.idle.length + p.active.length ≤ p.settings.maxActive
  idle_fits : p.idle.length ≤ p.settings.maxIdle

variable (b : Backend σ)

/-! ### Searching -/

/-- The leases that come into the hand with a candidate. -/
def candidates : Except BackendError (Option Lease) → List Lease
  | .ok (some l) => [l]
  | .ok none | .error _ => []

theorem Orderly.found {c : Credentials} {out : Except BackendError (Option Lease) × Pool σ}
    (orderly : p.Orderly [] held) (found : Found b c p out) :
    out.2.Orderly (candidates out.1) held := by
  have fits := orderly.fits
  have idle_fits := orderly.idle_fits
  cases found with
  | idle first =>
    rw [first] at fits idle_fits
    simp only [List.length_nil, List.length_cons] at fits idle_fits
    refine ⟨orderly.sound.take first, ?_, ?_⟩
    · simp only [candidates, List.length_singleton]
      omega
    · simp only
      omega
  | opened noneIdle room =>
    -- there was room for an active lease, and nothing idle that could take it
    refine ⟨orderly.sound.connect rfl rfl, ?_, idle_fits⟩
    simp only [candidates, noneIdle, List.length_singleton, List.length_nil]
    omega
  | unopened => exact ⟨orderly.sound, fits, idle_fits⟩
  | overdue noneIdle full isHeld late =>
    -- the place of the lease that is taken away goes to the one in the hand
    rw [isHeld] at fits
    refine ⟨orderly.sound.seize (.of_eq isHeld) rfl rfl, ?_, idle_fits⟩
    simp only [candidates, seize, renew, revoke, List.length_cons, List.length_nil] at fits ⊢
    omega
  | nothing => exact ⟨orderly.sound, fits, idle_fits⟩

theorem Orderly.candidate {c : Credentials} {out : Except BackendError (Option Lease)}
    (orderly : p.Orderly [] held) (found : p.candidate b c = (out, q)) :
    q.Orderly (candidates out) held :=
  orderly.found b (found_of_candidate b found)

/-- A check changes nothing but what lies outside the pool. -/
theorem Orderly.usable {good : Bool} (orderly : p.Orderly hand held)
    (checked : p.usable b l = (good, q)) : q.Orderly hand held := by
  obtain rfl : (p.usable b l).2 = q := congrArg Prod.snd checked
  exact ⟨orderly.sound, orderly.fits, orderly.idle_fits⟩

theorem Orderly.record {event : Event} (orderly : p.Orderly hand held) :
    (p.record event).Orderly hand held :=
  ⟨orderly.sound, orderly.fits, orderly.idle_fits⟩

theorem Orderly.wake {w : Waiter} (orderly : p.Orderly hand held) :
    (p.wake w).Orderly hand held :=
  ⟨orderly.sound, orderly.fits, orderly.idle_fits⟩

/-- A lease in the hand that is destroyed leaves its place to others. -/
theorem Orderly.destroy (orderly : p.Orderly [l] held) : (p.destroy b l).Orderly [] held := by
  refine ⟨orderly.sound.discard, ?_, orderly.idle_fits⟩
  exact Nat.le_trans (by simp [Pool.destroy, revoke]) orderly.fits

theorem Orderly.discard (orderly : p.Orderly [l] held) : (p.discard b l).Orderly [] held :=
  Orderly.destroy b ⟨orderly.sound, orderly.fits, orderly.idle_fits⟩

theorem Orderly.handOut {r : Request} (orderly : p.Orderly [l] held) :
    (p.handOut b r l).2.Orderly [] ((p.handOut b r l).1 :: held) := by
  refine ⟨orderly.sound.handOut rfl rfl, ?_, orderly.idle_fits⟩
  have fits := orderly.fits
  simp only [Pool.handOut, List.length_append, List.length_cons, List.length_nil] at fits ⊢
  omega

theorem Orderly.round {r : Request} (orderly : p.Orderly [] held) (round : Round b r p q) :
    q.Orderly [] held := by
  obtain ⟨l, taken, checked, -, -, found, bad⟩ := round
  have inHand : taken.Orderly [l] held := orderly.candidate b found
  exact (inHand.usable b bad).discard b

theorem Orderly.ending {r : Request} {waited : Bool} {discarded : Nat}
    {out : Acquired × Pool σ} (orderly : p.Orderly [] held)
    (ending : Ending b r waited discarded p out) :
    out.2.Orderly [] (out.1.leases ++ held) := by
  cases ending with
  | closed => exact orderly.record
  | interrupted => exact orderly.record
  | refused _ _ found => exact (orderly.candidate b found).record
  | waiting _ _ found =>
    have kept := orderly.candidate b found
    exact ⟨kept.sound, kept.fits, kept.idle_fits⟩
  | granted l taken checked _ _ found good =>
    have inHand : taken.Orderly [l] held := orderly.candidate b found
    exact (inHand.usable b good).handOut b

/-- A search keeps a pool orderly, and whoever gets a lease from it holds that as well. -/
theorem Orderly.seek (orderly : p.Orderly [] held) (r : Request) (waited : Bool)
    (spare discarded : Nat) :
    (seek b r waited spare discarded p).2.Orderly []
      ((seek b r waited spare discarded p).1.leases ++ held) := by
  obtain ⟨n, q, rounds, ending⟩ := rounds_seek b r waited spare discarded p
  have atLast : q.Orderly [] held :=
    rounds.keeps b (fun _ _ round before => Orderly.round b before round) orderly
  rcases ending with ⟨-, ending⟩ | ⟨-, failed⟩
  · exact atLast.ending b ending
  · rw [failed]
    exact atLast.record

/-! ### Handing back -/

/-- A lease is taken off the list of those that are held; the others remain, in order. -/
theorem split_dropActive (sound : p.custody.Sound hand held) (active : l ∈ p.active) :
    ∃ before after,
      p.active = before ++ l :: after ∧ (p.dropActive l).active = before ++ after := by
  obtain ⟨first, before, after, -, same, whole, rest⟩ :=
    List.exists_of_eraseP active (p := fun other => other.key = l.key) (by simp)
  have isLive : ∀ other ∈ p.active, other ∈ p.custody.live hand := by
    intro other there
    simp [Custody.live, Pool.custody, there]
  obtain rfl : first = l :=
    sound.distinct.eq_of_key_eq (isLive first (by simp [whole])) (isLive l active)
      (by simpa using same)
  exact ⟨before, after, whole, rest⟩

theorem perm_dropActive (sound : p.custody.Sound hand held) (active : l ∈ p.active) :
    p.active.Perm (l :: (p.dropActive l).active) := by
  obtain ⟨before, after, whole, rest⟩ := split_dropActive sound active
  rw [rest, whole]
  exact List.perm_middle

/-- A lease that is over is not on the list of those that are held. -/
theorem dropActive_of_revoked (sound : p.custody.Sound hand held) (isOver : ¬ p.IsValid l) :
    p.dropActive l = p := by
  have absent : ∀ other ∈ p.active, ¬ (decide (other.key = l.key)) = true := by
    intro other active same
    have valid := sound.valid_of_active (c := p.custody) active
    rw [of_decide_eq_true same] at valid
    exact isOver valid
  rw [dropActive, List.eraseP_of_forall_not absent]

theorem Orderly.shelve (orderly : p.Orderly [l] held) (room : p.idle.length < p.settings.maxIdle) :
    (p.shelve l).Orderly [] held := by
  have fits := orderly.fits
  have renewed : Custody.Sound _ [l.renewed p.nextKey] held := orderly.sound.renew rfl rfl
  refine ⟨renewed.lay, ?_, ?_⟩
  · simp only [Pool.shelve, renew, revoke, List.length_append, List.length_cons,
      List.length_nil] at fits ⊢
    omega
  · simp only [Pool.shelve, renew, revoke, List.length_append, List.length_singleton]
    omega

theorem Orderly.takeBack (orderly : p.Orderly [l] held) : (p.takeBack b l).Orderly [] held := by
  unfold Pool.takeBack
  by_cases room : p.HasRoomFor l
  · rw [if_pos room]
    -- only the environment differs before the lease is put back or destroyed
    have kept (environment : Environment σ) : Orderly { p with environment } [l] held :=
      ⟨orderly.sound, orderly.fits, orderly.idle_fits⟩
    split
    · exact (kept _).shelve room.1
    · exact (kept _).destroy b
  · rw [if_neg room]
    exact orderly.destroy b

/-- To signal somebody moves no lease. -/
theorem custody_notifyOne (p : Pool σ) : p.notifyOne.custody = p.custody := by
  unfold Pool.notifyOne
  split <;> rfl

theorem Orderly.notifyOne (orderly : p.Orderly hand held) : p.notifyOne.Orderly hand held := by
  unfold Pool.notifyOne
  split
  · exact orderly
  · exact ⟨orderly.sound, orderly.fits, orderly.idle_fits⟩

/-- Handing back a lease keeps a pool orderly; its holder holds it no longer. -/
theorem Orderly.release {held' : List Lease} (orderly : p.Orderly [] held)
    (whose : held.Perm (l :: held')) : (p.release b l).Orderly [] held' := by
  have isHeld : l ∈ held := whose.mem_iff.mpr List.mem_cons_self
  by_cases valid : p.IsValid l
  · have active : l ∈ p.active := orderly.sound.active_of_held l isHeld valid
    have among := perm_dropActive orderly.sound active
    have inHand : (p.dropActive l).Orderly [l] held' := by
      refine ⟨orderly.sound.retrieve among whose, ?_, orderly.idle_fits⟩
      have fits := orderly.fits
      rw [among.length_eq] at fits
      simp only [List.length_cons, List.length_nil] at fits ⊢
      change _ + p.idle.length + _ ≤ p.settings.maxActive
      omega
    -- the statistics have no part in it
    have noted : ((p.dropActive l).noteReturn l).Orderly [l] held' :=
      ⟨inHand.sound, inHand.fits, inHand.idle_fits⟩
    rw [release_of_valid b valid]
    exact (noted.takeBack b).notifyOne
  · have isOver : l.key ∈ p.revoked := Decidable.not_not.mp valid
    rw [release_of_revoked b valid, dropActive_of_revoked orderly.sound valid]
    exact ⟨orderly.sound.forsake isOver whose, orderly.fits, orderly.idle_fits⟩

/-! ### Closing everything -/

/-- Destroying leases one after the other revokes them, and does nothing else to the account. -/
theorem custody_foldl_destroy (ls : List Lease) (p : Pool σ) :
    (ls.foldl (Pool.destroy b) p).custody =
      { p.custody with revoked := (ls.map Lease.key).reverse ++ p.revoked } := by
  induction ls generalizing p with
  | nil => rfl
  | cons l ls ih =>
    rw [List.foldl_cons, ih]
    simp [custody, Pool.destroy, revoke]

theorem custody_foldl_withdraw (ls : List Lease) (p : Pool σ) :
    (ls.foldl (withdraw b) p).custody =
      { p.custody with revoked := (ls.map Lease.key).reverse ++ p.revoked } := by
  induction ls generalizing p with
  | nil => rfl
  | cons l ls ih =>
    rw [List.foldl_cons, ih]
    simp [custody, withdraw, record, Pool.destroy, revoke]

/-- Clearing a pool leaves no lease, and revokes those that there were. -/
theorem custody_clear (p : Pool σ) :
    (p.clear b).custody =
      { p.custody with
        idle := [], active := []
        revoked := p.idle.map Lease.key ++ (p.active.map Lease.key ++ p.revoked) } := by
  have withdrawn := custody_foldl_withdraw b p.active.reverse p.vacated
  have revoked := congrArg Custody.revoked withdrawn
  simp only [custody] at revoked
  rw [clear, custody_foldl_destroy, withdrawn, revoked]
  simp [custody, vacated]

/-- Closing everything keeps a pool orderly, whatever it was that its leases had to fit. -/
theorem Orderly.closeAll (sound : p.custody.Sound [] held) : (p.closeAll b).Orderly [] held := by
  have custody : (p.closeAll b).custody = _ := custody_clear b p
  have idle : (p.closeAll b).idle = [] := congrArg Custody.idle custody
  have active : (p.closeAll b).active = [] := congrArg Custody.active custody
  refine ⟨?_, by simp [idle, active], by simp [idle]⟩
  rw [custody]
  refine sound.clear ?_ ?_
  · simp only [List.mem_append, List.map_append, Pool.custody]
    tauto
  · simp only [List.mem_append, List.map_append, Pool.custody]
    tauto

end Pool

end LeasePool
