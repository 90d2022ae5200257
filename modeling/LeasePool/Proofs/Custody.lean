import LeasePool.Pool
import Mathlib.Data.List.Nodup
import Mathlib.Data.List.Perm.Basic

/-!
# Custody of leases

At any instant a lease lies idle, is active, is in the hand of the operation that works on it, or is
over. Whoever held a lease that is over may still hold it, but the connection goes on under a lease
with another key, or is closed.

The leases that are not over are told apart by their keys and by their connections. An account of
custody is sound when this is so and when, of the leases that callers hold, exactly the active ones
are not over. Every move of a lease from one place to another keeps an account sound.

## Main definitions

* `Custody`: where the leases of a pool are, which are over, and what the next numbers are.
* `Custody.Distinct`: the leases that are not over are told apart.
* `Custody.Sound`: the account is sound, with some leases in a hand and some held by callers.

## Main results

* `Custody.Sound.take`, `connect`, `discard`, `renew`, `lay`, `handOut`, `retrieve`, `forsake`,
  `cling`, `seize`, `clear`: the moves keep the account sound.
* `Custody.Sound.valid_iff_active`: of the leases that callers hold, exactly the active ones are not
  over.
-/

namespace LeasePool

/-- Where the leases of a pool are, which are over, and what the next numbers are. -/
structure Custody where
  idle : List Lease
  active : List Lease
  revoked : List Nat
  nextKey : Nat
  nextConnection : Nat

/-- The custody of the leases of a pool. -/
def Pool.custody {σ : Type} (p : Pool σ) : Custody :=
  ⟨p.idle, p.active, p.revoked, p.nextKey, p.nextConnection⟩

namespace Custody

variable {c : Custody} {leases hand held : List Lease} {l l' : Lease}

/-! ### Leases that are not over -/

/-- The leases of a list are told apart by their keys and by their connections; none is over, and
none has a number that is still to come. -/
structure Distinct (c : Custody) (leases : List Lease) : Prop where
  keys : (leases.map Lease.key).Nodup
  connections : (leases.map Lease.connection).Nodup
  valid : ∀ l ∈ leases, l.key ∉ c.revoked
  key_lt : ∀ l ∈ leases, l.key < c.nextKey
  connection_lt : ∀ l ∈ leases, l.connection < c.nextConnection
  revoked_lt : ∀ k ∈ c.revoked, k < c.nextKey

namespace Distinct

theorem eq_of_key_eq (distinct : c.Distinct leases) (there : l ∈ leases) (there' : l' ∈ leases)
    (same : l.key = l'.key) : l = l' :=
  List.inj_on_of_nodup_map distinct.keys there there' same

theorem eq_of_connection_eq (distinct : c.Distinct leases) (there : l ∈ leases)
    (there' : l' ∈ leases) (same : l.connection = l'.connection) : l = l' :=
  List.inj_on_of_nodup_map distinct.connections there there' same

theorem nextKey_notMem (distinct : c.Distinct leases) : c.nextKey ∉ leases.map Lease.key := by
  intro there
  obtain ⟨l, isLive, key⟩ := List.mem_map.mp there
  exact Nat.lt_irrefl _ (key ▸ distinct.key_lt l isLive)

theorem nextConnection_notMem (distinct : c.Distinct leases) :
    c.nextConnection ∉ leases.map Lease.connection := by
  intro there
  obtain ⟨l, isLive, connection⟩ := List.mem_map.mp there
  exact Nat.lt_irrefl _ (connection ▸ distinct.connection_lt l isLive)

/-- The order of the leases does not matter. -/
theorem perm {leases' : List Lease} (distinct : c.Distinct leases) (same : leases'.Perm leases) :
    c.Distinct leases' where
  keys := (same.map Lease.key).nodup_iff.mpr distinct.keys
  connections := (same.map Lease.connection).nodup_iff.mpr distinct.connections
  valid l isLive := distinct.valid l (same.mem_iff.mp isLive)
  key_lt l isLive := distinct.key_lt l (same.mem_iff.mp isLive)
  connection_lt l isLive := distinct.connection_lt l (same.mem_iff.mp isLive)
  revoked_lt := distinct.revoked_lt

/-- Stamping a lease changes neither its key nor its connection. -/
theorem stamp (distinct : c.Distinct (l :: leases)) (key : l'.key = l.key)
    (connection : l'.connection = l.connection) : c.Distinct (l' :: leases) where
  keys := by simpa [key] using distinct.keys
  connections := by simpa [connection] using distinct.connections
  valid := by simpa [key] using distinct.valid
  key_lt := by simpa [key] using distinct.key_lt
  connection_lt := by simpa [connection] using distinct.connection_lt
  revoked_lt := distinct.revoked_lt

/-- A connection is opened. -/
theorem connect (distinct : c.Distinct leases) (key : l.key = c.nextKey)
    (connection : l.connection = c.nextConnection) :
    Distinct { c with nextKey := c.nextKey + 1, nextConnection := c.nextConnection + 1 }
      (l :: leases) where
  keys := List.nodup_cons.mpr ⟨key ▸ distinct.nextKey_notMem, distinct.keys⟩
  connections := List.nodup_cons.mpr
    ⟨connection ▸ distinct.nextConnection_notMem, distinct.connections⟩
  valid := by
    intro other isLive
    rcases List.mem_cons.mp isLive with rfl | isLive
    · intro isOver
      exact Nat.lt_irrefl _ (key ▸ distinct.revoked_lt _ isOver)
    · exact distinct.valid other isLive
  key_lt := by
    intro other isLive
    rcases List.mem_cons.mp isLive with rfl | isLive
    · exact key ▸ Nat.lt_succ_self _
    · exact Nat.lt_succ_of_lt (distinct.key_lt other isLive)
  connection_lt := by
    intro other isLive
    rcases List.mem_cons.mp isLive with rfl | isLive
    · exact connection ▸ Nat.lt_succ_self _
    · exact Nat.lt_succ_of_lt (distinct.connection_lt other isLive)
  revoked_lt k isOver := Nat.lt_succ_of_lt (distinct.revoked_lt k isOver)

/-- A lease is revoked, and nobody else is. -/
theorem revoke (distinct : c.Distinct (l :: leases)) :
    Distinct { c with revoked := l.key :: c.revoked } leases where
  keys := (List.nodup_cons.mp distinct.keys).2
  connections := (List.nodup_cons.mp distinct.connections).2
  valid := by
    intro other isLive isOver
    rcases List.mem_cons.mp isOver with same | isOver
    · exact (List.nodup_cons.mp distinct.keys).1 (same ▸ List.mem_map_of_mem isLive)
    · exact distinct.valid other (List.mem_cons_of_mem _ isLive) isOver
  key_lt other isLive := distinct.key_lt other (List.mem_cons_of_mem _ isLive)
  connection_lt other isLive := distinct.connection_lt other (List.mem_cons_of_mem _ isLive)
  revoked_lt := by
    intro k isOver
    rcases List.mem_cons.mp isOver with rfl | isOver
    · exact distinct.key_lt l List.mem_cons_self
    · exact distinct.revoked_lt k isOver

/-- A lease is revoked, and its connection goes on under the next key. -/
theorem renew (distinct : c.Distinct (l :: leases)) (key : l'.key = c.nextKey)
    (connection : l'.connection = l.connection) :
    Distinct { c with revoked := l.key :: c.revoked, nextKey := c.nextKey + 1 }
      (l' :: leases) where
  keys := by
    refine List.nodup_cons.mpr ⟨?_, (List.nodup_cons.mp distinct.keys).2⟩
    rw [key]
    exact fun there => distinct.nextKey_notMem (List.mem_cons_of_mem _ there)
  connections := by simpa [connection] using distinct.connections
  valid := by
    intro other isLive
    rcases List.mem_cons.mp isLive with rfl | isLive
    · intro isOver
      exact Nat.lt_irrefl _ (key ▸ distinct.revoke.revoked_lt _ isOver)
    · exact distinct.revoke.valid other isLive
  key_lt := by
    intro other isLive
    rcases List.mem_cons.mp isLive with rfl | isLive
    · exact key ▸ Nat.lt_succ_self _
    · exact Nat.lt_succ_of_lt (distinct.revoke.key_lt other isLive)
  connection_lt := by simpa [connection] using distinct.connection_lt
  revoked_lt k isOver := Nat.lt_succ_of_lt (distinct.revoke.revoked_lt k isOver)

end Distinct

/-! ### Leases that callers hold -/

/-- The leases that are not over, while some are in the hand of an operation. -/
def live (c : Custody) (hand : List Lease) : List Lease := hand ++ (c.idle ++ c.active)

/-- The account is sound, while some leases are in the hand of an operation and some are held by
callers. -/
structure Sound (c : Custody) (hand held : List Lease) : Prop where
  distinct : c.Distinct (c.live hand)
  heldKeys : (held.map Lease.key).Nodup
  held_lt : ∀ l ∈ held, l.key < c.nextKey
  active_of_held : ∀ l ∈ held, l.key ∉ c.revoked → l ∈ c.active
  held_of_active : ∀ l ∈ c.active, l ∈ held

namespace Sound

theorem valid_of_active (sound : c.Sound hand held) (active : l ∈ c.active) :
    l.key ∉ c.revoked :=
  sound.distinct.valid l (by simp [Custody.live, active])

/-- Of the leases that callers hold, exactly the active ones are not over. -/
theorem valid_iff_active (sound : c.Sound hand held) (isHeld : l ∈ held) :
    l.key ∉ c.revoked ↔ l ∈ c.active :=
  ⟨sound.active_of_held l isHeld, sound.valid_of_active⟩

/-- No two active leases are of one connection. -/
theorem active_connections (sound : c.Sound hand held) :
    (c.active.map Lease.connection).Nodup := by
  have connections := sound.distinct.connections
  simp only [Custody.live, List.map_append] at connections
  exact connections.of_append_right.of_append_right

/-- Active leases of one connection are one lease. -/
theorem eq_of_active (sound : c.Sound hand held) (active : l ∈ c.active) (active' : l' ∈ c.active)
    (same : l.connection = l'.connection) : l = l' :=
  sound.distinct.eq_of_connection_eq (by simp [Custody.live, active])
    (by simp [Custody.live, active']) same

/-- No idle lease is of the connection of an active one. -/
theorem connection_ne_of_idle (sound : c.Sound hand held) (idle : l ∈ c.idle)
    (active : l' ∈ c.active) : l.connection ≠ l'.connection := by
  have connections := sound.distinct.connections
  simp only [Custody.live, List.map_append] at connections
  intro same
  exact List.disjoint_of_nodup_append connections.of_append_right (List.mem_map_of_mem idle)
    (same ▸ List.mem_map_of_mem active)

/-- The keys of idle leases, of active ones and of those in a hand are apart. -/
theorem apart (sound : c.Sound hand held) :
    hand.map Lease.key |>.Disjoint ((c.idle ++ c.active).map Lease.key) := by
  have keys := sound.distinct.keys
  rw [Custody.live, List.map_append] at keys
  exact List.disjoint_of_nodup_append keys

/-- A lease that a caller holds is neither idle nor in a hand, not even under another stamp. -/
theorem key_ne_of_held (sound : c.Sound hand held) (isHeld : l ∈ held)
    (elsewhere : l' ∈ hand ∨ l' ∈ c.idle) : l.key ≠ l'.key := by
  intro same
  have isLive : l' ∈ c.live hand := by
    rcases elsewhere with inHand | idle
    · simp [Custody.live, inHand]
    · simp [Custody.live, idle]
  have valid : l.key ∉ c.revoked := same ▸ sound.distinct.valid l' isLive
  have active : l ∈ c.active := sound.active_of_held l isHeld valid
  rcases elsewhere with inHand | idle
  · exact sound.apart (List.mem_map_of_mem inHand)
      (same ▸ List.mem_map_of_mem (List.mem_append_right _ active))
  · -- the lease is active, and no idle one has its key
    have keys := sound.distinct.keys
    simp only [Custody.live, List.map_append] at keys
    exact List.disjoint_of_nodup_append keys.of_append_right (List.mem_map_of_mem idle)
      (same ▸ List.mem_map_of_mem active)

/-! ### Moves -/

/-- The order in which callers hold their leases does not matter. -/
theorem perm {held' : List Lease} (sound : c.Sound hand held) (same : held'.Perm held) :
    c.Sound hand held' where
  distinct := sound.distinct
  heldKeys := (same.map Lease.key).nodup_iff.mpr sound.heldKeys
  held_lt l isHeld := sound.held_lt l (same.mem_iff.mp isHeld)
  active_of_held l isHeld := sound.active_of_held l (same.mem_iff.mp isHeld)
  held_of_active l active := same.mem_iff.mpr (sound.held_of_active l active)

/-- The first idle lease is taken into the hand. -/
theorem take {rest : List Lease} (sound : c.Sound [] held) (first : c.idle = l :: rest) :
    Sound { c with idle := rest } [l] held :=
  { sound with
    distinct := Distinct.perm { sound.distinct with } (by simp [Custody.live, first]) }

/-- The lease of a new connection comes into the hand. -/
theorem connect (sound : c.Sound [] held) (key : l.key = c.nextKey)
    (connection : l.connection = c.nextConnection) :
    Sound { c with nextKey := c.nextKey + 1, nextConnection := c.nextConnection + 1 } [l]
      held :=
  { sound with
    distinct := sound.distinct.connect key connection
    held_lt := fun l isHeld => Nat.lt_succ_of_lt (sound.held_lt l isHeld) }

/-- The lease in the hand is revoked. -/
theorem discard (sound : c.Sound [l] held) :
    Sound { c with revoked := l.key :: c.revoked } [] held :=
  { sound with
    distinct := sound.distinct.revoke
    active_of_held := fun l isHeld valid =>
      sound.active_of_held l isHeld fun isOver => valid (List.mem_cons_of_mem _ isOver) }

/-- The lease in the hand is revoked, and its connection goes on under the next key. -/
theorem renew (sound : c.Sound [l] held) (key : l'.key = c.nextKey)
    (connection : l'.connection = l.connection) :
    Sound { c with revoked := l.key :: c.revoked, nextKey := c.nextKey + 1 } [l'] held :=
  { sound with
    distinct := sound.distinct.renew key connection
    held_lt := fun l isHeld => Nat.lt_succ_of_lt (sound.held_lt l isHeld)
    active_of_held := fun l isHeld valid =>
      sound.active_of_held l isHeld fun isOver => valid (List.mem_cons_of_mem _ isOver) }

/-- The lease in the hand is put to the idle ones, as the last. -/
theorem lay (sound : c.Sound [l] held) : Sound { c with idle := c.idle ++ [l] } [] held :=
  { sound with
    distinct := Distinct.perm { sound.distinct with } (by simp [Custody.live]) }

/-- The lease in the hand is stamped, and a caller gets it. -/
theorem handOut (sound : c.Sound [l] held) (key : l'.key = l.key)
    (connection : l'.connection = l.connection) :
    Sound { c with active := c.active ++ [l'] } [] (l' :: held) where
  distinct := by
    have stamped := sound.distinct.stamp key connection
    refine Distinct.perm { stamped with } ?_
    have last : (c.idle ++ c.active ++ [l']).Perm (l' :: (c.idle ++ c.active)) :=
      List.perm_append_singleton l' (c.idle ++ c.active)
    simpa [Custody.live] using last
  heldKeys := by
    refine List.nodup_cons.mpr ⟨?_, sound.heldKeys⟩
    intro there
    obtain ⟨other, isHeld, same⟩ := List.mem_map.mp there
    exact sound.key_ne_of_held isHeld (.inl List.mem_cons_self) (same.trans key)
  held_lt := by
    intro other isHeld
    rcases List.mem_cons.mp isHeld with rfl | isHeld
    · exact key ▸ sound.distinct.key_lt l List.mem_cons_self
    · exact sound.held_lt other isHeld
  active_of_held := by
    intro other isHeld valid
    rcases List.mem_cons.mp isHeld with rfl | isHeld
    · simp
    · exact List.mem_append_left _ (sound.active_of_held other isHeld valid)
  held_of_active := by
    intro other active
    rcases List.mem_append.mp active with active | isNew
    · exact List.mem_cons_of_mem _ (sound.held_of_active other active)
    · exact List.mem_cons.mpr (.inl (List.mem_singleton.mp isNew))

/-- A caller gives up an active lease, which comes into the hand. -/
theorem retrieve {rest held' : List Lease} (sound : c.Sound [] held)
    (among : c.active.Perm (l :: rest)) (whose : held.Perm (l :: held')) :
    Sound { c with active := rest } [l] held' := by
  have heldKeys : (l.key :: held'.map Lease.key).Nodup :=
    (whose.map Lease.key).nodup_iff.mp sound.heldKeys
  have activeKeys : (l.key :: rest.map Lease.key).Nodup := by
    have keys := sound.distinct.keys
    simp only [Custody.live, List.nil_append, List.map_append] at keys
    exact (among.map Lease.key).nodup_iff.mp keys.of_append_right
  refine ⟨?_, (List.nodup_cons.mp heldKeys).2, ?_, ?_, ?_⟩
  · refine Distinct.perm { sound.distinct with } ?_
    have moved : (l :: (c.idle ++ rest)).Perm (c.idle ++ c.active) :=
      List.perm_middle.symm.trans (among.symm.append_left c.idle)
    simpa [Custody.live] using moved
  · intro other isHeld
    exact sound.held_lt other (whose.mem_iff.mpr (List.mem_cons_of_mem _ isHeld))
  · intro other isHeld valid
    have active := sound.active_of_held other
      (whose.mem_iff.mpr (List.mem_cons_of_mem _ isHeld)) valid
    rcases List.mem_cons.mp (among.mem_iff.mp active) with rfl | there
    · -- nobody else holds the lease that is given up
      exact absurd (List.mem_map_of_mem isHeld) (List.nodup_cons.mp heldKeys).1
    · exact there
  · intro other there
    have isHeld := sound.held_of_active other
      (among.mem_iff.mpr (List.mem_cons_of_mem _ there))
    rcases List.mem_cons.mp (whose.mem_iff.mp isHeld) with rfl | isHeld
    · exact absurd (List.mem_map_of_mem there) (List.nodup_cons.mp activeKeys).1
    · exact isHeld

/-- A caller gives up a lease that is over. -/
theorem forsake {held' : List Lease} (sound : c.Sound hand held) (isOver : l.key ∈ c.revoked)
    (whose : held.Perm (l :: held')) : c.Sound hand held' := by
  have still : ∀ other ∈ held', other ∈ held := fun other isHeld =>
    whose.mem_iff.mpr (List.mem_cons_of_mem _ isHeld)
  refine ⟨sound.distinct, ?_, ?_, ?_, ?_⟩
  · exact (List.nodup_cons.mp ((whose.map Lease.key).nodup_iff.mp sound.heldKeys)).2
  · exact fun other isHeld => sound.held_lt other (still other isHeld)
  · exact fun other isHeld => sound.active_of_held other (still other isHeld)
  · intro other active
    have isHeld := sound.held_of_active other active
    rcases List.mem_cons.mp (whose.mem_iff.mp isHeld) with rfl | isHeld
    · exact absurd isOver (sound.valid_of_active active)
    · exact isHeld

/-- A caller keeps a lease that is over. -/
theorem cling (sound : c.Sound hand held) (isOver : l.key ∈ c.revoked)
    (other : l.key ∉ held.map Lease.key) : c.Sound hand (l :: held) where
  distinct := sound.distinct
  heldKeys := List.nodup_cons.mpr ⟨other, sound.heldKeys⟩
  held_lt := by
    intro other isHeld
    rcases List.mem_cons.mp isHeld with rfl | isHeld
    · exact sound.distinct.revoked_lt _ isOver
    · exact sound.held_lt other isHeld
  active_of_held := by
    intro other isHeld valid
    rcases List.mem_cons.mp isHeld with rfl | isHeld
    · exact absurd isOver valid
    · exact sound.active_of_held other isHeld valid
  held_of_active other active := List.mem_cons_of_mem _ (sound.held_of_active other active)

/-- A caller keeps an active lease, whose connection comes into the hand under the next key. -/
theorem seize {rest : List Lease} (sound : c.Sound [] held) (among : c.active.Perm (l :: rest))
    (key : l'.key = c.nextKey) (connection : l'.connection = l.connection) :
    Sound { c with active := rest, revoked := l.key :: c.revoked, nextKey := c.nextKey + 1 } [l']
      held := by
  have isHeld : l ∈ held := sound.held_of_active l (among.mem_iff.mpr List.mem_cons_self)
  have whose : held.Perm (l :: held.erase l) := List.perm_cons_erase isHeld
  have heldKeys : (l.key :: (held.erase l).map Lease.key).Nodup :=
    (whose.map Lease.key).nodup_iff.mp sound.heldKeys
  -- as if the caller gave up the lease, and then kept it after it was over
  have renewed := (sound.retrieve among whose).renew key connection
  exact (renewed.cling List.mem_cons_self (List.nodup_cons.mp heldKeys).1).perm whose

/-- Every lease is revoked. -/
theorem clear {revoked : List Nat} (sound : c.Sound [] held)
    (old : ∀ k ∈ revoked, k ∈ c.revoked ∨ k ∈ (c.idle ++ c.active).map Lease.key)
    (all : ∀ k, k ∈ c.revoked ∨ k ∈ (c.idle ++ c.active).map Lease.key → k ∈ revoked) :
    Sound { c with idle := [], active := [], revoked } [] held where
  distinct :=
    { keys := List.nodup_nil
      connections := List.nodup_nil
      valid := by simp [Custody.live]
      key_lt := by simp [Custody.live]
      connection_lt := by simp [Custody.live]
      revoked_lt := by
        intro k isOver
        rcases old k isOver with isOver | wasLive
        · exact sound.distinct.revoked_lt k isOver
        · obtain ⟨l, isLive, rfl⟩ := List.mem_map.mp wasLive
          exact sound.distinct.key_lt l isLive }
  heldKeys := sound.heldKeys
  held_lt := sound.held_lt
  active_of_held := by
    intro l isHeld valid
    have active : l ∈ c.active :=
      sound.active_of_held l isHeld fun isOver => valid (all _ (.inl isOver))
    exact absurd (all _ (.inr (List.mem_map_of_mem (List.mem_append_right _ active)))) valid
  held_of_active := by simp

end Sound

end Custody

end LeasePool
