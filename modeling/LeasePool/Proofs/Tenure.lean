import LeasePool.Proofs.Revocation
import LeasePool.Proofs.Transactions
import LeasePool.Proofs.Upshot

/-!
# Holders are left alone

Whatever others do, a holder keeps its lease and its place among those who hold one, and nothing is
asked of its connection. There is one exception: an acquire that finds nothing idle and no room
takes the longest-held lease from its holder, if that is overdue. It does so before anything else
and once at most, since a search that has turned down a candidate has room for another.

## Main definitions

* `Pool.Overdue`: a lease that an acquire would take from its holder.
* `Pool.Spares`: leases are left to their holders, but for an overdue one.
* `Site.Undisturbed`, `Site.Overtaken`: what an action does to a holder.

## Main results

* `Pool.spares_seek`: a search leaves the leases to their holders, but for an overdue one.
* `Site.Reachable.undisturbed_unless_overdue`: what somebody else does leaves a holder undisturbed,
  unless its lease is overdue and an acquire takes it.
-/

namespace LeasePool

namespace Pool

variable {σ : Type} {b : Backend σ} {p q t : Pool σ} {r : Request} {l l' : Lease}
  {kept held : List Lease}

/-- An acquire would take this lease from its holder: nothing lies idle, there is no room, and the
lease is the longest-held one and overdue. -/
structure Overdue (p : Pool σ) (l : Lease) : Prop where
  noneIdle : p.idle = []
  full : p.settings.maxActive ≤ p.active.length
  oldest : p.active.head? = some l
  late : p.settings.maxCheckoutTime.nanos < l.heldFor p.now

theorem Overdue.room_eq_zero (overdue : p.Overdue l) : p.room = 0 :=
  Nat.sub_eq_zero_of_le overdue.full

/-- An overdue lease is taken from its holder. -/
structure Overtakes (p : Pool σ) (l : Lease) (q : Pool σ) : Prop where
  overdue : p.Overdue l
  revoked : l.key ∈ q.revoked
  noted : ⟨p.now, .reclaimed l.connection⟩ :: p.environment.journal <:+ q.environment.journal

theorem Overtakes.later (overtakes : p.Overtakes l q) (revoked : q.revoked ⊆ t.revoked)
    (later : q.environment.Later t.environment) : p.Overtakes l t :=
  ⟨overtakes.overdue, revoked overtakes.revoked, overtakes.noted.trans later.journal⟩

/-- These leases are left to their holders: all in their order, but for an overdue one that is taken
from its holder. Nothing is asked of their connections. -/
structure Spares (p : Pool σ) (kept : List Lease) (q : Pool σ) : Prop where
  order : kept = p.active ∨ ∃ l, p.active = l :: kept ∧ p.Overtakes l q
  calls : ∀ l ∈ kept, q.environment.calls l.connection = p.environment.calls l.connection

namespace Spares

theorem refl (p : Pool σ) : Spares p p.active p := ⟨.inl rfl, fun _ _ => rfl⟩

theorem later (spares : Spares p kept q) (revoked : q.revoked ⊆ t.revoked)
    (later : q.environment.Later t.environment)
    (calls : ∀ l ∈ kept, t.environment.calls l.connection = q.environment.calls l.connection) :
    Spares p kept t where
  order := spares.order.imp_right fun ⟨l, whole, overtakes⟩ =>
    ⟨l, whole, overtakes.later revoked later⟩
  calls l there := (calls l there).trans (spares.calls l there)

/-- No lease is taken from its holder while there is room. -/
theorem eq_of_room (spares : Spares p kept q) (roomy : 0 < p.room) : kept = p.active := by
  rcases spares.order with same | ⟨l, -, overtakes⟩
  · exact same
  · rw [overtakes.overdue.room_eq_zero] at roomy
    cases roomy

theorem trans (first : Spares p q.active q) (roomy : 0 < q.room) (second : Spares q kept t)
    (revoked : q.revoked ⊆ t.revoked) (later : q.environment.Later t.environment) :
    Spares p kept t := by
  obtain rfl := second.eq_of_room roomy
  exact first.later revoked later second.calls

end Spares

/-! ### Searching -/

/-- To find a candidate leaves the leases to their holders, but for an overdue one. -/
theorem spares_candidate {c : Credentials} {out : Except BackendError (Option Lease)}
    (agrees : (p.places []).Agrees) (found : p.candidate b c = (out, q)) :
    Spares p q.active q where
  order := by
    cases found_of_candidate b found with
    | idle | opened | unopened | nothing => exact .inl rfl
    | @overdue oldest rest noneIdle full isHeld late =>
      refine .inr ⟨oldest, isHeld, ⟨noneIdle, full, by simp [isHeld], late⟩,
        List.mem_cons_self, ?_⟩
      exact ((p.environment.record (.reclaimed oldest.connection)).used_reset b
        oldest.connection).journal
  calls := by
    intro l active
    have apart : l.connection ∉ (candidates out).map Lease.connection := by
      intro among
      obtain ⟨l', there, same⟩ := List.mem_map.mp among
      obtain rfl : out = .ok (some l') := by
        match out, there with
        | .ok (some _), there => rw [List.mem_singleton.mp there]
      exact apart_of_candidate agrees found (List.mem_append_right _ active) same.symm
    exact congrArg Standing.calls (standing_found (found_of_candidate b found) apart)

/-- A round leaves the leases to their holders, but for an overdue one. -/
theorem spares_round (agrees : (p.places []).Agrees) (round : Round b r p q) :
    Spares p q.active q := by
  have standing := standing_round agrees round
  obtain ⟨bad, taken, checked, -, -, found, isBad⟩ := round
  have used := (used_of_checked b isBad).trans (checked.used_discard b bad)
  obtain rfl : (taken.usable b bad).2 = checked := congrArg Prod.snd isBad
  have spares : Spares p taken.active taken := spares_candidate agrees found
  exact ⟨(spares.order.imp_right fun ⟨l, whole, overtakes⟩ =>
      ⟨l, whole, overtakes.later (List.subset_cons_self _ _) used.toLater⟩),
    fun l active => congrArg Standing.calls (standing l (List.mem_append_right _ active))⟩

/-- After a round there is room: whatever was turned down took a place. -/
theorem room_of_round (orderly : p.Orderly [] held) (round : Round b r p q) : 0 < q.room := by
  obtain ⟨bad, taken, checked, -, -, found, isBad⟩ := round
  obtain rfl : (taken.usable b bad).2 = checked := congrArg Prod.snd isBad
  have fits := orderly.fits
  change 0 < taken.settings.maxActive - taken.active.length
  apply Nat.sub_pos_of_lt
  cases found_of_candidate b found with
  | idle first =>
    simp only [first, List.length_nil, List.length_cons] at fits ⊢
    omega
  | opened _ room => exact room
  | overdue noneIdle _ isHeld =>
    simp only [isHeld, seize, renew, revoke, List.length_nil, List.length_cons] at fits ⊢
    omega

/-- Rounds leave the leases to their holders, but for an overdue one. -/
theorem spares_rounds {n : Nat} (orderly : p.Orderly [] held) (agrees : (p.places []).Agrees)
    (rounds : Rounds b r n p q) : (q = p ∨ 0 < q.room) ∧ Spares p q.active q := by
  induction rounds with
  | none => exact ⟨.inl rfl, .refl _⟩
  | more first others ih =>
    obtain ⟨there, spares⟩ := ih (orderly.round b first) (agrees.moves (moves_round first))
    have roomy := room_of_round orderly first
    refine ⟨.inr (there.elim (fun same => same ▸ roomy) id), ?_⟩
    exact (spares_round agrees first).trans roomy spares (revoked_rounds others)
      (later_rounds b others)

/-- A search that ends leaves the leases to their holders, but for an overdue one; a lease that it
grants joins them. -/
theorem spares_ending {waited : Bool} {discarded : Nat} {out : Acquired × Pool σ}
    (agrees : (p.places []).Agrees) (ending : Ending b r waited discarded p out) :
    ∃ kept, out.2.active = kept ++ out.1.leases ∧ Spares p kept out.2 := by
  have noted {q t : Pool σ} (spares : Spares p q.active q) (revoked : t.revoked = q.revoked)
      (later : q.environment.Later t.environment)
      (calls : ∀ n, t.environment.calls n = q.environment.calls n) : Spares p q.active t :=
    spares.later (fun _ isOver => revoked ▸ isOver) later fun _ _ => calls _
  cases ending with
  | closed | interrupted =>
    refine ⟨p.active, (List.append_nil _).symm, noted (.refl p) rfl ?_ fun _ => rfl⟩
    exact (p.used_note fun _ => rfl).toLater
  | @refused _ q _ _ found =>
    refine ⟨q.active, (List.append_nil _).symm,
      noted (spares_candidate agrees found) rfl ?_ fun _ => rfl⟩
    exact (q.used_note fun _ => rfl).toLater
  | @waiting q _ _ found =>
    refine ⟨q.active, (List.append_nil _).symm,
      noted (spares_candidate agrees found) rfl ?_ fun _ => rfl⟩
    have noOpening : ∀ n, (Event.parked r.name).opening? n = none := fun _ => rfl
    exact (q.used_note noOpening).toLater
  | granted candidate taken checked _ _ found good =>
    have used := (used_of_checked b good).trans (checked.used_handOut b r candidate)
    obtain ⟨made, last, result, e, -, -, called, handedOut⟩ := called_of_granted r good
    obtain rfl : (taken.usable b candidate).2 = checked := congrArg Prod.snd good
    refine ⟨taken.active, rfl,
      (spares_candidate agrees found).later (List.Subset.refl _) used.toLater ?_⟩
    intro l active
    have apart := apart_of_candidate agrees found (List.mem_append_right _ active)
    rw [handedOut, Environment.calls_handedOut]
    exact congrArg Standing.calls (Environment.standing_called_of_ne called apart)

/-- A search leaves the leases to their holders, in their order and with nothing asked of their
connections, but for an overdue one that it takes before anything else; a lease that it grants joins
them. -/
theorem spares_seek (orderly : p.Orderly [] held) (agrees : (p.places []).Agrees) (r : Request)
    (waited : Bool) (spare discarded : Nat) :
    ∃ kept, (seek b r waited spare discarded p).2.active =
        kept ++ (seek b r waited spare discarded p).1.leases ∧
      Spares p kept (seek b r waited spare discarded p).2 := by
  obtain ⟨n, q, rounds, ending⟩ := rounds_seek b r waited spare discarded p
  obtain ⟨there, spares⟩ := spares_rounds orderly agrees rounds
  rcases ending with ⟨-, ending⟩ | ⟨-, failed⟩
  · obtain ⟨kept, active, last⟩ := spares_ending (agrees.moves (moves_rounds rounds)) ending
    refine ⟨kept, active, ?_⟩
    rcases there with rfl | roomy
    · exact last
    · exact spares.trans roomy last (revoked_ending ending) (later_ending b ending)
  · rw [failed]
    exact ⟨q.active, (List.append_nil _).symm, spares.later (List.Subset.refl _)
      (q.used_note fun _ => rfl).toLater fun _ _ => rfl⟩

/-- An acquire that starts its search finds overdue what was overdue when it came. -/
theorem Starts.overtakes (starts : p.Starts q) (overtakes : q.Overtakes l t) :
    p.Overdue l ∧ l.key ∈ t.revoked ∧
      ∃ later earlier, t.environment.journal =
          later ++ ⟨p.now, .reclaimed l.connection⟩ :: earlier ∧
        p.environment.journal <:+ earlier := by
  obtain ⟨⟨noneIdle, full, oldest, late⟩, revoked, ⟨later, noted⟩⟩ := overtakes
  cases starts with
  | begun | woken =>
    exact ⟨⟨noneIdle, full, oldest, late⟩, revoked, later, _, noted.symm, List.suffix_cons _ _⟩

/-! ### Handing back -/

/-- To hand back a lease leaves the others to their holders. -/
theorem spares_release (b : Backend σ) (orderly : p.Orderly [] held) (isHeld : l ∈ held)
    (active : l' ∈ p.active) (other : l' ≠ l) :
    (p.release b l).active.Sublist p.active ∧ l' ∈ (p.release b l).active ∧
      (p.release b l).environment.calls l'.connection = p.environment.calls l'.connection := by
  by_cases valid : p.IsValid l
  · have isActive : l ∈ p.active := orderly.sound.active_of_held l isHeld valid
    obtain ⟨before, after, whole, rest⟩ := split_dropActive orderly.sound isActive
    have left : (p.release b l).active = before ++ after := (active_release b p l).trans rest
    have apart : l'.connection ≠ l.connection := fun same => other
      (orderly.sound.eq_of_active active isActive same)
    refine ⟨?_, ?_, ?_⟩
    · rw [left, whole]
      exact (List.sublist_cons_self l after).append_left before
    · rw [left]
      rw [whole] at active
      simpa [other] using active
    · obtain ⟨made, called⟩ := called_takeBack b ((p.dropActive l).noteReturn l) l
      rw [release_of_valid b valid, environment_notifyOne, Environment.calls,
        Environment.standing_called_of_ne called apart]
      exact congrArg Standing.calls (Event.Parts.returned.note_of_ne _ apart)
  · rw [release_of_revoked b valid, dropActive_of_revoked orderly.sound valid]
    exact ⟨.refl _, active, rfl⟩

end Pool

namespace Site

variable {σ : Type} {b : Backend σ} {allowed : Site σ → Action σ → Prop} {s t : Site σ}
  {name : String} {l : Lease}

/-- A holder is undisturbed: its handle is to the same lease, which is valid as before; nothing was
asked of the connection; and among the leases that were held before and still are it has the same
place. -/
structure Undisturbed (name : String) (l : Lease) (s t : Site σ) : Prop where
  found : t.handle? name = some l
  valid : t.pool.IsValid l
  calls : t.calls l.connection = s.calls l.connection
  order : ∃ kept joined, t.pool.active = kept ++ joined ∧ kept.Sublist s.pool.active ∧
    l ∈ kept ∧ ∀ l' ∈ joined, l' ∉ s.pool.active

/-- An acquire takes a lease from its holder: the lease was overdue when the acquire came. -/
structure Overtaken (s : Site σ) (a : Action σ) (l : Lease) (t : Site σ) : Prop where
  asks : ∃ credentials, s.credentials? a = some credentials
  overdue : s.pool.Overdue l
  isOver : ¬ t.pool.IsValid l
  noted : ∃ later earlier, t.pool.environment.journal =
      later ++ ⟨s.pool.now, .reclaimed l.connection⟩ :: earlier ∧
    s.pool.environment.journal <:+ earlier

/-- A holder is undisturbed where no lease joins those that are held. -/
theorem undisturbed_of_sublist (orderly : t.Orderly) (there : (name, l) ∈ t.handles)
    (active : l ∈ t.pool.active) (fewer : t.pool.active.Sublist s.pool.active)
    (calls : t.calls l.connection = s.calls l.connection) : Undisturbed name l s t where
  found := handle?_of_mem orderly.names there
  valid := orderly.pool.sound.valid_of_active active
  calls := calls
  order := ⟨_, [], (List.append_nil _).symm, fewer, active, nofun⟩

/-- A search leaves a holder undisturbed, unless its lease is overdue and the search takes it. -/
theorem undisturbed_of_search {a : Action σ} {p : Pool σ} {r : Request} {waited : Bool}
    {spare discarded : Nat} (orderly : s.Orderly) (agrees : s.places.Agrees)
    (orderly' : t.Orderly) (there : (name, l) ∈ t.handles) (active : l ∈ s.pool.active)
    (starts : s.pool.Starts p) (after : t.pool = (Pool.seek b r waited spare discarded p).2)
    (asked : s.credentials? a = some r.credentials) :
    Undisturbed name l s t ∨ s.Overtaken a l t := by
  obtain ⟨kept, order, spares⟩ := Pool.spares_seek (b := b) (starts.orderly orderly.pool)
    (agrees.moves starts.moves) r waited spare discarded
  rw [← after] at order spares
  generalize (Pool.seek b r waited spare discarded p).1.leases = joined at order
  have sameActive := starts.active
  have live : (kept ++ joined).Nodup := by
    have keys := orderly'.pool.sound.distinct.keys
    simp only [Custody.live, Pool.custody, List.nil_append, order, List.map_append] at keys
    rw [← List.map_append] at keys
    exact keys.of_append_right.of_map _
  -- whoever is left alone has the place that it had, and whoever joins was not there before
  have undisturbed (isKept : l ∈ kept) (sub : kept.Sublist s.pool.active)
      (old : ∀ l' ∈ s.pool.active, l' ∈ t.pool.active → l' ∈ kept) : Undisturbed name l s t := by
    have still : l ∈ t.pool.active := order ▸ List.mem_append_left _ isKept
    refine ⟨handle?_of_mem orderly'.names there, orderly'.pool.sound.valid_of_active still,
      (spares.calls l isKept).trans (congrArg Standing.calls (starts.standing _)),
      kept, joined, order, sub, isKept, fun l' joins before => ?_⟩
    have isKept' := old l' before (order ▸ List.mem_append_right _ joins)
    exact List.disjoint_of_nodup_append live isKept' joins
  rcases spares.order with same | ⟨oldest, whole, overtakes⟩
  · rw [sameActive] at same
    exact .inl (undisturbed (same ▸ active) (same ▸ .refl _) fun _ before _ => same ▸ before)
  · obtain ⟨overdue, revoked, noted⟩ := starts.overtakes overtakes
    rw [sameActive] at whole
    by_cases isOldest : l = oldest
    · subst isOldest
      exact .inr ⟨⟨_, asked⟩, overdue, fun valid => valid revoked, noted⟩
    · have remains {l' : Lease} (before : l' ∈ s.pool.active) (other : l' ≠ oldest) :
          l' ∈ kept := by
        rw [whole] at before
        exact (List.mem_cons.mp before).resolve_left other
      refine .inl (undisturbed (remains active isOldest) ?_ fun l' before still => ?_)
      · rw [whole]
        exact List.sublist_cons_self _ _
      · refine remains before fun isOldest' => ?_
        exact orderly'.pool.sound.valid_of_active still (isOldest' ▸ revoked)

/-- The lease behind another handle is of another connection, if both are valid. -/
theorem apart_of_handles {name' : String} {l' : Lease} (orderly : s.Orderly)
    (found : s.handle? name = some l) (found' : s.handle? name' = some l') (other : name' ≠ name)
    (active : l ∈ s.pool.active) :
    l ≠ l' ∧ (s.pool.IsValid l' → l.connection ≠ l'.connection) := by
  have differs : l ≠ l' := by
    rintro rfl
    have keys := orderly.pool.sound.heldKeys
    rw [leases, List.map_map] at keys
    have same := List.inj_on_of_nodup_map keys (mem_handles_of_found found)
      (mem_handles_of_found found') rfl
    exact other (congrArg Prod.fst same).symm
  refine ⟨differs, fun valid same => differs ?_⟩
  have active' : l' ∈ s.pool.active := orderly.active_of_found found' valid
  exact orderly.pool.sound.eq_of_active active active' same

/-- What somebody else does, short of closing everything, leaves a holder undisturbed: its lease is
the same and has the same place among those that are held, and nothing is asked of its connection.
The only exception is an acquire that comes when nothing lies idle, there is no room, and this lease
is the longest-held one and overdue. -/
theorem Reachable.undisturbed_unless_overdue (reach : Reachable b allowed s)
    (found : s.handle? name = some l) (valid : s.pool.IsValid l) (a : Action σ)
    (other : a.handle? ≠ some name) (remains : ¬ a.Closes) :
    Undisturbed name l s (s.act b a).2 ∨ s.Overtaken a l (s.act b a).2 := by
  have orderly := reach.orderly
  have agrees := reach.agrees
  have orderly' : (s.act b a).2.Orderly := orderly.act a
  have there : (name, l) ∈ (s.act b a).2.handles := by
    refine mem_handles_act a ?_ (mem_handles_of_found found)
    rintro rfl
    exact other rfl
  have active : l ∈ s.pool.active := orderly.pool.sound.active_of_held l (mem_leases found) valid
  have step := step_act b s a
  generalize s.act b a = result at step orderly' there
  cases step with
  | rest | lookUp | notifyAll | rouse =>
    exact .inl (undisturbed_of_sublist orderly' there active (.refl _) rfl)
  | outside _ e _ touches =>
    refine .inl (undisturbed_of_sublist orderly' there active (.refl _) ?_)
    rcases touches with same | ⟨name', l', named, found', rfl | ⟨valid', made, called⟩⟩
    · have nothing : e.events = [] ++ s.pool.environment.events := same
      exact congrArg Standing.calls (Environment.standing_append nothing l.connection)
    · rfl
    · have differs : name' ≠ name := fun same => other (same ▸ named)
      have apart := (apart_of_handles orderly found found' differs active).2 valid'
      exact congrArg Standing.calls (Environment.standing_called_of_ne called apart)
  | begin r lookups _ _ _ wanted =>
    exact undisturbed_of_search orderly agrees orderly' there active (.begun r.name)
      (pool_afterAcquire ..) wanted
  | resume w =>
    exact undisturbed_of_search orderly agrees orderly' there active (.woken w)
      (pool_afterAcquire ..) rfl
  | release name' l' found' =>
    have differs : name' ≠ name := fun same => other (congrArg some same)
    have apart := (apart_of_handles orderly found found' differs active).1
    obtain ⟨fewer, still, calls⟩ :=
      Pool.spares_release b orderly.pool (mem_leases found') active apart
    exact .inl (undisturbed_of_sublist orderly' there still fewer calls)
  | close _ _ _ _ _ closes => exact absurd closes remains

/-- Of two holders an acquire takes the connection from the first, whose lease is overdue, and
leaves the second undisturbed. -/
theorem undisturbed_unless_overdue_of_two :
    let s := (new ⟨"db", {}⟩ { maxActive := 2 } {}).run Scripted.backend
      [.get "a", .elapse 5_000_000_000, .get "b", .elapse 16_000_000_000]
    let t := (s.act Scripted.backend (.get "c")).2
    ∃ l l', s.handle? "a" = some l ∧ s.pool.IsValid l ∧ s.handle? "b" = some l' ∧
      s.pool.IsValid l' ∧ (Action.get "c" : Action Scripted).handle? = none ∧
      ¬ (Action.get "c" : Action Scripted).Closes ∧
      s.Overtaken (.get "c") l t ∧ Undisturbed "b" l' s t := by
  intro s t
  have there : (∃ l ∈ s.handle? "a", s.pool.IsValid l ∧ ¬ t.pool.IsValid l) ∧
      ∃ l ∈ s.handle? "b", s.pool.IsValid l ∧ t.pool.IsValid l := by
    decide +kernel
  obtain ⟨⟨l, found, valid, isOver⟩, l', found', valid', stillValid⟩ := there
  have reach : Reachable Scripted.backend (fun _ _ => True) s :=
    ⟨_, _, _, Leads.refl.run _ fun _ _ _ => trivial⟩
  refine ⟨l, l', found, valid, found', valid', rfl, id, ?_, ?_⟩
  · rcases reach.undisturbed_unless_overdue found valid (.get "c") nofun id with
      undisturbed | overtaken
    · exact absurd undisturbed.valid isOver
    · exact overtaken
  · rcases reach.undisturbed_unless_overdue found' valid' (.get "c") nofun id with
      undisturbed | overtaken
    · exact undisturbed
    · exact absurd stillValid overtaken.isOver

end Site

end LeasePool
