import LeasePool.Proofs.Bookkeeping
import LeasePool.Proofs.Deeds
import LeasePool.Proofs.Moments

/-!
# What the stamps of a lease tell

A lease carries stamps: when its connection was opened, when it was last handed out, and whether it
was handed out at all. A connection may go through many leases, since it gets a new one whenever it
is handed back or taken from its holder, and the stamps go from one lease to the next. So they tell
the history of the connection, as the journal has it, and not only that of the lease.

## Main definitions

* `Pool.lastHandOut`: when a connection was last handed out, and to whom, says the journal.
* `Pool.Recalls`: the stamps of a lease agree with the journal.
* `Site.Remembers`: the stamps of all leases do, and the last to whom a connection was handed out is
  the one who holds a valid lease of it.

## Main results

* `Pool.recalls_candidate`: the stamps of whatever a search can try agree with the journal.
* `Site.Reachable.remembers`: at every reachable site the stamps agree with the journal.
-/

namespace LeasePool

/-- The connection that was handed out. -/
@[simp] def Event.handedOut? : Event → Option Nat
  | .handedOut _ n => some n
  | _ => none

namespace Pool

open Ledger

variable {σ : Type} {b : Backend σ} {p q : Pool σ} {r : Request} {l : Lease} {held : List Lease}
  {n : Nat}

/-! ### The last hand-out -/

/-- The entry that tells when a connection was last handed out, and to whom. -/
def lastHandOut (p : Pool σ) (n : Nat) : Option Entry := latest Event.handedOut? n p.decisions

theorem lastHandOut_congr (same : q.decisions = p.decisions) (n : Nat) :
    q.lastHandOut n = p.lastHandOut n := by
  rw [lastHandOut, lastHandOut, same]

/-- An entry that tells of no hand-out of the connection does not matter. -/
theorem lastHandOut_note {entry : Entry} (entries : q.decisions = entry :: p.decisions)
    (other : entry.event.handedOut? ≠ some n) : q.lastHandOut n = p.lastHandOut n := by
  rw [lastHandOut, entries]
  exact latest_cons_of_ne other p.decisions

theorem lastHandOut_found {c : Credentials} {out : Except BackendError (Option Lease) × Pool σ}
    (found : Found b c p out) (n : Nat) : out.2.lastHandOut n = p.lastHandOut n := by
  cases found with
  | idle | nothing => rfl
  | opened _ _ connected => exact lastHandOut_congr (Environment.decisions_connect b connected) n
  | unopened _ _ refused => exact lastHandOut_congr (Environment.decisions_connect b refused) n
  | overdue => exact lastHandOut_note (p.decisions_seize b _ _) nofun

theorem lastHandOut_of_checked {good : Bool} (isChecked : p.usable b l = (good, q)) (n : Nat) :
    q.lastHandOut n = p.lastHandOut n :=
  lastHandOut_congr (decisions_of_checked isChecked) n

theorem lastHandOut_round (round : Round b r p q) (n : Nat) :
    q.lastHandOut n = p.lastHandOut n := by
  obtain ⟨l, taken, checked, -, -, found, bad⟩ := round
  rw [lastHandOut_note (checked.decisions_discard b l) nofun, lastHandOut_of_checked bad,
    ← lastHandOut_found (found_of_candidate b found)]

theorem lastHandOut_rounds {k : Nat} (rounds : Rounds b r k p q) (n : Nat) :
    q.lastHandOut n = p.lastHandOut n :=
  rounds.keeps b (P := fun t => t.lastHandOut n = p.lastHandOut n)
    (fun _ _ round before => (lastHandOut_round round n).trans before) rfl

/-- Whoever gets a connection is the last to whom it was handed out. -/
theorem lastHandOut_handOut (b : Backend σ) (p : Pool σ) (r : Request) (l : Lease) :
    (p.handOut b r l).2.lastHandOut l.connection =
      some ⟨(p.handOut b r l).1.lastUsedAt, .handedOut r.name l.connection⟩ := by
  rw [lastHandOut, decisions_handOut, latest_cons]
  exact if_pos rfl

theorem lastHandOut_handOut_of_ne (b : Backend σ) (p : Pool σ) (r : Request)
    (other : l.connection ≠ n) : (p.handOut b r l).2.lastHandOut n = p.lastHandOut n :=
  lastHandOut_note (p.decisions_handOut b r l) fun same => other (Option.some.inj same)

/-- A search hands out no connection but the one that it grants. -/
theorem lastHandOut_seek {waited : Bool} {spare discarded : Nat}
    (other : ∀ l, (seek b r waited spare discarded p).1 = .granted l → l.connection ≠ n) :
    (seek b r waited spare discarded p).2.lastHandOut n = p.lastHandOut n := by
  obtain ⟨k, q, rounds, ending⟩ := rounds_seek b r waited spare discarded p
  rw [← lastHandOut_rounds rounds n]
  generalize seek b r waited spare discarded p = out at other ending
  rcases ending with ⟨-, ending⟩ | ⟨-, rfl⟩
  · cases ending with
    | closed | interrupted => exact lastHandOut_note rfl nofun
    | @refused _ t _ _ found =>
      rw [← lastHandOut_found (found_of_candidate b found)]
      exact lastHandOut_note rfl nofun
    | @waiting t _ _ found =>
      rw [← lastHandOut_found (found_of_candidate b found)]
      exact lastHandOut_note (p := t) rfl nofun
    | granted l taken checked _ _ found good =>
      have apart : l.connection ≠ n := other (checked.handOut b r l).1 rfl
      have handed := lastHandOut_handOut_of_ne b checked r apart
      rw [lastHandOut_of_checked good] at handed
      exact handed.trans (lastHandOut_found (found_of_candidate b found) n)
  · exact lastHandOut_note rfl nofun

theorem lastHandOut_of_granted {waited : Bool} {spare discarded : Nat}
    (granted : (seek b r waited spare discarded p).1 = .granted l) :
    (seek b r waited spare discarded p).2.lastHandOut l.connection =
      some ⟨l.lastUsedAt, .handedOut r.name l.connection⟩ := by
  obtain ⟨k, q, -, ending⟩ := rounds_seek b r waited spare discarded p
  generalize seek b r waited spare discarded p = out at granted ending
  rcases ending with ⟨-, ending⟩ | ⟨-, rfl⟩
  · cases ending with
    | granted candidate taken checked =>
      obtain rfl := Acquired.granted.inj granted
      exact lastHandOut_handOut b checked r candidate
    | closed | interrupted | refused | waiting => cases granted
  · cases granted

theorem lastHandOut_release (b : Backend σ) (p : Pool σ) (l : Lease) (n : Nat) :
    (p.release b l).lastHandOut n = p.lastHandOut n := by
  refine lastHandOut_note (p.decisions_release b l) ?_
  simp only
  split <;> exact nofun

theorem lastHandOut_closeAll (b : Backend σ) (p : Pool σ) (n : Nat) :
    (p.closeAll b).lastHandOut n = p.lastHandOut n := by
  obtain ⟨since, entries, events⟩ := p.decisions_closeAll b
  rw [lastHandOut, entries, latest, List.find?_append, List.find?_eq_none.mpr, Option.none_or]
  · rfl
  · intro entry there
    -- all that is noted is that leases were taken from their holders
    have isEvent := List.mem_map_of_mem (f := Entry.event) there
    rw [events] at isEvent
    obtain ⟨l, -, same⟩ := List.mem_map.mp isEvent
    rw [← same]
    simp

theorem Starts.lastHandOut (starts : p.Starts q) (n : Nat) :
    q.lastHandOut n = p.lastHandOut n := by
  cases starts with
  | begun => exact lastHandOut_note rfl nofun
  | woken w =>
    have noted : (p.wake w).decisions = ⟨p.now, .resumed w.request.name⟩ :: p.decisions := rfl
    exact lastHandOut_note noted nofun

theorem Starts.revoked (starts : p.Starts q) : q.revoked = p.revoked := by
  cases starts <;> rfl

/-! ### Stamps that agree with the journal -/

/-- The stamps of a lease agree with the journal: when its connection was opened, and when it was
last handed out, if it was. -/
structure Recalls (p : Pool σ) (l : Lease) : Prop where
  opened : ∃ endpoint credentials,
    ⟨l.openedAt, .opened l.connection endpoint credentials⟩ ∈ p.environment.journal
  unlent : l.fresh = true → p.lastHandOut l.connection = none
  lent : l.fresh = false → ∃ name,
    p.lastHandOut l.connection = some ⟨l.lastUsedAt, .handedOut name l.connection⟩

theorem Recalls.later (recalls : p.Recalls l) (later : p.environment.Later q.environment)
    (same : q.lastHandOut l.connection = p.lastHandOut l.connection) : q.Recalls l where
  opened := by
    obtain ⟨endpoint, credentials, there⟩ := recalls.opened
    exact ⟨endpoint, credentials, later.journal.subset there⟩
  unlent fresh := same.trans (recalls.unlent fresh)
  lent used := by
    rw [same]
    exact recalls.lent used

/-- The stamps of a lease that was handed out go on to the next lease of the connection. -/
theorem Recalls.renewed (recalls : p.Recalls l) (used : l.fresh = false) (key : Nat) :
    p.Recalls (l.renewed key) where
  opened := recalls.opened
  unlent := nofun
  lent _ := recalls.lent used

/-- The stamps of the leases of a pool agree with its journal, each of which was handed out; and no
connection was that has not been opened yet. -/
structure Remembers (p : Pool σ) : Prop where
  recalls : ∀ l ∈ p.leases, p.Recalls l
  used : ∀ l ∈ p.leases, l.fresh = false
  unlent : ∀ n, p.nextConnection ≤ n → p.lastHandOut n = none

/-- Where nothing is handed out, and each lease is one that there was or comes after one of the same
connection, the stamps still agree. -/
theorem Remembers.later (remembers : p.Remembers) (later : p.environment.Later q.environment)
    (same : ∀ n, q.lastHandOut n = p.lastHandOut n) (next : p.nextConnection ≤ q.nextConnection)
    (leases : ∀ l ∈ q.leases, l ∈ p.leases ∨ ∃ l' ∈ p.leases, ∃ key, l = l'.renewed key) :
    q.Remembers := by
  have stem : ∀ l ∈ q.leases, p.Recalls l ∧ l.fresh = false := by
    intro l there
    rcases leases l there with before | ⟨l', before, key, rfl⟩
    · exact ⟨remembers.recalls l before, remembers.used l before⟩
    · exact ⟨(remembers.recalls l' before).renewed (remembers.used l' before) key, rfl⟩
  refine ⟨fun l there => (stem l there).1.later later (same _), fun l there => (stem l there).2,
    fun n isNew => ?_⟩
  rw [same]
  exact remembers.unlent n (Nat.le_trans next isNew)

theorem Starts.remembers (starts : p.Starts q) (remembers : p.Remembers) : q.Remembers :=
  remembers.later starts.used.toLater starts.lastHandOut
    (Nat.le_of_eq starts.nextConnection.symm) fun _ there => .inl (starts.leases ▸ there)

/-- The stamps of whatever a search can try agree with the journal. -/
theorem recalls_candidate {c : Credentials} {out : Except BackendError (Option Lease)}
    (remembers : p.Remembers) (found : p.candidate b c = (out, q)) :
    q.Remembers ∧ ∀ l ∈ candidates out, q.Recalls l := by
  have later := later_of_found b found
  have fewer := (fewer_candidate found).1
  have same : ∀ n, q.lastHandOut n = p.lastHandOut n :=
    lastHandOut_found (found_of_candidate b found)
  refine ⟨remembers.later later same fewer.next_le fun l there => .inl (fewer.leases there),
    fun l inHand => ?_⟩
  cases found_of_candidate b found with
  | idle isFirst =>
    obtain rfl := List.mem_singleton.mp inHand
    exact (remembers.recalls l (by simp [leases, isFirst])).later later (same _)
  | @opened e _ _ connected =>
    obtain rfl := List.mem_singleton.mp inHand
    refine ⟨⟨p.source.endpoint, c, ?_⟩, fun _ => ?_,
      fun used => absurd used Bool.false_ne_true.symm⟩
    · have there : (⟨e.clock, .opened p.nextConnection p.source.endpoint c⟩ : Entry) ∈ e.deeds := by
        rw [Environment.deeds_connect b connected]
        exact List.mem_cons_self
      exact List.mem_of_mem_filter there
    · exact (same _).trans (remembers.unlent _ (Nat.le_refl _))
  | @overdue oldest rest _ _ isHeld =>
    obtain rfl := List.mem_singleton.mp inHand
    -- the lease that is taken from its holder was handed out to him
    have before : oldest ∈ p.leases := by simp [leases, isHeld]
    exact ((remembers.recalls oldest before).renewed (remembers.used oldest before) _).later later
      (same _)
  | unopened | nothing => cases inHand

theorem Remembers.round (remembers : p.Remembers) (round : Round b r p q) : q.Remembers :=
  remembers.later (later_round b round) (lastHandOut_round round) (fewer_round round).next_le
    fun _ there => .inl ((fewer_round round).leases there)

theorem Remembers.rounds {k : Nat} (remembers : p.Remembers) (rounds : Rounds b r k p q) :
    q.Remembers :=
  rounds.keeps b (fun _ _ round before => Remembers.round before round) remembers

theorem Recalls.checked {good : Bool} (recalls : p.Recalls l)
    (isChecked : p.usable b l = (good, q)) : q.Recalls l :=
  recalls.later (used_of_checked b isChecked).toLater (lastHandOut_of_checked isChecked _)

theorem Remembers.checked {good : Bool} (remembers : p.Remembers)
    (isChecked : p.usable b l = (good, q)) : q.Remembers := by
  have later := (used_of_checked b isChecked).toLater
  have same := lastHandOut_of_checked isChecked
  have fewer := fewer_of_checked isChecked
  exact remembers.later later same fewer.next_le fun l there => .inl (fewer.leases there)

/-- A lease that is handed out is stamped anew, and the others keep their stamps. -/
theorem Remembers.handOut (remembers : p.Remembers) (recalls : p.Recalls l)
    (orderly : p.Orderly [l] held) (r : Request) : (p.handOut b r l).2.Remembers := by
  have later := (p.used_handOut b r l).toLater
  have connections := orderly.sound.distinct.connections
  have apart : ∀ l' ∈ p.leases, l.connection ≠ l'.connection := by
    intro l' there same
    simp only [Custody.live, List.singleton_append, List.map_cons, List.nodup_cons] at connections
    exact connections.1 (same ▸ List.mem_map_of_mem there)
  -- the lease that is handed out comes last of those that are held
  have there {l' : Lease} (among : l' ∈ (p.handOut b r l).2.leases) :
      l' ∈ p.leases ∨ l' = (p.handOut b r l).1 := by
    simp only [leases, Pool.handOut, List.mem_append, List.mem_singleton] at among ⊢
    tauto
  refine ⟨fun l' among => ?_, fun l' among => ?_, fun n isNew => ?_⟩
  · rcases there among with before | rfl
    · exact (remembers.recalls l' before).later later
        (lastHandOut_handOut_of_ne b p r (apart l' before))
    · obtain ⟨endpoint, credentials, opened⟩ := recalls.opened
      exact ⟨⟨endpoint, credentials, later.journal.subset opened⟩,
        fun fresh => absurd fresh Bool.false_ne_true,
        fun _ => ⟨r.name, lastHandOut_handOut b p r l⟩⟩
  · rcases there among with before | rfl
    · exact remembers.used l' before
    · rfl
  · have old : l.connection < p.nextConnection :=
      orderly.sound.distinct.connection_lt l (by simp [Custody.live])
    have other : l.connection ≠ n := Nat.ne_of_lt (Nat.lt_of_lt_of_le old isNew)
    rw [lastHandOut_handOut_of_ne b p r other]
    exact remembers.unlent n isNew

theorem Remembers.seek (remembers : p.Remembers) (orderly : p.Orderly [] held) (r : Request)
    (waited : Bool) (spare discarded : Nat) :
    (seek b r waited spare discarded p).2.Remembers := by
  have later := later_seek b r waited spare discarded p
  have next := (moves_seek b r waited spare discarded p).course.next_le
  have dealt := dealt_seek b r waited spare discarded p
  -- where nothing is granted nothing is handed out
  have kept (none : ∀ l, (Pool.seek b r waited spare discarded p).1 ≠ .granted l) :
      (Pool.seek b r waited spare discarded p).2.Remembers := by
    refine remembers.later later (fun n => lastHandOut_seek fun l granted => ?_) next fun l there =>
      .inl ((dealt.others l there).resolve_right (none l))
    exact absurd granted (none l)
  obtain ⟨k, q, rounds, ending⟩ := rounds_seek b r waited spare discarded p
  have atLast := remembers.rounds rounds
  have orderly' : q.Orderly [] held :=
    rounds.keeps b (fun _ _ round before => Orderly.round b before round) orderly
  generalize Pool.seek b r waited spare discarded p = out at ending kept
  rcases ending with ⟨-, ending⟩ | ⟨-, rfl⟩
  · cases ending with
    | closed | interrupted | refused | waiting => exact kept nofun
    | granted l taken checked _ _ found good =>
      obtain ⟨rest, recalls⟩ := recalls_candidate atLast found
      have inHand : taken.Orderly [l] held := orderly'.candidate b found
      exact (rest.checked good).handOut ((recalls l List.mem_cons_self).checked good)
        (inHand.usable b good) r
  · exact kept nofun

/-! ### Handing back -/

/-- A lease that is handed back leaves the others, and perhaps one that comes after it. -/
theorem leases_takeBack (b : Backend σ) (p : Pool σ) (l : Lease) :
    ∀ l' ∈ (p.takeBack b l).leases, l' ∈ p.leases ∨ l' = l.renewed p.nextKey := by
  unfold takeBack
  split
  · split
    · intro l' there
      simp only [leases, shelve, renew, revoke, List.mem_append, List.mem_singleton] at there ⊢
      tauto
    · exact fun l' there => .inl there
  · exact fun l' there => .inl there

theorem Remembers.release (remembers : p.Remembers) (b : Backend σ) (orderly : p.Orderly [] held)
    (isHeld : l ∈ held) : (p.release b l).Remembers := by
  refine remembers.later (used_release b p l).toLater (lastHandOut_release b p l)
    (Nat.le_of_eq (nextConnection_release b p l).symm) fun l' there => ?_
  have kept : (p.dropActive l).leases ⊆ p.leases :=
    List.append_subset.mpr ⟨List.subset_append_left _ _,
      List.Subset.trans List.eraseP_subset (List.subset_append_right _ _)⟩
  by_cases valid : p.IsValid l
  · -- to wake somebody changes no lease
    have same : (p.release b l).leases = (((p.dropActive l).noteReturn l).takeBack b l).leases := by
      have custody := custody_notifyOne (((p.dropActive l).noteReturn l).takeBack b l)
      rw [release_of_valid b valid, leases, leases]
      exact congrArg₂ _ (congrArg Custody.idle custody) (congrArg Custody.active custody)
    rw [same] at there
    rcases leases_takeBack b _ l l' there with before | isRenewed
    · exact .inl (kept before)
    · exact .inr ⟨l, List.mem_append_right _ (orderly.sound.active_of_held l isHeld valid), _,
        isRenewed⟩
  · rw [release_of_revoked b valid] at there
    exact .inl (kept there)

end Pool

namespace Site

variable {σ : Type} {b : Backend σ} {allowed : Site σ → Action σ → Prop} {s t : Site σ}

/-! ### Stamps at a site -/

/-- The stamps of all leases agree with the journal, also of those that were revoked; and the last to
whom a connection was handed out is the one who holds a valid lease of it. -/
structure Remembers (s : Site σ) : Prop where
  pool : s.pool.Remembers
  opened : ∀ l ∈ s.leases, ∃ endpoint credentials,
    ⟨l.openedAt, .opened l.connection endpoint credentials⟩ ∈ s.pool.environment.journal
  lent : ∀ name l, (name, l) ∈ s.handles → s.pool.IsValid l →
    s.pool.lastHandOut l.connection = some ⟨l.lastUsedAt, .handedOut name l.connection⟩

theorem remembers_new (source : DataSource) (settings : Settings) (backend : σ) :
    (new source settings backend).Remembers where
  pool := ⟨fun _ there => absurd there List.not_mem_nil, fun _ there => absurd there List.not_mem_nil,
    fun _ _ => rfl⟩
  opened _ there := absurd there List.not_mem_nil
  lent _ _ there := absurd there List.not_mem_nil

/-- Where nothing is handed out and no handle is new, the handles agree with the journal as
before. -/
theorem Remembers.later (remembers : s.Remembers) (pool : t.pool.Remembers)
    (later : s.pool.environment.Later t.pool.environment) (handles : t.handles ⊆ s.handles)
    (revoked : s.pool.revoked ⊆ t.pool.revoked)
    (same : ∀ n, t.pool.lastHandOut n = s.pool.lastHandOut n) : t.Remembers where
  pool := pool
  opened l there := by
    obtain ⟨endpoint, credentials, opened⟩ := remembers.opened l (List.map_subset _ handles there)
    exact ⟨endpoint, credentials, later.journal.subset opened⟩
  lent name l there valid := by
    rw [same]
    exact remembers.lent name l (handles there) fun isOver => valid (revoked isOver)

theorem remembers_of_search {p : Pool σ} {r : Request} {waited : Bool} {spare discarded : Nat}
    (remembers : s.Remembers) (orderly : s.pool.Orderly [] s.leases) (starts : s.pool.Starts p)
    (orderly' : (s.afterAcquire r.name (Pool.seek b r waited spare discarded p)).2.Orderly) :
    (s.afterAcquire r.name (Pool.seek b r waited spare discarded p)).2.Remembers := by
  have begun : p.Remembers := starts.remembers remembers.pool
  have pool := begun.seek (b := b) (starts.orderly orderly) r waited spare discarded
  have later := starts.used.toLater.trans (Pool.later_seek b r waited spare discarded p)
  have revoked : s.pool.revoked ⊆ (Pool.seek b r waited spare discarded p).2.revoked := by
    rw [← starts.revoked]
    exact Pool.revoked_seek b r waited spare discarded p
  have dealt := Pool.dealt_seek b r waited spare discarded p
  have handed (l : Lease) (granted : (Pool.seek b r waited spare discarded p).1 = .granted l) :=
    Pool.lastHandOut_of_granted granted
  have others (n : Nat) (other : ∀ l, (Pool.seek b r waited spare discarded p).1 = .granted l →
    l.connection ≠ n) := Pool.lastHandOut_seek other
  generalize Pool.seek b r waited spare discarded p = out at *
  obtain ⟨acquired, q⟩ := out
  cases acquired with
  | failed | waiting =>
    exact remembers.later pool later (List.Subset.refl _) revoked fun n =>
      (others n nofun).trans (starts.lastHandOut n)
  | granted l =>
    have active : l ∈ q.active := (dealt.granted l rfl).1
    -- the new lease is in nobody else's hands
    have keys := (List.nodup_cons.mp orderly'.pool.sound.heldKeys).1
    refine ⟨pool, fun l' there => ?_, fun name l' there valid => ?_⟩
    · rcases List.mem_cons.mp there with rfl | before
      · exact (pool.recalls l' (List.mem_append_right _ active)).opened
      · obtain ⟨endpoint, credentials, opened⟩ := remembers.opened l' before
        exact ⟨endpoint, credentials, later.journal.subset opened⟩
    · rcases List.mem_cons.mp there with isNew | before
      · obtain ⟨rfl, rfl⟩ := Prod.mk.inj isNew
        exact handed l' rfl
      · -- two valid leases are of two connections
        have isHeld : l' ∈ s.leases := List.mem_map_of_mem (f := Prod.snd) before
        have active' : l' ∈ q.active :=
          orderly'.pool.sound.active_of_held l' (List.mem_cons_of_mem l isHeld) valid
        have apart : l.connection ≠ l'.connection := by
          intro same
          obtain rfl := orderly'.pool.sound.eq_of_active active active' same
          exact keys (List.mem_map_of_mem isHeld)
        have known := remembers.lent name l' before fun isOver => valid (revoked isOver)
        refine (others l'.connection fun l'' granted => ?_).trans
          ((starts.lastHandOut _).trans known)
        obtain rfl := Acquired.granted.inj granted
        exact apart

theorem Remembers.act (remembers : s.Remembers) (orderly : s.Orderly) (a : Action σ) :
    (s.act b a).2.Remembers := by
  have orderly' : (s.act b a).2.Orderly := orderly.act a
  have later := later_act (b := b) s a
  have revoked := revoked_act (b := b) s a
  have step := step_act b s a
  generalize s.act b a = result at *
  cases step with
  | rest | lookUp => exact ⟨remembers.pool, remembers.opened, remembers.lent⟩
  | notifyAll | rouse =>
    have same : ∀ n, Pool.lastHandOut _ n = s.pool.lastHandOut n := fun _ => rfl
    exact remembers.later (remembers.pool.later later same (Nat.le_refl _) fun _ => .inl) later
      (List.Subset.refl _) revoked same
  | outside _ e used touches =>
    have same : ∀ n, Pool.lastHandOut { s.pool with environment := e } n = s.pool.lastHandOut n :=
      Pool.lastHandOut_congr (decisions_of_touches used touches)
    exact remembers.later (remembers.pool.later later same (Nat.le_refl _) fun _ => .inl) later
      (List.Subset.refl _) revoked same
  | begin r lookups =>
    have begins : Remembers { s with lookups } := ⟨remembers.pool, remembers.opened, remembers.lent⟩
    exact remembers_of_search begins orderly.pool (.begun r.name) orderly'
  | resume w => exact remembers_of_search remembers orderly.pool (.woken w) orderly'
  | release name l found =>
    have isHeld := mem_leases found
    exact remembers.later (remembers.pool.release b orderly.pool isHeld) later
      List.filter_sublist.subset revoked (Pool.lastHandOut_release b s.pool l)
  | close source settings shutDown =>
    have same := Pool.lastHandOut_closeAll b { s.pool with source, settings, shutDown }
    have none : (Pool.closeAll b { s.pool with source, settings, shutDown }).leases = [] :=
      Pool.leases_closeAll b _
    have next := (Pool.moves_closeAll b { s.pool with source, settings, shutDown }).course.next_le
    refine remembers.later (remembers.pool.later later same next fun l there => ?_) later
      (List.Subset.refl _) revoked same
    rw [none] at there
    cases there

/-- At every reachable site the stamps of all leases agree with the journal. -/
theorem Reachable.remembers (reach : Reachable b allowed s) : s.Remembers :=
  reach.keepsOrderly remembers_new fun _ a _ orderly remembers => remembers.act orderly a

end Site

end LeasePool
