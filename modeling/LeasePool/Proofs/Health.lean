import LeasePool.Proofs.Generations
import LeasePool.Proofs.Moments

/-!
# Backends in good health

A backend is in good health as far as a journal tells if every connection could be opened, nothing
that was asked of one failed, and none was found closed that nobody had closed. A pool that meets
only such a backend gives nothing up: it never finds a reason to close a connection, so that none is
ever found closed. Every check of a lease succeeds, every connection that is handed back can be
restored, and a search ends with the first candidate.

## Main definitions

* `Healthy`: nothing was wrong with the backend, say some events.
* `Event.IsCalm`, `Calm`: no connection was closed, turned down or withdrawn, and no acquire failed
  but one that was cancelled.
* `Pool.Smooth`: the ends of a search in good health.

## Main results

* `Pool.usable_of_healthy`, `Pool.restore_of_healthy`: checks succeed, and so does restoring.
* `Pool.smooth_seek`: a search in good health comes to one of these ends.
* `Pool.calm_smooth`, `Pool.calm_release`: it gives nothing up, nor does handing back.
-/

namespace LeasePool

namespace Answered

/-- The answer says that the connection is closed. -/
def SaysClosed : Answered → Prop
  | ⟨.isClosed, closed⟩ => closed = true
  | _ => False

instance decidableSaysClosed : (a : Answered) → Decidable a.SaysClosed
  | ⟨.isClosed, closed⟩ => inferInstanceAs (Decidable (closed = true))
  | ⟨.close, _⟩ | ⟨.rollback, _⟩ | ⟨.autoCommit, _⟩ | ⟨.execute _, _⟩ =>
    inferInstanceAs (Decidable False)

end Answered

namespace Event

/-- The connection that somebody closes. -/
def closed? : Event → Option Nat
  | .asked _ n .close _ => some n
  | _ => none

/-- After earlier events, the latest first, an event shows nothing wrong with the backend: no
connection is refused, no operation fails, and no connection is closed that nobody closed. -/
def Faultless (earlier : List Event) : Event → Prop
  | .unopened .. => False
  | .asked _ n operation answer =>
    Answered.failure? ⟨operation, answer⟩ = none ∧
      (Answered.SaysClosed ⟨operation, answer⟩ → n ∈ earlier.filterMap closed?)
  | _ => True

instance decidableFaultless (earlier : List Event) : (event : Event) →
    Decidable (event.Faultless earlier)
  | .unopened .. => inferInstanceAs (Decidable False)
  | .asked .. => inferInstanceAs (Decidable (_ ∧ (_ → _)))
  | .begun _ | .parked _ | .resumed _ | .handedOut .. | .failed .. | .opened .. | .discarded _
  | .reclaimed _ | .withdrawn _ | .returned _ | .spurned _ => inferInstanceAs (Decidable True)

/-- No connection is closed, turned down or withdrawn, and no acquire fails but one that was
cancelled. -/
def IsCalm : Event → Prop
  | .asked _ _ .close _ | .discarded _ | .withdrawn _ => False
  | .failed _ cause => cause = .interrupted
  | _ => True

end Event

/-- Nothing was wrong with the backend, say some events, the latest first. -/
inductive Healthy : List Event → Prop
  | nil : Healthy []
  | cons {event : Event} {earlier : List Event} (faultless : event.Faultless earlier)
      (before : Healthy earlier) : Healthy (event :: earlier)

theorem healthy_cons {event : Event} {earlier : List Event} :
    Healthy (event :: earlier) ↔ event.Faultless earlier ∧ Healthy earlier :=
  ⟨fun | .cons faultless before => ⟨faultless, before⟩,
    fun ⟨faultless, before⟩ => .cons faultless before⟩

instance decidableHealthy : (events : List Event) → Decidable (Healthy events)
  | [] => .isTrue .nil
  | event :: earlier =>
    have := decidableHealthy earlier
    decidable_of_iff (event.Faultless earlier ∧ Healthy earlier) healthy_cons.symm

/-- Nothing was given up, say some events. -/
def Calm (events : List Event) : Prop := ∀ event ∈ events, event.IsCalm

theorem Healthy.of_suffix {events later : List Event} (healthy : Healthy later)
    (suffix : events <:+ later) : Healthy events := by
  obtain ⟨since, rfl⟩ := suffix
  induction since with
  | nil => exact healthy
  | cons event since ih => exact ih (healthy_cons.mp healthy).2

theorem Calm.of_suffix {events later : List Event} (calm : Calm later) (suffix : events <:+ later) :
    Calm events :=
  fun event there => calm event (suffix.subset there)

theorem Calm.cons {event : Event} {events : List Event} (calm : Calm events)
    (isCalm : event.IsCalm) : Calm (event :: events) :=
  List.forall_mem_cons.mpr ⟨isCalm, calm⟩

/-- Where nothing was given up, nobody closed a connection. -/
theorem Calm.notMem_closed {events : List Event} (calm : Calm events) (n : Nat) :
    n ∉ events.filterMap Event.closed? := by
  intro there
  obtain ⟨event, isEvent, closed⟩ := List.mem_filterMap.mp there
  have isCalm := calm event isEvent
  unfold Event.closed? at closed
  split at closed
  · exact isCalm
  · cases closed

/-! ### Calls -/

/-- A call that does not close a connection is calm. -/
theorem Call.isCalm_event {c : Call} (open' : c.operation ≠ .close) (n : Nat) :
    (c.event n).IsCalm := by
  obtain ⟨party, operation, answer⟩ := c
  cases operation with
  | close => exact absurd rfl open'
  | rollback | autoCommit | isClosed | execute => exact trivial

theorem Resets.noClose {made : List Call} {result : Except BackendError Unit}
    (resets : Resets made result) : ∀ c ∈ made, c.operation ≠ .close := by
  cases resets <;> simp

/-- A reset fails if a call does. -/
theorem Resets.fails {made : List Call} {cause : BackendError}
    (resets : Resets made (.error cause)) :
    ∃ c ∈ made, Answered.failure? ⟨c.operation, c.answer⟩ = some cause := by
  cases resets with
  | unknown | rolledBack => exact ⟨_, List.mem_cons_self, rfl⟩

/-- Who restores a connection does not close it. -/
theorem Restores.noClose {made : List Call} {result : Except BackendError Unit}
    (restores : Restores made result) : ∀ c ∈ made, c.operation ≠ .close := by
  cases restores with
  | closed => simp
  | reset resets =>
    intro c there
    rcases List.mem_append.mp there with inReset | first
    · exact resets.noClose c inReset
    · rw [List.mem_singleton.mp first]
      exact nofun

/-- A check that succeeds does not close the connection. -/
theorem Checks.noClose {made : List Call} (checks : Checks made true) :
    ∀ c ∈ made, c.operation ≠ .close := by
  cases checks with
  | unprobed => simp
  | alive query resets =>
    intro c there
    rcases List.mem_append.mp there with inReset | before
    · exact resets.noClose c inReset
    · simp only [List.mem_cons, List.not_mem_nil, or_false] at before
      rcases before with rfl | rfl <;> exact nofun

namespace Environment

variable {σ : Type} {b : Backend σ} {e e' : Environment σ} {n : Nat} {made : List Call}

theorem Later.events (later : e.Later e') : e.events <:+ e'.events :=
  later.journal.map Entry.event

/-- No connection that was opened is forgotten. -/
theorem Later.opened_le (later : e.Later e') : e.opened.length ≤ e'.opened.length := by
  rw [opened, opened, List.length_reverse, List.length_reverse]
  exact (later.events.filterMap _).length_le

/-- Every call on a connection is in the journal. -/
theorem event_of_calls {c : Call} (there : c ∈ e.calls n) : c.event n ∈ e.events := by
  have among (events : List Event)
      (there : c ∈ (events.foldr (fun event s => s.note n event) ({} : Standing)).calls) :
      c.event n ∈ events := by
    induction events with
    | nil => cases there
    | cons event events ih =>
      rw [List.foldr_cons] at there
      cases event with
      | asked party id operation answer =>
        rw [Standing.note] at there
        split at there
        · rename_i same
          subst same
          rcases List.mem_cons.mp there with rfl | before
          · exact List.mem_cons_self
          · exact List.mem_cons_of_mem _ (ih before)
        · exact List.mem_cons_of_mem _ (ih there)
      | handedOut | reclaimed | withdrawn | returned =>
        rw [Standing.note] at there
        split at there <;> exact List.mem_cons_of_mem _ (ih there)
      | begun | parked | resumed | failed | opened | unopened | discarded | spurned =>
        exact List.mem_cons_of_mem _ (ih there)
  exact among _ there

theorem calm_called (calm : Calm e.events) (noClose : ∀ c ∈ made, c.operation ≠ .close)
    (called : Called n made e e') : Calm e'.events := by
  intro event there
  rw [called, List.mem_append] at there
  rcases there with isCall | before
  · obtain ⟨c, isMade, rfl⟩ := List.mem_map.mp isCall
    exact Call.isCalm_event (noClose c isMade) n
  · exact calm event before

/-- In good health no call fails. -/
theorem failure?_of_healthy (healthy : Healthy e'.events) (called : Called n made e e') {c : Call}
    (isMade : c ∈ made) : Answered.failure? ⟨c.operation, c.answer⟩ = none := by
  obtain ⟨later, earlier, rfl⟩ := List.append_of_mem isMade
  rw [called, List.map_append, List.map_cons, List.append_assoc] at healthy
  exact (healthy_cons.mp (healthy.of_suffix (List.suffix_append _ _))).1.1

theorem not_resets_of_healthy {reset : List Call} {cause : BackendError}
    (healthy : Healthy e'.events) (called : Called n made e e')
    (resets : Resets reset (.error cause)) (among : reset ⊆ made) : False := by
  obtain ⟨c, there, fails⟩ := resets.fails
  rw [failure?_of_healthy healthy called (among there)] at fails
  cases fails

/-- In good health no connection is found closed where nobody closed one. -/
theorem not_closed_of_healthy (healthy : Healthy e'.events) (calm : Calm e.events)
    (called : Called n [⟨.pool, .isClosed, true⟩] e e') : False := by
  rw [called] at healthy
  exact calm.notMem_closed n ((healthy_cons.mp healthy).1.2 rfl)

end Environment

namespace Pool

open Environment (Called)

variable {σ : Type} {b : Backend σ} {p q taken checked : Pool σ} {r : Request} {l : Lease}
  {held : List Lease}

/-! ### Checking and restoring -/

/-- A lease that is valid and has the expected stamp is asked for its connection. -/
theorem asked_usable (valid : p.IsValid l) (stamped : l.fingerprint = p.expected) :
    (p.environment.ask b .pool l.connection .isClosed).2.Later (p.usable b l).2.environment := by
  have refusal : ¬ (l.key ∈ p.revoked ∨ l.fingerprint ≠ p.expected) :=
    not_or.mpr ⟨valid, not_not_intro stamped⟩
  unfold usable Lease.usable
  dsimp only
  rw [if_neg refusal]
  split
  · rename_i asked
    rw [asked]
    exact .refl _
  · rename_i e asked
    rw [asked]
    split
    · exact (e.used_probe b l.connection p.settings.pingQuery).toLater
    · exact .refl _

/-- In good health every lease that is valid and has the expected stamp passes its check. -/
theorem usable_of_healthy (valid : p.IsValid l) (stamped : l.fingerprint = p.expected)
    (calm : Calm p.environment.events) (healthy : Healthy (p.usable b l).2.environment.events) :
    (p.usable b l).1 = true := by
  obtain ⟨made, checks, called⟩ :=
    p.environment.called_usable b l p.settings p.expected p.revoked
  have asked := (asked_usable (b := b) valid stamped).events
  change Called l.connection made p.environment (p.usable b l).2.environment at called
  change Checks made (p.usable b l).1 at checks
  generalize (p.usable b l).1 = good at checks
  cases checks with
  | unprobed | alive => rfl
  | refused =>
    -- at least one question was asked
    rw [called] at asked
    exact absurd asked.length_le (Nat.not_succ_le_self _)
  | closed => exact (Environment.not_closed_of_healthy healthy calm called).elim
  | dead query cause answer =>
    have succeeds := Environment.failure?_of_healthy healthy called
      (List.mem_cons_of_mem _ List.mem_cons_self)
    cases succeeds
  | stuck query resets answer =>
    refine (Environment.not_resets_of_healthy healthy called resets fun c there => ?_).elim
    exact List.mem_cons_of_mem _ (List.mem_append_left _ there)

/-- In good health every connection that is handed back can be restored. -/
theorem restore_of_healthy {e : Environment σ} {n : Nat} (calm : Calm e.events)
    (healthy : Healthy (restore b e n).2.events) : (restore b e n).1 = .ok () := by
  obtain ⟨made, restores, called⟩ := e.called_restore b n
  generalize (restore b e n).1 = result at restores
  cases restores with
  | closed => exact (Environment.not_closed_of_healthy healthy calm called).elim
  | reset resets =>
    cases result with
    | ok => rfl
    | error cause =>
      exact (Environment.not_resets_of_healthy healthy called resets
        (List.subset_append_left _ _)).elim

/-! ### Searching -/

theorem calm_found {c : Credentials} {out : Except BackendError (Option Lease) × Pool σ}
    (calm : Calm p.environment.events) (found : Found b c p out) :
    Calm out.2.environment.events := by
  cases found with
  | idle | nothing => exact calm
  | opened _ _ connected =>
    obtain ⟨answered, rfl⟩ := Prod.mk.inj connected
    simp only [answered]
    exact calm.cons trivial
  | unopened _ _ refused =>
    obtain ⟨answered, rfl⟩ := Prod.mk.inj refused
    simp only [answered]
    exact calm.cons trivial
  | @overdue oldest rest =>
    obtain ⟨made, resets, called⟩ :=
      (p.environment.record (.reclaimed oldest.connection)).called_reset b oldest.connection
    have noted : Calm (p.environment.record (.reclaimed oldest.connection)).events :=
      calm.cons trivial
    exact Environment.calm_called noted resets.noClose called

/-- In good health no candidate is turned down. -/
theorem not_round_of_healthy (orderly : p.Orderly [] held) (stamped : p.Stamped)
    (calm : Calm p.environment.events) (round : Round b r p q)
    (healthy : Healthy q.environment.events) : False := by
  obtain ⟨l, taken, checked, -, -, found, bad⟩ := round
  obtain ⟨valid, stamped⟩ := stamped_of_candidate stamped orderly .none found
  obtain rfl : (taken.usable b l).2 = checked := congrArg Prod.snd bad
  have good := usable_of_healthy (b := b) valid stamped
    (calm_found calm (found_of_candidate b found))
    (healthy.of_suffix (used_discard b _ l).events)
  rw [bad] at good
  cases good

/-- The ends of a search in good health. -/
inductive Smooth (b : Backend σ) (r : Request) (waited : Bool) (discarded : Nat) (p : Pool σ) :
    Acquired × Pool σ → Prop
  /-- The token of the acquire was cancelled. -/
  | interrupted : Smooth b r waited discarded p (p.fail r .interrupted)
  /-- There is nothing to try. -/
  | waiting : Smooth b r waited discarded p (.waiting, p.park r waited discarded)
  /-- The first candidate is good. -/
  | granted {l : Lease} {taken checked : Pool σ}
      (found : Found b r.credentials p (.ok (some l), taken))
      (good : taken.usable b l = (true, checked)) :
      Smooth b r waited discarded p (.granted (checked.handOut b r l).1, (checked.handOut b r l).2)

/-- A search in good health comes to one of these ends, unless the pool is shut down. -/
theorem smooth_seek (orderly : p.Orderly [] held) (stamped : p.Stamped)
    (serving : p.shutDown = false) (calm : Calm p.environment.events) {waited : Bool}
    {spare discarded : Nat}
    (healthy : Healthy (p.seek b r waited spare discarded).2.environment.events) :
    Smooth b r waited discarded p (p.seek b r waited spare discarded) := by
  obtain ⟨k, q, rounds, ending⟩ := rounds_seek b r waited spare discarded p
  cases rounds with
  | none =>
    rcases ending with ⟨-, ending⟩ | ⟨impossible, -⟩
    · generalize p.seek b r waited spare discarded = out at healthy ending ⊢
      cases ending with
      | closed shut =>
        rw [serving] at shut
        cases shut
      | interrupted => exact .interrupted
      | refused _ _ found =>
        cases found_of_candidate b found with
        | unopened _ _ refused =>
          obtain ⟨answered, rfl⟩ := Prod.mk.inj refused
          simp only [answered] at healthy
          exact (healthy_cons.mp (healthy_cons.mp healthy).2).1.elim
      | waiting _ _ found =>
        cases found_of_candidate b found
        exact .waiting
      | granted l taken checked _ _ found good => exact .granted (found_of_candidate b found) good
    · cases impossible
  | more first others =>
    -- the first round cannot have turned down its candidate
    refine (not_round_of_healthy orderly stamped calm first (healthy.of_suffix ?_)).elim
    refine List.IsSuffix.trans (later_rounds b others).events ?_
    rcases ending with ⟨-, ending⟩ | ⟨-, failed⟩
    · exact (later_ending b ending).events
    · rw [failed]
      exact List.suffix_cons _ _

theorem calm_of_checked (calm : Calm p.environment.events) (good : p.usable b l = (true, q)) :
    Calm q.environment.events := by
  obtain ⟨made, checks, called⟩ :=
    p.environment.called_usable b l p.settings p.expected p.revoked
  obtain rfl : (p.usable b l).2 = q := congrArg Prod.snd good
  have passed : (l.usable b p.settings p.expected p.revoked p.environment).1 = true :=
    congrArg Prod.fst good
  rw [passed] at checks
  exact Environment.calm_called calm checks.noClose called

/-- A search in good health gives nothing up. -/
theorem calm_smooth {waited : Bool} {discarded : Nat} {out : Acquired × Pool σ}
    (calm : Calm p.environment.events) (smooth : Smooth b r waited discarded p out) :
    Calm out.2.environment.events := by
  cases smooth with
  | interrupted => exact calm.cons rfl
  | waiting => exact calm.cons trivial
  | @granted l taken checked found good =>
    have passed := calm_of_checked (calm_found calm found) good
    obtain ⟨made, resets, called⟩ := checked.environment.called_reset b l.connection
    have restored := Environment.calm_called passed resets.noClose called
    exact restored.cons trivial

/-- A search in good health opens no connection unless none lies idle. -/
theorem Smooth.next_or_idle {waited : Bool} {discarded : Nat} {out : Acquired × Pool σ}
    (smooth : Smooth b r waited discarded p out) :
    out.2.nextConnection = p.nextConnection ∨ out.2.idle = [] := by
  cases smooth with
  | interrupted | waiting => exact .inl rfl
  | @granted l taken checked found good =>
    obtain rfl : (taken.usable b l).2 = checked := congrArg Prod.snd good
    cases found with
    | idle => exact .inl rfl
    | opened noneIdle => exact .inr noneIdle
    | overdue noneIdle => exact .inr noneIdle

/-! ### Handing back, and what holders do -/

/-- A connection that is handed back in good health goes to the idle ones if there is room. -/
theorem calm_takeBack (calm : Calm p.environment.events) (room : p.HasRoomFor l)
    (healthy : Healthy (p.takeBack b l).environment.events) :
    Calm (p.takeBack b l).environment.events := by
  obtain ⟨made, restores, called⟩ := p.environment.called_restore b l.connection
  unfold takeBack at healthy ⊢
  rw [if_pos room] at healthy ⊢
  split at healthy
  · rename_i e restored
    rw [restored] at called
    exact Environment.calm_called calm restores.noClose called
  · rename_i cause e restored
    have healthy' : Healthy (restore b p.environment l.connection).2.events := by
      rw [restored]
      exact healthy.of_suffix (Environment.used_dispose b e l.connection).events
    have good := restore_of_healthy calm healthy'
    rw [restored] at good
    cases good

/-- Among as many idle connections as may be active there is room for one that is handed back. -/
theorem hasRoomFor_dropActive (orderly : p.Orderly [] held) (stamped : p.Stamped)
    (wide : p.settings.maxActive ≤ p.settings.maxIdle) (active : l ∈ p.active) :
    ((p.dropActive l).noteReturn l).HasRoomFor l := by
  refine ⟨?_, stamped.stamped l (List.mem_append_right _ active)⟩
  have fits := orderly.fits
  have others := List.length_pos_of_mem active
  rw [List.length_nil] at fits
  change p.idle.length < p.settings.maxIdle
  omega

theorem calm_release (orderly : p.Orderly [] held) (stamped : p.Stamped)
    (wide : p.settings.maxActive ≤ p.settings.maxIdle) (isHeld : l ∈ held)
    (calm : Calm p.environment.events) (healthy : Healthy (p.release b l).environment.events) :
    Calm (p.release b l).environment.events := by
  by_cases valid : p.IsValid l
  · have active : l ∈ p.active := orderly.sound.active_of_held l isHeld valid
    rw [release_of_valid b valid, environment_notifyOne] at healthy ⊢
    have noted : Calm ((p.dropActive l).noteReturn l).environment.events := calm.cons trivial
    exact calm_takeBack noted (hasRoomFor_dropActive orderly stamped wide active) healthy
  · rw [release_of_revoked b valid]
    exact calm.cons trivial

/-- To check a lease in good health gives nothing up, whoever holds it. -/
theorem calm_usable (orderly : p.Orderly [] held) (stamped : p.Stamped) (isHeld : l ∈ held)
    (calm : Calm p.environment.events) (healthy : Healthy (p.usable b l).2.environment.events) :
    Calm (p.usable b l).2.environment.events := by
  by_cases valid : p.IsValid l
  · have active : l ∈ p.active := orderly.sound.active_of_held l isHeld valid
    have fingerprint := stamped.stamped l (List.mem_append_right _ active)
    exact calm_of_checked calm (Prod.ext (usable_of_healthy valid fingerprint calm healthy) rfl)
  · rcases p.touches_usable b l with same | ⟨valid', -⟩
    · exact same ▸ calm
    · exact absurd valid' valid

theorem calm_perform {operation : Operation} (spares : operation ≠ .close)
    (calm : Calm p.environment.events) :
    Calm (p.perform b l operation).2.environment.events := by
  unfold perform
  by_cases valid : p.IsValid l
  · rw [if_pos valid]
    have called := p.environment.called_ask b .holder l.connection operation
    have asked := Environment.calm_called calm (by simpa using spares) called
    dsimp only
    split <;> exact asked
  · rw [if_neg valid]
    exact calm

theorem calm_performAll {n : Nat} {operations : List Operation} (spares : .close ∉ operations)
    {e : Environment σ} (calm : Calm e.events) : Calm (performAll b n operations e).2.events := by
  induction operations generalizing e with
  | nil => exact calm
  | cons operation rest ih =>
    rw [List.mem_cons, not_or] at spares
    have called := e.called_ask b .holder n operation
    exact ih spares.2 (Environment.calm_called calm (by simpa using Ne.symm spares.1) called)

theorem calm_borrow {operations : List Operation} (spares : .close ∉ operations)
    (calm : Calm p.environment.events) :
    Calm (p.borrow b l operations).2.environment.events := by
  unfold borrow
  by_cases valid : p.IsValid l
  · rw [if_pos valid]
    exact calm_performAll spares calm
  · rw [if_neg valid]
    exact calm

end Pool

end LeasePool
