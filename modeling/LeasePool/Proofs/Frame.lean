import LeasePool.Pool.Change
import LeasePool.Pool.Handle
import LeasePool.Pool.Release
import LeasePool.Pool.Turn
import LeasePool.Proofs.Calls
import LeasePool.Proofs.Surroundings
import Mathlib.Data.List.Nodup

/-!
# What operations on a pool leave alone

A search finds leases and hands them out. It changes neither the terms on which the pool works nor
who waits, except that it may itself end with a wait; and what lies outside the pool only moves on.
Handing a lease back changes the terms as little, and may signal one who waits.

## Main definitions

* `Pool.Terms`: what a search goes by and does not change.
* `Pool.Touches`: nothing was noted but calls on the connection of a lease, which is valid.

## Main results

* `Environment.filter_of_called`: calls on a connection leave alone the rest of the journal.
* `Pool.perform_outside`, `Pool.borrow_outside`: using a connection changes nothing of the pool, and
  calls are made on that connection alone.
* `Pool.terms_seek`, `Pool.later_seek`: a search keeps the terms, and time goes on.
* `Pool.terms_release`, `Pool.used_release`: so does handing back, which opens no connection.
* `Pool.waiters_seek`, `Pool.waiters_release`, `Pool.waiters_closeAll`: who waits.
* `Pool.terms_clear`, `Pool.used_clear`: closing everything brings the expectation up to date, and
  opens no connection.
-/

namespace LeasePool

namespace Environment

variable {σ : Type} {e e' : Environment σ} {n : Nat} {made : List Call}

/-- Calls on a connection leave alone what the journal says of anything else. -/
theorem filter_of_called (keep : Event → Bool) (other : ∀ n c, keep (Call.event n c) = false)
    (later : e.Later e') (called : Called n made e e') :
    (e'.journal.filter fun entry => keep entry.event) =
      e.journal.filter fun entry => keep entry.event := by
  obtain ⟨since, journal⟩ := later.journal
  have events : since.map Entry.event = made.map (Call.event n) := by
    unfold Called events at called
    rw [← journal, List.map_append] at called
    exact List.append_cancel_right called
  have nothing : since.filter (fun entry => keep entry.event) = [] := by
    refine List.filter_eq_nil_iff.mpr fun entry there => ?_
    obtain ⟨c, -, isCall⟩ := List.mem_map.mp (events ▸ List.mem_map_of_mem there)
    simp [← isCall, other]
  rw [← journal, List.filter_append, nothing]
  rfl

end Environment

namespace Pool

variable {σ : Type}

/-- What a search goes by and does not change. -/
structure Terms where
  settings : Settings
  source : DataSource
  expected : Fingerprint
  shutDown : Bool
  heard : List Nat

/-- The terms on which a pool works. -/
def terms (p : Pool σ) : Terms := ⟨p.settings, p.source, p.expected, p.shutDown, p.heard⟩

variable (b : Backend σ) {p q : Pool σ} {l : Lease} {r : Request}

theorem source_of_terms (terms : q.terms = p.terms) : q.source = p.source :=
  congrArg Terms.source terms

theorem expected_of_terms (terms : q.terms = p.terms) : q.expected = p.expected :=
  congrArg Terms.expected terms

theorem heard_of_terms (terms : q.terms = p.terms) : q.heard = p.heard :=
  congrArg Terms.heard terms

theorem shutDown_of_terms (terms : q.terms = p.terms) : q.shutDown = p.shutDown :=
  congrArg Terms.shutDown terms

/-! ### Checking, closing and handing out -/

theorem used_usable (p : Pool σ) (l : Lease) : p.environment.Used (p.usable b l).2.environment :=
  l.used_usable b p.settings p.expected p.revoked p.environment

theorem used_of_checked {good : Bool} (checked : p.usable b l = (good, q)) :
    p.environment.Used q.environment := by
  have used := p.used_usable b l
  rwa [checked] at used

theorem terms_of_checked {good : Bool} (checked : p.usable b l = (good, q)) :
    q.terms = p.terms := by
  obtain rfl : (p.usable b l).2 = q := congrArg Prod.snd checked
  rfl

theorem used_destroy (p : Pool σ) (l : Lease) : p.environment.Used (p.destroy b l).environment :=
  p.environment.used_dispose b l.connection

theorem used_discard (p : Pool σ) (l : Lease) : p.environment.Used (p.discard b l).environment :=
  (Environment.used_record _ fun _ => rfl).trans (Environment.used_dispose b _ l.connection)

theorem used_handOut (p : Pool σ) (r : Request) (l : Lease) :
    p.environment.Used (p.handOut b r l).2.environment :=
  (p.environment.used_reset b l.connection).trans (Environment.used_record _ fun _ => rfl)

theorem used_note (p : Pool σ) {event : Event} (other : ∀ n, event.opening? n = none) :
    p.environment.Used (p.record event).environment :=
  p.environment.used_record other

theorem used_wake (p : Pool σ) (w : Waiter) : p.environment.Used (p.wake w).environment :=
  p.used_note fun _ => rfl

theorem used_seize (p : Pool σ) (oldest : Lease) (rest : List Lease) :
    p.environment.Used (p.seize b oldest rest).2.environment :=
  (Environment.used_record _ fun _ => rfl).trans (Environment.used_reset b _ oldest.connection)

/-- Nothing was noted but calls on the connection of a lease, and none if the lease was revoked. -/
def Touches (p : Pool σ) (l : Lease) (e : Environment σ) : Prop :=
  e = p.environment ∨ p.IsValid l ∧ ∃ made, Environment.Called l.connection made p.environment e

theorem touches_usable (p : Pool σ) (l : Lease) : p.Touches l (p.usable b l).2.environment := by
  by_cases valid : p.IsValid l
  · obtain ⟨made, -, called⟩ :=
      p.environment.called_usable b l p.settings p.expected p.revoked
    exact .inr ⟨valid, made, called⟩
  · left
    have isOver : l.key ∈ p.revoked := Decidable.not_not.mp valid
    simp only [usable, Lease.usable, isOver, true_or, if_true]

/-- An operation changes nothing of the pool, whether it is performed, fails or is refused. -/
theorem perform_outside (p : Pool σ) (l : Lease) (operation : Operation) :
    ∃ e, p.environment.Used e ∧ p.Touches l e ∧
      (p.perform b l operation).2 = { p with environment := e } := by
  unfold perform
  by_cases valid : p.IsValid l
  · have called := p.environment.called_ask b .holder l.connection operation
    refine ⟨_, p.environment.used_ask b .holder l.connection operation,
      .inr ⟨valid, _, called⟩, ?_⟩
    rw [if_pos valid]
    dsimp only
    split <;> rfl
  · refine ⟨p.environment, .refl _, .inl rfl, ?_⟩
    rw [if_neg valid]

theorem borrow_outside (p : Pool σ) (l : Lease) (operations : List Operation) :
    ∃ e, p.environment.Used e ∧ p.Touches l e ∧
      (p.borrow b l operations).2 = { p with environment := e } := by
  unfold borrow
  by_cases valid : p.IsValid l
  · have called := p.environment.called_performAll b l.connection operations
    refine ⟨_, used_performAll b l.connection operations p.environment, .inr ⟨valid, called⟩, ?_⟩
    rw [if_pos valid]
  · refine ⟨p.environment, .refl _, .inl rfl, ?_⟩
    rw [if_neg valid]

/-! ### Searching -/

theorem terms_candidate (p : Pool σ) (c : Credentials) :
    (p.candidate b c).2.terms = p.terms := by
  have found := found_candidate b c p
  generalize p.candidate b c = outcome at found
  cases found <;> rfl

theorem later_candidate (p : Pool σ) (c : Credentials) :
    p.environment.Later (p.candidate b c).2.environment := by
  have found := found_candidate b c p
  generalize p.candidate b c = outcome at found
  have connected := p.environment.later_connect b p.nextConnection p.source.endpoint c
  cases found with
  | idle => exact .refl _
  | opened _ _ ok =>
    rw [ok] at connected
    exact connected
  | unopened _ _ refused =>
    rw [refused] at connected
    exact connected
  | overdue => exact (p.used_seize b _ _).toLater
  | nothing => exact .refl _

theorem terms_of_found {c : Credentials} {out : Except BackendError (Option Lease)}
    (found : p.candidate b c = (out, q)) : q.terms = p.terms := by
  have kept := p.terms_candidate b c
  rwa [found] at kept

theorem later_of_found {c : Credentials} {out : Except BackendError (Option Lease)}
    (found : p.candidate b c = (out, q)) : p.environment.Later q.environment := by
  have later := p.later_candidate b c
  rwa [found] at later

theorem terms_round (round : Round b r p q) : q.terms = p.terms := by
  obtain ⟨l, taken, checked, -, -, found, bad⟩ := round
  exact (terms_of_checked b bad).trans (terms_of_found b found)

theorem later_round (round : Round b r p q) : p.environment.Later q.environment := by
  obtain ⟨l, taken, checked, -, -, found, bad⟩ := round
  have atCheck := (used_of_checked b bad).trans (checked.used_discard b l)
  exact (later_of_found b found).trans atCheck.toLater

theorem terms_rounds {n : Nat} (rounds : Rounds b r n p q) : q.terms = p.terms :=
  rounds.keeps b (fun _ _ round before => (terms_round b round).trans before) rfl

theorem later_rounds {n : Nat} (rounds : Rounds b r n p q) :
    p.environment.Later q.environment :=
  rounds.keeps b (P := fun t => p.environment.Later t.environment)
    (fun _ _ round before => before.trans (later_round b round)) (.refl _)

theorem terms_ending {waited : Bool} {discarded : Nat} {out : Acquired × Pool σ}
    (ending : Ending b r waited discarded p out) : out.2.terms = p.terms := by
  cases ending with
  | closed => rfl
  | interrupted => rfl
  | refused _ _ found =>
    have kept := terms_of_found b found
    exact kept
  | waiting _ _ found =>
    have kept := terms_of_found b found
    exact kept
  | granted l taken checked _ _ found good =>
    exact (terms_of_checked b good).trans (terms_of_found b found)

theorem later_ending {waited : Bool} {discarded : Nat} {out : Acquired × Pool σ}
    (ending : Ending b r waited discarded p out) : p.environment.Later out.2.environment := by
  cases ending with
  | closed => exact (p.used_note fun _ => rfl).toLater
  | interrupted => exact (p.used_note fun _ => rfl).toLater
  | refused _ _ found =>
    exact (later_of_found b found).trans (used_note _ fun _ => rfl).toLater
  | @waiting q _ _ found =>
    have noted : q.environment.Later (q.record (.parked r.name)).environment :=
      (q.used_note fun _ => rfl).toLater
    exact (later_of_found b found).trans noted
  | granted l taken checked _ _ found good =>
    have handed := (used_of_checked b good).trans (checked.used_handOut b r l)
    exact (later_of_found b found).trans handed.toLater

theorem terms_seek (r : Request) (waited : Bool) (spare discarded : Nat) (p : Pool σ) :
    (seek b r waited spare discarded p).2.terms = p.terms := by
  obtain ⟨n, q, rounds, ending⟩ := rounds_seek b r waited spare discarded p
  rw [← terms_rounds b rounds]
  rcases ending with ⟨-, ending⟩ | ⟨-, failed⟩
  · exact terms_ending b ending
  · rw [failed]
    rfl

theorem terms_acquire (p : Pool σ) (r : Request) : (p.acquire b r).2.terms = p.terms :=
  terms_seek b r false _ 0 (p.record (.begun r.name))

theorem terms_resume (p : Pool σ) (w : Waiter) : (p.resume b w).2.terms = p.terms :=
  terms_seek b w.request true _ w.discarded (p.wake w)

theorem later_seek (r : Request) (waited : Bool) (spare discarded : Nat) (p : Pool σ) :
    p.environment.Later (seek b r waited spare discarded p).2.environment := by
  obtain ⟨n, q, rounds, ending⟩ := rounds_seek b r waited spare discarded p
  apply (later_rounds b rounds).trans
  rcases ending with ⟨-, ending⟩ | ⟨-, failed⟩
  · exact later_ending b ending
  · rw [failed]
    exact (q.used_note fun _ => rfl).toLater

/-! ### Idle connections during a search -/

theorem idle_found {c : Credentials} {out : Except BackendError (Option Lease) × Pool σ}
    (found : Found b c p out) : out.2.idle <:+ p.idle := by
  cases found with
  | idle first => exact first ▸ List.suffix_cons _ _
  | opened | unopened | overdue | nothing => exact List.suffix_refl _

theorem idle_round (round : Round b r p q) : q.idle <:+ p.idle := by
  obtain ⟨l, taken, checked, -, -, found, bad⟩ := round
  obtain rfl : (taken.usable b l).2 = checked := congrArg Prod.snd bad
  exact idle_found b (found_of_candidate b found)

theorem idle_rounds {n : Nat} (rounds : Rounds b r n p q) : q.idle <:+ p.idle :=
  rounds.keeps b (P := fun t => t.idle <:+ p.idle)
    (fun _ _ round before => (idle_round b round).trans before) (List.suffix_refl _)

theorem idle_ending {waited : Bool} {discarded : Nat} {out : Acquired × Pool σ}
    (ending : Ending b r waited discarded p out) : out.2.idle <:+ p.idle := by
  cases ending with
  | closed | interrupted => exact List.suffix_refl _
  | refused _ _ found | waiting _ _ found => exact idle_found b (found_of_candidate b found)
  | granted l taken checked _ _ found good =>
    obtain rfl : (taken.usable b l).2 = checked := congrArg Prod.snd good
    exact idle_found b (found_of_candidate b found)

/-- A search takes connections only from the front of the idle ones. -/
theorem idle_seek (r : Request) (waited : Bool) (spare discarded : Nat) (p : Pool σ) :
    (seek b r waited spare discarded p).2.idle <:+ p.idle := by
  obtain ⟨n, q, rounds, ending⟩ := rounds_seek b r waited spare discarded p
  refine List.IsSuffix.trans ?_ (idle_rounds b rounds)
  rcases ending with ⟨-, ending⟩ | ⟨-, failed⟩
  · exact idle_ending b ending
  · rw [failed]
    exact List.suffix_refl _

/-! ### Handing back and closing everything -/

@[simp] theorem terms_notifyOne (p : Pool σ) : p.notifyOne.terms = p.terms := by
  unfold notifyOne
  split <;> rfl

@[simp] theorem environment_notifyOne (p : Pool σ) : p.notifyOne.environment = p.environment := by
  unfold notifyOne
  split <;> rfl

theorem used_restore (e : Environment σ) (connection : Nat) :
    e.Used (restore b e connection).2 := by
  have asked := e.used_ask b .pool connection .isClosed
  unfold restore
  split
  · rename_i found
    rwa [found] at asked
  · rename_i e' found
    rw [found] at asked
    exact asked.trans (e'.used_reset b connection)

theorem terms_takeBack (p : Pool σ) (l : Lease) : (p.takeBack b l).terms = p.terms := by
  unfold takeBack
  split
  · split <;> rfl
  · rfl

theorem used_takeBack (p : Pool σ) (l : Lease) :
    p.environment.Used (p.takeBack b l).environment := by
  have restored := used_restore b p.environment l.connection
  unfold takeBack
  split
  · split
    · rename_i found
      rw [found] at restored
      exact restored
    · rename_i found
      rw [found] at restored
      exact restored.trans (Environment.used_dispose b _ l.connection)
  · exact p.used_destroy b l

theorem active_takeBack (p : Pool σ) (l : Lease) : (p.takeBack b l).active = p.active := by
  unfold takeBack
  split
  · split <;> rfl
  · rfl

/-- To hand back a lease takes calls on its connection alone. -/
theorem called_takeBack (p : Pool σ) (l : Lease) :
    ∃ made, Environment.Called l.connection made p.environment (p.takeBack b l).environment := by
  obtain ⟨made, -, restored⟩ := p.environment.called_restore b l.connection
  unfold takeBack
  split
  · split
    · rename_i found
      rw [found] at restored
      exact ⟨made, restored⟩
    · rename_i e found
      rw [found] at restored
      obtain ⟨made', -, disposed⟩ := e.called_dispose b l.connection
      exact ⟨_, restored.trans disposed⟩
  · obtain ⟨made', -, disposed⟩ := p.environment.called_dispose b l.connection
    exact ⟨made', disposed⟩

theorem terms_release (p : Pool σ) (l : Lease) : (p.release b l).terms = p.terms := by
  by_cases valid : p.IsValid l
  · rw [release_of_valid b valid, terms_notifyOne, terms_takeBack]
    rfl
  · rw [release_of_revoked b valid]
    rfl

/-- To hand back a lease takes it off the list of those that are held. -/
theorem active_release (p : Pool σ) (l : Lease) :
    (p.release b l).active = (p.dropActive l).active := by
  by_cases valid : p.IsValid l
  · have taken := active_takeBack b ((p.dropActive l).noteReturn l) l
    rw [release_of_valid b valid]
    unfold notifyOne
    split <;> exact taken
  · rw [release_of_revoked b valid]
    rfl

theorem used_release (p : Pool σ) (l : Lease) :
    p.environment.Used (p.release b l).environment := by
  by_cases valid : p.IsValid l
  · rw [release_of_valid b valid, environment_notifyOne]
    have taken := used_takeBack b ((p.dropActive l).noteReturn l) l
    exact (p.used_note fun _ => rfl).trans taken
  · rw [release_of_revoked b valid]
    exact p.used_note fun _ => rfl

/-- What closing one lease leaves alone, closing several does. -/
theorem foldl_kept {α : Type} (view : Pool σ → α) (f : Pool σ → Lease → Pool σ)
    (kept : ∀ p l, view (f p l) = view p) (ls : List Lease) (p : Pool σ) :
    view (ls.foldl f p) = view p := by
  induction ls generalizing p with
  | nil => rfl
  | cons l ls ih => exact (ih (f p l)).trans (kept p l)

theorem used_foldl_destroy (ls : List Lease) (p : Pool σ) :
    p.environment.Used (ls.foldl (destroy b) p).environment := by
  induction ls generalizing p with
  | nil => exact .refl _
  | cons l ls ih => exact (p.used_destroy b l).trans (ih _)

theorem used_foldl_withdraw (ls : List Lease) (p : Pool σ) :
    p.environment.Used (ls.foldl (withdraw b) p).environment := by
  induction ls generalizing p with
  | nil => exact .refl _
  | cons l ls ih =>
    have noted : p.environment.Used (p.record (.withdrawn l.connection)).environment :=
      p.used_note fun _ => rfl
    exact (noted.trans (used_destroy b _ l)).trans (ih (p.withdraw b l))

theorem terms_clear (p : Pool σ) :
    (p.clear b).terms = { p.terms with expected := p.source.fingerprint } := by
  have withdrawn : (p.active.reverse.foldl (withdraw b) p.vacated).terms = p.vacated.terms :=
    foldl_kept terms (withdraw b) (fun _ _ => rfl) _ _
  exact (foldl_kept terms (destroy b) (fun _ _ => rfl) _ _).trans withdrawn

theorem used_clear (p : Pool σ) : p.environment.Used (p.clear b).environment := by
  have withdrawn := used_foldl_withdraw b p.active.reverse p.vacated
  exact withdrawn.trans (used_foldl_destroy b p.idle.reverse _)

/-! ### Who waits -/

theorem waiters_of_queues (same : q.queues = p.queues) : q.waiters = p.waiters := by
  simp only [queues, Prod.mk.injEq] at same
  rw [waiters, waiters, same.1, same.2.1, same.2.2]

/-- A search leaves alone whoever waits; only the one who searches may wait as well. -/
theorem waiters_seek (r : Request) (waited : Bool) (spare discarded : Nat) (p : Pool σ) :
    (seek b r waited spare discarded p).2.waiters.map Waiter.request =
      p.waiters.map Waiter.request ++
        if (seek b r waited spare discarded p).1 = .waiting then [r] else [] := by
  by_cases waits : (seek b r waited spare discarded p).1 = .waiting
  · obtain ⟨q, n, parked, queues, -⟩ := seek_waiting b r waited spare discarded p waits
    rw [if_pos waits, parked, ← waiters_of_queues queues]
    simp [waiters, park, record]
  · rw [if_neg waits, List.append_nil,
      waiters_of_queues (queues_seek b r waited spare discarded p waits)]

@[simp] theorem waiters_notifyAll (p : Pool σ) : p.notifyAll.waiters = p.waiters := by
  simp [waiters, notifyAll]

@[simp] theorem waiters_notifyOne (p : Pool σ) : p.notifyOne.waiters = p.waiters := by
  unfold notifyOne
  split
  · rfl
  · rename_i parked
    simp [waiters, parked]

theorem perm_waiters_rouse {w : Waiter} (waits : w ∈ p.parked) :
    (p.rouse w).waiters.Perm p.waiters := by
  have back : (w :: p.parked.erase w).Perm p.parked := (List.perm_cons_erase waits).symm
  have moved : (p.rouse w).waiters.Perm
      (p.roused ++ (p.signalled ++ (w :: p.parked.erase w))) := by
    simp only [waiters, rouse, List.append_assoc, List.singleton_append]
    exact List.perm_middle.symm.append_left p.roused
  exact moved.trans ((back.append_left p.signalled).append_left p.roused)

/-- Whoever stops waiting was one of those who wait. -/
theorem perm_waiters_wake {w : Waiter} (waits : w ∈ p.waiters)
    (once : (p.waiters.map fun w => w.request.name).Nodup) :
    p.waiters.Perm (w :: (p.wake w).waiters) := by
  have erased : (p.wake w).waiters = p.waiters.erase w := by
    have noDuplicate : p.waiters.Nodup := List.Nodup.of_map _ once
    have apart := List.disjoint_of_nodup_append noDuplicate
    have apart' := List.disjoint_of_nodup_append noDuplicate.of_append_right
    change p.roused.erase w ++ (p.signalled.erase w ++ p.parked.erase w) =
      (p.roused ++ (p.signalled ++ p.parked)).erase w
    -- of the three queues only one has the acquire
    by_cases roused : w ∈ p.roused
    · have notSignalled : w ∉ p.signalled := fun there =>
        apart roused (List.mem_append_left _ there)
      have notParked : w ∉ p.parked := fun there => apart roused (List.mem_append_right _ there)
      rw [List.erase_append_left _ roused, List.erase_of_not_mem notSignalled,
        List.erase_of_not_mem notParked]
    · rw [List.erase_append_right _ roused, List.erase_of_not_mem roused]
      by_cases signalled : w ∈ p.signalled
      · rw [List.erase_append_left _ signalled, List.erase_of_not_mem (apart' signalled)]
      · rw [List.erase_append_right _ signalled, List.erase_of_not_mem signalled]
  rw [erased]
  exact List.perm_cons_erase waits

theorem queues_takeBack (p : Pool σ) (l : Lease) : (p.takeBack b l).queues = p.queues := by
  unfold takeBack
  split
  · split <;> rfl
  · rfl

theorem waiters_release (p : Pool σ) (l : Lease) : (p.release b l).waiters = p.waiters := by
  by_cases valid : p.IsValid l
  · rw [release_of_valid b valid, waiters_notifyOne, waiters_of_queues (queues_takeBack b _ l)]
    rfl
  · rw [release_of_revoked b valid]
    rfl

theorem queues_clear (p : Pool σ) : (p.clear b).queues = p.queues := by
  have withdrawn : (p.active.reverse.foldl (withdraw b) p.vacated).queues = p.vacated.queues :=
    foldl_kept queues (withdraw b) (fun _ _ => rfl) _ _
  exact (foldl_kept queues (destroy b) (fun _ _ => rfl) _ _).trans withdrawn

theorem waiters_closeAll (p : Pool σ) : (p.closeAll b).waiters = p.waiters := by
  rw [closeAll, waiters_notifyAll, waiters_of_queues (queues_clear b p)]

end Pool

end LeasePool
