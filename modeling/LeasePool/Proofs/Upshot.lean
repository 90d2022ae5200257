import LeasePool.Proofs.Frame
import LeasePool.Proofs.Orderly

/-!
# What a search means for those who wait

Whoever waits hopes for room: a place for one more active lease. A search that gets a lease takes a
place, if there was one. A search that goes on to wait found none. A search that fails leaves the
room as it was, or leaves one place where there was none: it has then taken an overdue lease from
its holder, and the connection was bad.

## Main definitions

* `Pool.room`: how many more leases may be active.
* `Pool.Upshot`: what a search comes to, for those who wait.

## Main results

* `Pool.upshot_seek`: every search comes to one of these things.
-/

namespace LeasePool

/-- With this failure an acquire gives up that could have gone on. -/
inductive PoolError.IsGivingUp : PoolError → Prop
  | connect (cause : BackendError) : IsGivingUp (.connect cause)
  | exhausted (attempts : Nat) : IsGivingUp (.exhausted attempts)

namespace Pool

variable {σ : Type} {b : Backend σ} {p q t : Pool σ} {r : Request} {held : List Lease}

/-- How many more leases may be active. -/
def room (p : Pool σ) : Nat := p.settings.maxActive - p.active.length

theorem isCancelled_mono (later : p.environment.Later q.environment) {token : Option Nat}
    (cancelled : p.isCancelled token = true) : q.isCancelled token = true := by
  cases token with
  | none => exact cancelled
  | some n =>
    simp only [isCancelled, decide_eq_true_eq] at cancelled ⊢
    exact later.cancelled.subset cancelled

theorem isCancelled_congr (same : q.environment.cancelled = p.environment.cancelled)
    (token : Option Nat) : q.isCancelled token = p.isCancelled token := by
  cases token with
  | none => rfl
  | some n => simp only [isCancelled, same]

/-! ### Room -/

/-- There is as much room as before, or one place where there was none. -/
def Eased (p q : Pool σ) : Prop := q.room = p.room ∨ p.room = 0 ∧ q.room = 1

theorem Eased.trans (first : Eased p q) (second : Eased q t) : Eased p t := by
  unfold Eased at *
  omega

/-- To find something to try makes no room, unless an overdue lease is taken from its holder. -/
theorem eased_of_found {c : Credentials} {out : Except BackendError (Option Lease) × Pool σ}
    (orderly : p.Orderly [] held) (found : Found b c p out) : Eased p out.2 := by
  have fits := orderly.fits
  cases found with
  | idle | opened | unopened | nothing => exact .inl rfl
  | overdue noneIdle full isHeld =>
    -- nothing is taken away while there is room, so the places were all taken
    right
    simp only [isHeld, noneIdle, List.length_nil, List.length_cons] at fits full
    simp only [room, seize, renew, revoke, isHeld, List.length_cons]
    omega

theorem eased_candidate {c : Credentials} {out : Except BackendError (Option Lease)}
    (orderly : p.Orderly [] held) (found : p.candidate b c = (out, q)) : Eased p q :=
  eased_of_found orderly (found_of_candidate b found)

theorem eased_of_checked {l : Lease} {good : Bool} (checked : p.usable b l = (good, q)) :
    Eased p q := by
  obtain rfl : (p.usable b l).2 = q := congrArg Prod.snd checked
  exact .inl rfl

theorem eased_round (orderly : p.Orderly [] held) (round : Round b r p q) : Eased p q := by
  obtain ⟨l, taken, checked, -, -, found, bad⟩ := round
  have discarded : Eased checked (checked.discard b l) := .inl rfl
  exact ((eased_candidate orderly found).trans (eased_of_checked bad)).trans discarded

theorem eased_rounds {n : Nat} (orderly : p.Orderly [] held) (rounds : Rounds b r n p q) :
    q.Orderly [] held ∧ Eased p q := by
  apply rounds.keeps b (P := fun t => t.Orderly [] held ∧ Eased p t)
  · intro t t' round ⟨atRound, eased⟩
    exact ⟨atRound.round b round, eased.trans (eased_round atRound round)⟩
  · exact ⟨orderly, .inl rfl⟩

/-- Where nothing is found there is no room. -/
theorem room_of_nothing {c : Credentials} (found : p.candidate b c = (.ok none, q)) :
    q = p ∧ p.room = 0 := by
  cases found_of_candidate b found with
  | nothing _ full => exact ⟨rfl, Nat.sub_eq_zero_of_le full⟩

theorem room_handOut (p : Pool σ) (r : Request) (l : Lease) :
    (p.handOut b r l).2.room = p.room - 1 := by
  simp only [room, handOut, List.length_append, List.length_singleton]
  omega

/-! ### The upshot of a search -/

/-- What a search comes to, for those who wait. -/
inductive Upshot (r : Request) (p : Pool σ) : Acquired × Pool σ → Prop
  /-- A place is taken, if there was one. -/
  | granted {l : Lease} {q : Pool σ} (wanted : p.isCancelled r.token = false)
      (queues : q.queues = p.queues) (room : q.room = p.room - 1) : Upshot r p (.granted l, q)
  /-- There was no place, and one more waits. -/
  | waiting {q : Pool σ} (w : Waiter) (request : w.request = r) (serving : p.shutDown = false)
      (wanted : q.isCancelled r.token = false) (noRoom : p.room = 0) (stillNone : q.room = 0)
      (signalled : q.signalled = p.signalled) (parked : q.parked = p.parked ++ [w]) :
      Upshot r p (.waiting, q)
  /-- Nobody is served. -/
  | closed {q : Pool σ} (shut : p.shutDown = true) (queues : q.queues = p.queues) :
      Upshot r p (.failed .closed, q)
  /-- The token was cancelled; unless it was so at the beginning, it was during the search. -/
  | interrupted {q : Pool σ} (queues : q.queues = p.queues)
      (before : q.environment.cancelled = p.environment.cancelled →
        p.isCancelled r.token = true ∧ q.room = p.room) : Upshot r p (.failed .interrupted, q)
  /-- The search is given up. -/
  | gaveUp {cause : PoolError} {q : Pool σ} (givingUp : cause.IsGivingUp)
      (queues : q.queues = p.queues) (eased : Eased p q) : Upshot r p (.failed cause, q)

/-- No search takes a signal from anybody, or gives one. -/
theorem Upshot.signalled {out : Acquired × Pool σ} (upshot : Upshot r p out) :
    out.2.signalled = p.signalled := by
  have fromQueues {q : Pool σ} (queues : q.queues = p.queues) : q.signalled = p.signalled :=
    congrArg (fun all => all.2.1) queues
  cases upshot with
  | granted _ queues => exact fromQueues queues
  | waiting _ _ _ _ _ _ signalled => exact signalled
  | closed _ queues => exact fromQueues queues
  | interrupted queues => exact fromQueues queues
  | gaveUp _ queues => exact fromQueues queues

/-- No search wakes anybody. -/
theorem Upshot.parked_ne_nil {out : Acquired × Pool σ} (upshot : Upshot r p out)
    (waits : p.parked ≠ []) : out.2.parked ≠ [] := by
  have fromQueues {q : Pool σ} (queues : q.queues = p.queues) : q.parked = p.parked :=
    congrArg (fun all => all.2.2) queues
  cases upshot with
  | granted _ queues => exact fromQueues queues ▸ waits
  | waiting _ _ _ _ _ _ _ parked => simp [parked]
  | closed _ queues => exact fromQueues queues ▸ waits
  | interrupted queues => exact fromQueues queues ▸ waits
  | gaveUp _ queues => exact fromQueues queues ▸ waits

variable (b)

theorem upshot_seek (orderly : p.Orderly [] held) (r : Request) (waited : Bool)
    (spare discarded : Nat) : Upshot r p (seek b r waited spare discarded p) := by
  obtain ⟨n, q, rounds, ending⟩ := rounds_seek b r waited spare discarded p
  obtain ⟨atLast, eased⟩ := eased_rounds orderly rounds
  have queues := queues_rounds b rounds
  have shutDown : q.shutDown = p.shutDown := shutDown_of_terms (terms_rounds b rounds)
  have afterCandidate := q.queues_candidate b r.credentials
  -- what is not cancelled at the last round was not cancelled before
  have wantedBefore (wanted : q.isCancelled r.token = false) : p.isCancelled r.token = false := by
    by_contra cancelled
    rw [isCancelled_mono (later_rounds b rounds) (by simpa using cancelled)] at wanted
    cases wanted
  generalize seek b r waited spare discarded p = ended at ending
  rcases ending with ⟨-, ending⟩ | ⟨-, rfl⟩
  · cases ending with
    | closed shut => exact .closed (shutDown ▸ shut) queues
    | interrupted serving cancelled =>
      refine .interrupted queues fun same => ?_
      -- had there been a round, the token would have been cancelled after it began
      cases rounds with
      | none => exact ⟨cancelled, rfl⟩
      | more first others =>
        obtain ⟨l, taken, checked, -, wanted, -, -⟩ := first
        have sameThere : q.isCancelled r.token = p.isCancelled r.token :=
          isCancelled_congr same r.token
        rw [sameThere, wanted] at cancelled
        cases cancelled
    | refused serving wanted found =>
      rw [found] at afterCandidate
      have easedThere := eased.trans (eased_candidate atLast found)
      exact .gaveUp (.connect _) (afterCandidate.trans queues) easedThere
    | waiting serving wanted found =>
      -- had there been room at the beginning, some would have been left
      obtain ⟨rfl, noRoom⟩ := room_of_nothing found
      simp only [Pool.queues, Prod.mk.injEq] at queues
      have noneBefore : p.room = 0 := by
        unfold Eased at eased
        omega
      exact .waiting ⟨r, _, _, _⟩ rfl (shutDown ▸ serving) wanted noneBefore noRoom queues.2.1
        (congrArg (· ++ _) queues.2.2)
    | granted l taken checked serving wanted found good =>
      rw [found] at afterCandidate
      have afterCheck := taken.queues_usable b l
      rw [good] at afterCheck
      -- where a round made room, the connection takes the place of the one that was closed
      refine .granted (wantedBefore wanted) (afterCheck.trans (afterCandidate.trans queues)) ?_
      have easedThere :=
        (eased.trans (eased_candidate atLast found)).trans (eased_of_checked good)
      rw [room_handOut]
      unfold Eased at easedThere
      omega
  · exact .gaveUp (.exhausted _) queues eased

end Pool

end LeasePool
