import LeasePool.Pool.Search

/-!
# Whose turn it is

Of the acquires that wait, the one that was signalled first runs first; with none signalled, the
one whose wait ends first, once its end has come.

An acquire that runs either leaves the queue, or finds fewer connections in the pool than before,
or waits again for an instant that has not come yet. So after finitely many turns nobody is left
whose turn it is.

## Main definitions

* `Pool.turn?`: who runs next.
* `Pool.nextDeadline?`: when the next wait ends by itself.
* `Pool.unrest`: what becomes less with every turn.

## Main results

* `Pool.unrest_resume_lt`: a turn leaves less to do.
-/

namespace LeasePool.Pool

variable {σ : Type}

/-- The wait that ends first, with its end; of several the one that began first. -/
def earliest? : List Waiter → Option (Nat × Waiter)
  | [] => none
  | w :: rest =>
    match w.deadline, earliest? rest with
    | none, later => later
    | some t, none => some (t, w)
    | some t, some later => if t ≤ later.1 then some (t, w) else some later

/-- When the next wait ends by itself. -/
def nextDeadline? (p : Pool σ) : Option Nat := (earliest? p.parked).map Prod.fst

/-- Who runs next. -/
def turn? (p : Pool σ) : Option Waiter :=
  match p.signalled with
  | w :: _ => some w
  | [] =>
    match earliest? p.parked with
    | some (t, w) => if t ≤ p.now then some w else none
    | none => none

/-! ### What a search leaves alone -/

/-- Those who wait, and those who have not run since they did. -/
def queues (p : Pool σ) : List Waiter × List Waiter × List Waiter :=
  (p.roused, p.signalled, p.parked)

/-- The connections in a pool. -/
def stock (p : Pool σ) : Nat := p.idle.length + p.active.length

/-- An acquire finds nothing idle and may open a connection. -/
def HasRoom (p : Pool σ) : Prop := p.idle = [] ∧ p.active.length < p.settings.maxActive

variable (b : Backend σ)

@[simp] theorem queues_usable (p : Pool σ) (l : Lease) : (p.usable b l).2.queues = p.queues := rfl

@[simp] theorem queues_candidate (p : Pool σ) (c : Credentials) :
    (p.candidate b c).2.queues = p.queues := by
  have found := found_candidate b c p
  generalize p.candidate b c = outcome at found
  cases found <;> rfl

@[simp] theorem stock_usable (p : Pool σ) (l : Lease) : (p.usable b l).2.stock = p.stock := rfl

@[simp] theorem stock_discard (p : Pool σ) (l : Lease) : (p.discard b l).stock = p.stock := rfl

theorem hasRoom_usable {p : Pool σ} (l : Lease) (h : p.HasRoom) : (p.usable b l).2.HasRoom := h

theorem hasRoom_discard {p : Pool σ} (l : Lease) (h : p.HasRoom) : (p.discard b l).HasRoom := h

/-- Nothing is a candidate only if the pool is as it was. -/
theorem candidate_none {p q : Pool σ} {c : Credentials} (h : p.candidate b c = (.ok none, q)) :
    q = p ∧ ¬ p.HasRoom := by
  cases found_of_candidate b h with
  | nothing _ full => exact ⟨rfl, fun room => Nat.not_lt_of_le full room.2⟩

/-- Where there is room, an acquire opens a connection, and the room remains until it gets it. -/
theorem hasRoom_candidate {p : Pool σ} (c : Credentials) (room : p.HasRoom) :
    (p.candidate b c).2.HasRoom := by
  have found := found_candidate b c p
  generalize p.candidate b c = outcome at found
  cases found with
  | idle first => simp [room.1] at first
  | opened => exact room
  | unopened => exact room
  | overdue _ full => exact absurd room.2 (Nat.not_lt_of_le full)
  | nothing => exact room

/-- Where there is no room, a candidate is taken out of the pool. -/
theorem stock_candidate_lt {p q : Pool σ} {c : Credentials} {l : Lease} (noRoom : ¬ p.HasRoom)
    (h : p.candidate b c = (.ok (some l), q)) : q.stock < p.stock := by
  cases found_of_candidate b h with
  | idle first =>
    simp only [stock, first, List.length_cons]
    omega
  | opened noneIdle room => exact absurd ⟨noneIdle, room⟩ noRoom
  | overdue _ _ held =>
    simp only [stock, held, seize, renew, revoke, List.length_cons]
    omega

theorem queues_round {r : Request} {p q : Pool σ} (round : Round b r p q) :
    q.queues = p.queues := by
  obtain ⟨l, taken, checked, _, _, found, bad⟩ := round
  have afterCandidate := p.queues_candidate b r.credentials
  have afterCheck := taken.queues_usable b l
  rw [found] at afterCandidate
  rw [bad] at afterCheck
  exact afterCheck.trans afterCandidate

theorem hasRoom_round {r : Request} {p q : Pool σ} (round : Round b r p q) (room : p.HasRoom) :
    q.HasRoom := by
  obtain ⟨l, taken, checked, _, _, found, bad⟩ := round
  have roomThere := hasRoom_candidate b r.credentials room
  rw [found] at roomThere
  have stillThere := hasRoom_usable b l roomThere
  rw [bad] at stillThere
  exact hasRoom_discard b l stillThere

/-- A round takes a connection out of the pool, unless there was room for another. -/
theorem stock_round_lt {r : Request} {p q : Pool σ} (round : Round b r p q)
    (noRoom : ¬ p.HasRoom) : q.stock < p.stock := by
  obtain ⟨l, taken, checked, _, _, found, bad⟩ := round
  have less := stock_candidate_lt b noRoom found
  have afterCheck := taken.stock_usable b l
  rw [bad] at afterCheck
  rw [stock_discard, afterCheck]
  exact less

theorem queues_rounds {r : Request} {n : Nat} {p q : Pool σ} (rounds : Rounds b r n p q) :
    q.queues = p.queues :=
  rounds.keeps b (fun _ _ round before => (queues_round b round).trans before) rfl

/-- Rounds that end without room leave the pool as it was, or take connections out of it. -/
theorem stock_rounds {r : Request} {n : Nat} {p q : Pool σ} (rounds : Rounds b r n p q)
    (noRoom : ¬ q.HasRoom) : q = p ∨ q.stock < p.stock := by
  induction rounds with
  | none => exact .inl rfl
  | more first others ih =>
    -- room that is there once remains
    have noRoomBefore : ¬ _ := fun room =>
      noRoom (others.keeps b (fun _ _ => hasRoom_round b) (hasRoom_round b first room))
    have less := stock_round_lt b first noRoomBefore
    rcases ih noRoom with rfl | fewer
    · exact .inr less
    · exact .inr (Nat.lt_trans fewer less)

/-- A search ends with the queues as they were, unless it ends with another wait. -/
theorem queues_seek (r : Request) (waited : Bool) (spare discarded : Nat) (p : Pool σ)
    (h : (seek b r waited spare discarded p).1 ≠ .waiting) :
    (seek b r waited spare discarded p).2.queues = p.queues := by
  obtain ⟨n, q, rounds, ending⟩ := rounds_seek b r waited spare discarded p
  rw [← queues_rounds b rounds]
  generalize seek b r waited spare discarded p = ended at h ending
  rcases ending with ⟨_, ending⟩ | ⟨_, rfl⟩
  · have afterCandidate := q.queues_candidate b r.credentials
    cases ending with
    | closed => rfl
    | interrupted => rfl
    | refused _ _ found =>
      rw [found] at afterCandidate
      exact afterCandidate
    | waiting => exact absurd rfl h
    | granted l taken checked _ _ found good =>
      have afterCheck := taken.queues_usable b l
      rw [found] at afterCandidate
      rw [good] at afterCheck
      exact afterCheck.trans afterCandidate
  · rfl

/-- A search ends with another wait only in a pool that is as it was, or that has lost connections,
and the queues are as they were but for the one who waits again. -/
theorem seek_waiting (r : Request) (waited : Bool) (spare discarded : Nat) (p : Pool σ)
    (h : (seek b r waited spare discarded p).1 = .waiting) :
    ∃ q n, (seek b r waited spare discarded p).2 = q.park r waited n ∧ q.queues = p.queues ∧
      (q = p ∨ q.stock < p.stock) := by
  obtain ⟨n, q, rounds, ending⟩ := rounds_seek b r waited spare discarded p
  generalize seek b r waited spare discarded p = ended at h ending
  rcases ending with ⟨_, ending⟩ | ⟨_, rfl⟩
  · cases ending with
    | waiting _ _ found =>
      obtain ⟨rfl, noRoom⟩ := candidate_none b found
      exact ⟨_, _, rfl, queues_rounds b rounds, stock_rounds b rounds noRoom⟩
    | closed | interrupted | refused | granted => simp [fail] at h
  · simp [fail] at h

/-! ### Every turn leaves less to do -/

/-- The number of those who wait. -/
def waiting (p : Pool σ) : Nat := p.signalled.length + p.parked.length

/-- A wait that has come to its end. -/
def isDue (p : Pool σ) (w : Waiter) : Bool := w.deadline.any (· ≤ p.now)

/-- The number of those who may run. -/
def due (p : Pool σ) : Nat := p.signalled.length + p.parked.countP p.isDue

theorem mem_of_earliest? {ws : List Waiter} {t : Nat} {w : Waiter}
    (h : earliest? ws = some (t, w)) : w ∈ ws ∧ w.deadline = some t := by
  fun_induction earliest? ws generalizing t w with
  | case1 => simp at h
  | case2 _ _ _ ih => exact ⟨List.mem_cons_of_mem _ (ih h).1, (ih h).2⟩
  | case3 => simp_all
  | case4 => simp_all
  | case5 _ _ _ later found _ _ ih =>
    obtain rfl : later = (t, w) := Option.some.inj h
    exact ⟨List.mem_cons_of_mem _ (ih found).1, (ih found).2⟩

/-- Whose turn it is waits, signalled or not; if not, the wait is over. -/
theorem mem_of_turn? {p : Pool σ} {w : Waiter} (h : p.turn? = some w) :
    w ∈ p.signalled ∨ w ∈ p.parked ∧ p.isDue w = true := by
  unfold turn? at h
  split at h
  · rename_i signalled
    exact .inl (by simp_all)
  · split at h
    · rename_i found
      split at h
      · rename_i passed
        obtain rfl := Option.some.inj h
        have there := mem_of_earliest? found
        exact .inr ⟨there.1, by simp [isDue, there.2, passed]⟩
      · simp at h
    · simp at h

theorem waiting_wake_lt {p : Pool σ} {w : Waiter} (h : p.turn? = some w) :
    (p.wake w).waiting < p.waiting := by
  have signalled := List.length_erase (a := w) (l := p.signalled)
  have parked := List.length_erase (a := w) (l := p.parked)
  simp only [waiting, wake]
  rcases mem_of_turn? h with there | ⟨there, _⟩
  · have := List.length_pos_of_mem there
    rw [if_pos there] at signalled
    split at parked <;> omega
  · have := List.length_pos_of_mem there
    rw [if_pos there] at parked
    split at signalled <;> omega

theorem due_wake_lt {p : Pool σ} {w : Waiter} (h : p.turn? = some w) :
    (p.wake w).due < p.due := by
  have signalled := List.length_erase (a := w) (l := p.signalled)
  have sub : (p.parked.erase w).countP p.isDue ≤ p.parked.countP p.isDue :=
    List.Sublist.countP_le List.erase_sublist
  change (p.signalled.erase w).length + (p.parked.erase w).countP p.isDue < _
  -- the one whose turn it is was counted in one of the two, and no count goes up
  rcases mem_of_turn? h with there | ⟨there, passed⟩
  · have := List.length_pos_of_mem there
    rw [if_pos there] at signalled
    unfold due
    omega
  · have parked : p.parked.countP p.isDue = (p.parked.erase w).countP p.isDue + 1 := by
      rw [(List.perm_cons_erase there).countP_eq, List.countP_cons_of_pos passed]
    unfold due
    split at signalled <;> omega

theorem now_lt_of_deadline? {p : Pool σ} {t : Nat} (h : p.deadline? = some t) : p.now < t := by
  unfold deadline? at h
  dsimp only at h
  split at h
  · simp only [Option.some.injEq] at h
    omega
  · simp at h

theorem isDue_parked (p : Pool σ) (r : Request) (discarded : Nat) :
    p.isDue ⟨r, discarded, p.now, p.deadline?⟩ = false := by
  cases h : p.deadline? with
  | none => rfl
  | some t => simpa [isDue] using now_lt_of_deadline? h

/-- What is left to do, in order of weight: those who wait, the connections that they may find, and
those who may run. -/
def unrest (p : Pool σ) : Nat × Nat × Nat := (p.waiting, p.stock, p.due)

/-- A turn leaves less to do. -/
theorem unrest_resume_lt {p : Pool σ} {w : Waiter} (h : p.turn? = some w) :
    Prod.Lex (· < ·) (Prod.Lex (· < ·) (· < ·)) (p.resume b w).2.unrest p.unrest := by
  have fewerWait := waiting_wake_lt h
  have fewerDue := due_wake_lt h
  unfold resume
  by_cases again : (seek b w.request true (p.settings.badConnectionLimit - w.discarded)
      w.discarded (p.wake w)).1 = .waiting
  · -- the acquire waits again: it found fewer connections, or it is not due any more
    obtain ⟨q, n, parked, queues, fewer⟩ := seek_waiting b _ _ _ _ _ again
    rw [parked]
    simp only [Pool.queues, Prod.mk.injEq] at queues
    obtain ⟨-, signalledSame, parkedSame⟩ := queues
    have waitingSame : (q.park w.request true n).waiting = (p.wake w).waiting + 1 := by
      simp only [waiting, park, record, signalledSame, parkedSame, List.length_append,
        List.length_singleton]
      omega
    by_cases full : (q.park w.request true n).waiting < p.waiting
    · exact .left _ _ full
    · have sameWaiting : (q.park w.request true n).waiting = p.waiting := by omega
      unfold unrest
      rw [sameWaiting]
      refine .right _ ?_
      rcases fewer with rfl | fewer
      · have notDue := isDue_parked (p.wake w) w.request n
        have sameDue : ((p.wake w).park w.request true n).due = (p.wake w).due := by
          change _ + ((p.wake w).parked ++ [_]).countP (p.wake w).isDue = _
          rw [List.countP_append, List.countP_singleton, notDue]
          rfl
        exact .right _ (by rw [sameDue]; exact fewerDue)
      · exact .left _ _ fewer
  · -- the acquire is over and waits no longer
    have queues := queues_seek b _ _ _ _ _ again
    apply Prod.Lex.left
    simp only [Pool.queues, Prod.mk.injEq] at queues
    simp only [waiting, queues] at fewerWait ⊢
    exact fewerWait

end LeasePool.Pool
