import LeasePool.Pool.Acquire

/-!
# The course of a search

A search goes through rounds. In each it finds a candidate, turns it down and closes it; after the
last round it comes to one of few ends. This file tells once what a candidate can be, what a round
does and how a search ends, so that nothing later has to follow the search itself.

## Main definitions

* `Pool.Found`: what there is for an acquire to try, and the pool without it.
* `Pool.Round`, `Pool.Rounds`: a round that ends with a bad candidate, and several of them.
* `Pool.Ending`: the ends of a search.

## Main results

* `Pool.found_candidate`: a candidate is found in one of these ways.
* `Pool.rounds_seek`: a search is some rounds with an end.
* `Pool.seek_of_rounds`: what is left of a search after some rounds.
-/

namespace LeasePool.Pool

variable {σ : Type} (b : Backend σ)

/-- What there is for an acquire to try, and the pool without it. -/
inductive Found (c : Credentials) (p : Pool σ) :
    Except BackendError (Option Lease) × Pool σ → Prop
  /-- The first idle connection. -/
  | idle {l : Lease} {rest : List Lease} (first : p.idle = l :: rest) :
      Found c p (.ok (some l), { p with idle := rest })
  /-- A connection opened on the spot. -/
  | opened {e : Environment σ} (noneIdle : p.idle = [])
      (room : p.active.length < p.settings.maxActive)
      (connected :
        p.environment.connect b p.nextConnection p.source.endpoint c = (.ok (), e)) :
      Found c p (.ok (some (.opened p.nextKey p.nextConnection p.expected e.clock)),
        { p with
          nextConnection := p.nextConnection + 1, nextKey := p.nextKey + 1, environment := e })
  /-- No connection could be opened. -/
  | unopened {e : Environment σ} {cause : BackendError} (noneIdle : p.idle = [])
      (room : p.active.length < p.settings.maxActive)
      (refused :
        p.environment.connect b p.nextConnection p.source.endpoint c = (.error cause, e)) :
      Found c p (.error cause, { p with environment := e })
  /-- The connection of the longest-held lease, which is overdue. -/
  | overdue {oldest : Lease} {rest : List Lease} (noneIdle : p.idle = [])
      (full : p.settings.maxActive ≤ p.active.length) (held : p.active = oldest :: rest)
      (late : p.settings.maxCheckoutTime.nanos < oldest.heldFor p.now) :
      Found c p (.ok (some (p.seize b oldest rest).1), (p.seize b oldest rest).2)
  /-- Nothing. -/
  | nothing (noneIdle : p.idle = []) (full : p.settings.maxActive ≤ p.active.length)
      (inTime : ∀ l ∈ p.active.head?, l.heldFor p.now ≤ p.settings.maxCheckoutTime.nanos) :
      Found c p (.ok none, p)

theorem found_candidate (c : Credentials) (p : Pool σ) : Found b c p (p.candidate b c) := by
  unfold candidate
  split
  · rename_i first
    exact .idle first
  · rename_i noneIdle
    by_cases room : p.active.length < p.settings.maxActive
    · rw [if_pos room]
      unfold openLease
      split
      · rename_i refused
        exact .unopened noneIdle room refused
      · rename_i connected
        exact .opened noneIdle room connected
    · rw [if_neg room]
      have full := Nat.le_of_not_lt room
      unfold reclaim
      split
      · rename_i empty
        exact .nothing noneIdle full (by simp [empty])
      · rename_i oldest rest held
        by_cases inTime : oldest.heldFor p.now ≤ p.settings.maxCheckoutTime.nanos
        · rw [if_pos inTime]
          exact .nothing noneIdle full (by simpa [held] using inTime)
        · rw [if_neg inTime]
          exact .overdue noneIdle full held (Nat.lt_of_not_le inTime)

theorem found_of_candidate {c : Credentials} {p q : Pool σ}
    {out : Except BackendError (Option Lease)} (found : p.candidate b c = (out, q)) :
    Found b c p (out, q) :=
  found ▸ found_candidate b c p

/-! ### Rounds -/

/-- A round of a search that ends with a bad candidate closed. -/
inductive Round (r : Request) (p : Pool σ) : Pool σ → Prop
  | intro (l : Lease) (taken checked : Pool σ) (serving : p.shutDown = false)
      (wanted : p.isCancelled r.token = false)
      (found : p.candidate b r.credentials = (.ok (some l), taken))
      (bad : taken.usable b l = (false, checked)) : Round r p (checked.discard b l)

/-- Several rounds of a search. -/
inductive Rounds (r : Request) : Nat → Pool σ → Pool σ → Prop
  | none {p : Pool σ} : Rounds r 0 p p
  | more {n : Nat} {p q t : Pool σ} (first : Round b r p q) (others : Rounds r n q t) :
      Rounds r (n + 1) p t

/-- What every round keeps is kept by all of them. -/
theorem Rounds.keeps {r : Request} {P : Pool σ → Prop}
    (keep : ∀ p q, Round b r p q → P p → P q) {n : Nat} {p q : Pool σ}
    (rounds : Rounds b r n p q) (start : P p) : P q := by
  induction rounds with
  | none => exact start
  | more first _ ih => exact ih (keep _ _ first start)

/-! ### Ends -/

/-- The ends of a search that has not turned down too many candidates. -/
inductive Ending (r : Request) (waited : Bool) (discarded : Nat) (p : Pool σ) :
    Acquired × Pool σ → Prop
  /-- The pool serves nobody. -/
  | closed (shut : p.shutDown = true) : Ending r waited discarded p (p.fail r .closed)
  /-- The token of the acquire was cancelled. -/
  | interrupted (serving : p.shutDown = false) (cancelled : p.isCancelled r.token = true) :
      Ending r waited discarded p (p.fail r .interrupted)
  /-- No connection could be opened. -/
  | refused {cause : BackendError} {q : Pool σ} (serving : p.shutDown = false)
      (wanted : p.isCancelled r.token = false)
      (found : p.candidate b r.credentials = (.error cause, q)) :
      Ending r waited discarded p (q.fail r (.connect cause))
  /-- There is nothing to try. -/
  | waiting {q : Pool σ} (serving : p.shutDown = false)
      (wanted : p.isCancelled r.token = false)
      (found : p.candidate b r.credentials = (.ok none, q)) :
      Ending r waited discarded p (.waiting, q.park r waited discarded)
  /-- A candidate is good. -/
  | granted (l : Lease) (taken checked : Pool σ) (serving : p.shutDown = false)
      (wanted : p.isCancelled r.token = false)
      (found : p.candidate b r.credentials = (.ok (some l), taken))
      (good : taken.usable b l = (true, checked)) :
      Ending r waited discarded p
        (.granted (checked.handOut b r l).1, (checked.handOut b r l).2)

/-- A search is some rounds with an end. It goes through one round more than it may only to fail. -/
theorem rounds_seek (r : Request) (waited : Bool) (spare discarded : Nat) (p : Pool σ) :
    ∃ n q, Rounds b r n p q ∧
      (n ≤ spare ∧
          Ending b r waited (discarded + n) q (seek b r waited spare discarded p) ∨
        n = spare + 1 ∧
          seek b r waited spare discarded p = q.fail r (.exhausted (discarded + n))) := by
  fun_induction seek b r waited spare discarded p with
  | case1 spare discarded p shut =>
    exact ⟨0, p, .none, .inl ⟨Nat.zero_le _, .closed shut⟩⟩
  | case2 spare discarded p serving cancelled =>
    exact ⟨0, p, .none, .inl ⟨Nat.zero_le _, .interrupted (by simpa using serving) cancelled⟩⟩
  | case3 spare discarded p serving wanted cause q found =>
    exact ⟨0, p, .none,
      .inl ⟨Nat.zero_le _, .refused (by simpa using serving) (by simpa using wanted) found⟩⟩
  | case4 spare discarded p serving wanted q found =>
    exact ⟨0, p, .none,
      .inl ⟨Nat.zero_le _, .waiting (by simpa using serving) (by simpa using wanted) found⟩⟩
  | case5 spare discarded p serving wanted l taken found checked good granted =>
    exact ⟨0, p, .none,
      .inl ⟨Nat.zero_le _,
        .granted _ _ _ (by simpa using serving) (by simpa using wanted) found good⟩⟩
  | case6 discarded p serving wanted l taken found checked bad =>
    have first : Round b r p (checked.discard b l) :=
      .intro _ _ _ (by simpa using serving) (by simpa using wanted) found bad
    exact ⟨1, checked.discard b l, .more first .none, .inr ⟨rfl, rfl⟩⟩
  | case7 discarded p serving wanted l taken found checked bad spare ih =>
    have first : Round b r p (checked.discard b l) :=
      .intro _ _ _ (by simpa using serving) (by simpa using wanted) found bad
    obtain ⟨n, q, others, ending⟩ := ih
    refine ⟨n + 1, q, .more first others, ?_⟩
    rw [Nat.add_right_comm, Nat.add_assoc] at ending
    rcases ending with ⟨few, ending⟩ | ⟨many, failed⟩
    · exact .inl ⟨Nat.succ_le_succ few, ending⟩
    · exact .inr ⟨congrArg (· + 1) many, failed⟩

/-! ### Step by step -/

variable {r : Request} {waited : Bool} {discarded : Nat} {p q : Pool σ}

/-- A search that comes to a candidate hands it out if it is good, and else goes on if it may. -/
theorem seek_of_candidate (spare : Nat) {l : Lease} {taken : Pool σ} (serving : p.shutDown = false)
    (wanted : p.isCancelled r.token = false)
    (found : p.candidate b r.credentials = (.ok (some l), taken)) :
    seek b r waited spare discarded p =
      match taken.usable b l, spare with
      | (true, q), _ => (.granted (q.handOut b r l).1, (q.handOut b r l).2)
      | (false, q), 0 => (q.discard b l).fail r (.exhausted (discarded + 1))
      | (false, q), spare + 1 => seek b r waited spare (discarded + 1) (q.discard b l) := by
  rw [seek, if_neg (ne_true_of_eq_false serving), if_neg (ne_true_of_eq_false wanted)]
  simp only [found]
  split
  · rename_i checked
    simp only [checked]
  · rename_i checked
    cases spare <;> simp only [checked]

/-- After a round a search goes on if it may. -/
theorem seek_of_round (spare : Nat) (round : Round b r p q) :
    seek b r waited spare discarded p =
      if 1 ≤ spare then seek b r waited (spare - 1) (discarded + 1) q
      else q.fail r (.exhausted (discarded + 1)) := by
  obtain ⟨l, taken, checked, serving, wanted, found, bad⟩ := round
  rw [seek_of_candidate b spare serving wanted found, bad]
  cases spare <;> rfl

/-- After as many rounds as it may go through, and one more only to fail, a search comes to what is
left of it. -/
theorem seek_of_rounds {n spare : Nat} (rounds : Rounds b r n p q) (few : n ≤ spare + 1) :
    seek b r waited spare discarded p =
      if n ≤ spare then seek b r waited (spare - n) (discarded + n) q
      else q.fail r (.exhausted (discarded + n)) := by
  induction rounds generalizing spare discarded with
  | none => rw [if_pos (Nat.zero_le _)]; rfl
  | @more n p t q first others ih =>
    rw [seek_of_round b spare first]
    cases spare with
    | zero =>
      -- the round was one too many
      obtain rfl : n = 0 := by omega
      cases others
      rfl
    | succ spare =>
      rw [if_pos (Nat.succ_le_succ (Nat.zero_le _)), Nat.add_sub_cancel,
        ih (Nat.le_of_succ_le_succ few), Nat.add_assoc discarded, Nat.add_comm 1 n]
      simp only [Nat.succ_le_succ_iff, Nat.add_sub_add_right]

end LeasePool.Pool
