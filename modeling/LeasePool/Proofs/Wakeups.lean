import LeasePool.Proofs.Possession
import LeasePool.Proofs.Upshot
import Mathlib.Data.List.Count

/-!
# Who looks after a free place

Where an acquire waits for its signal, every free place should have somebody who was signalled and
is about to take it. Handing back a connection sees to that, and so does whatever signals all who
wait. An acquire that gives up signals nobody: when it was signalled itself, or when it made room by
closing the bad connection of an overdue lease, it can leave a place that nobody looks after. Then
somebody waits beside a free place until the wait ends by itself.

## Main definitions

* `Pool.Attended`: every free place has somebody who looks after it.
* `Pool.Forsaken`: some free place has nobody, although somebody waits.
* `Pool.Listening`: what is true at any time of those who wait.
* `Site.Forsakes`: an acquire gives up and leaves a place forsaken.

## Main results

* `Site.attended_act`: every action leaves the free places attended, unless an acquire forsakes one.
* `Site.forsaken_lasts`: acquires that were signalled do not help a place that is forsaken.
* `Site.served_unless_forsaken`: as long as no acquire forsakes a place, whoever waits when nobody
  is signalled waits for good reason; an acquire that does leaves somebody waiting without one.
-/

namespace LeasePool

namespace Pool

variable {σ : Type} {p q : Pool σ} {r : Request} {w : Waiter} {n : Nat}

/-- How many of those who were signalled look for a connection when they run. -/
def comers (p : Pool σ) : Nat := p.signalled.countP fun w => !p.isCancelled w.request.token

/-- Everybody who waits was signalled since the last token was cancelled. -/
def Heard (p : Pool σ) : Prop := p.heard = p.environment.cancelled

/-- While somebody waits, there are no more free places than acquires that were signalled and some
others that look after one each. The cancelling of a token ends with a signal to all, and until that
has come nothing is asked. -/
def Attended (p : Pool σ) (others : Nat) : Prop :=
  p.Heard → p.parked ≠ [] → p.room ≤ p.comers + others

/-- Somebody waits, and there are more free places than that. -/
def Forsaken (p : Pool σ) (others : Nat) : Prop :=
  p.Heard ∧ p.parked ≠ [] ∧ p.comers + others < p.room

instance (p : Pool σ) : Decidable p.Heard := inferInstanceAs (Decidable (_ = _))

instance (p : Pool σ) (others : Nat) : Decidable (p.Forsaken others) :=
  inferInstanceAs (Decidable (_ ∧ _ ∧ _))

/-- Nobody who waits was cancelled when last all were signalled, no token is cancelled no longer,
and nobody waits at a pool that serves nobody. -/
structure Listening (p : Pool σ) : Prop where
  unheard : ∀ w ∈ p.parked, ∀ token ∈ w.request.token, token ∉ p.heard
  heard : p.heard <:+ p.environment.cancelled
  nobody : p.shutDown = true → p.parked = []

theorem attended_of_not_forsaken (cared : ¬ p.Forsaken n) : p.Attended n := by
  intro heard waits
  by_contra few
  exact cared ⟨heard, waits, Nat.lt_of_not_le few⟩

theorem attended_of_parked (empty : p.parked = []) : p.Attended n :=
  fun _ waits => absurd empty waits

/-! ### Tokens -/

/-- If all is heard later, no token was cancelled since. -/
theorem Listening.unchanged (listening : p.Listening)
    (later : p.environment.Later q.environment) (same : q.heard = p.heard) (heard : q.Heard) :
    q.environment.cancelled = p.environment.cancelled ∧ p.Heard := by
  -- tokens are only added, and none were that had not been heard before
  have back : q.environment.cancelled <:+ p.environment.cancelled := by
    rw [← heard, same]
    exact listening.heard
  have unchanged := back.eq_of_length_le later.cancelled.length_le
  exact ⟨unchanged, same.symm.trans (heard.trans unchanged)⟩

theorem comers_congr (signalled : q.signalled = p.signalled)
    (same : q.environment.cancelled = p.environment.cancelled) : q.comers = p.comers := by
  simp only [comers, signalled, isCancelled_congr same]

theorem Listening.wanted (listening : p.Listening) (heard : p.Heard) (waits : w ∈ p.parked) :
    p.isCancelled w.request.token = false := by
  have unheard := listening.unheard w waits
  rw [heard] at unheard
  cases named : w.request.token with
  | none => rfl
  | some token => simpa [isCancelled] using unheard token named

/-- An acquire that may look after a place itself: one, unless its token is cancelled. -/
def eager (p : Pool σ) (token : Option Nat) : Nat := if p.isCancelled token then 0 else 1

/-! ### While nobody begins or ends to wait -/

theorem Listening.later (listening : p.Listening) (later : p.environment.Later q.environment)
    (terms : q.terms = p.terms) (queues : q.queues = p.queues) : q.Listening := by
  have sameHeard : q.heard = p.heard := heard_of_terms terms
  have sameShut : q.shutDown = p.shutDown := shutDown_of_terms terms
  simp only [Pool.queues, Prod.mk.injEq] at queues
  obtain ⟨-, -, parked⟩ := queues
  refine ⟨?_, ?_, ?_⟩
  · rw [sameHeard, parked]
    exact listening.unheard
  · rw [sameHeard]
    exact listening.heard.trans later.cancelled
  · rw [sameShut, parked]
    exact listening.nobody

/-- Only the room matters, and only where no token was cancelled. -/
theorem Attended.later {m : Nat} (attended : p.Attended n) (listening : p.Listening)
    (later : p.environment.Later q.environment) (terms : q.terms = p.terms)
    (queues : q.queues = p.queues)
    (fits : q.environment.cancelled = p.environment.cancelled → p.room ≤ p.comers + n →
      q.room ≤ p.comers + m) : q.Attended m := by
  intro heard waits
  obtain ⟨unchanged, heardBefore⟩ :=
    listening.unchanged later (heard_of_terms terms) heard
  simp only [Pool.queues, Prod.mk.injEq] at queues
  obtain ⟨-, signalled, parked⟩ := queues
  rw [parked] at waits
  rw [comers_congr signalled unchanged]
  exact fits unchanged (attended heardBefore waits)

/-! ### Searching -/

section Search

variable {b : Backend σ} {out : Acquired × Pool σ}

/-- Whoever is not cancelled was not when last all were signalled. -/
theorem Listening.unheard_of_wanted (listening : p.Listening) {token : Option Nat}
    (wanted : p.isCancelled token = false) : ∀ n ∈ token, n ∉ p.heard := by
  rintro n named isOver
  have cancelled := listening.heard.subset isOver
  rw [Option.mem_def.mp named] at wanted
  simp only [isCancelled, decide_eq_false_iff_not] at wanted
  exact wanted cancelled

theorem Listening.park (listening : p.Listening) (serving : p.shutDown = false)
    (unheard : ∀ n ∈ r.token, n ∉ p.heard) (waited : Bool) (discarded : Nat) :
    (p.park r waited discarded).Listening where
  unheard other waits := by
    rcases List.mem_append.mp waits with before | new
    · exact listening.unheard other before
    · obtain rfl := List.mem_singleton.mp new
      exact unheard
  heard := listening.heard
  nobody shut := nomatch serving.symm.trans shut

theorem Listening.ending {waited : Bool} {discarded : Nat} (listening : p.Listening)
    (ending : Ending b r waited discarded p out) : out.2.Listening := by
  have later := later_ending b ending
  have terms := terms_ending b ending
  have afterCandidate := p.queues_candidate b r.credentials
  cases ending with
  | closed | interrupted => exact listening.later later terms rfl
  | refused _ _ found =>
    rw [found] at afterCandidate
    exact listening.later later terms afterCandidate
  | waiting serving wanted found =>
    -- the one who joins was not cancelled when it looked
    obtain ⟨rfl, -⟩ := candidate_none b found
    exact listening.park serving (listening.unheard_of_wanted wanted) waited discarded
  | granted l taken checked _ _ found good =>
    rw [found] at afterCandidate
    have afterCheck := taken.queues_usable b l
    rw [good] at afterCheck
    exact listening.later later terms (afterCheck.trans afterCandidate)

theorem Listening.seek (listening : p.Listening) (b : Backend σ) (r : Request) (waited : Bool)
    (spare discarded : Nat) : (seek b r waited spare discarded p).2.Listening := by
  obtain ⟨n, q, rounds, ending⟩ := rounds_seek b r waited spare discarded p
  have atLast : q.Listening :=
    listening.later (later_rounds b rounds) (terms_rounds b rounds) (queues_rounds b rounds)
  rcases ending with ⟨-, ending⟩ | ⟨-, failed⟩
  · exact atLast.ending ending
  · rw [failed]
    exact atLast.later (q.used_note fun _ => rfl).toLater rfl rfl

/-- A search leaves every place attended, unless it gives up and forsakes one. Until it ends it may
look after a place itself. -/
theorem Attended.upshot (listening : p.Listening)
    (later : p.environment.Later out.2.environment) (terms : out.2.terms = p.terms)
    (upshot : Upshot r p out) (attended : p.Attended (p.eager r.token))
    (cared : ∀ cause, out.1 = .failed cause → cause.IsGivingUp → ¬ out.2.Forsaken 0) :
    out.2.Attended 0 := by
  cases upshot with
  | granted wanted queues room =>
    -- the place that it looked after is taken
    refine attended.later listening later terms queues fun _ enough => ?_
    rw [eager, wanted] at enough
    simp only [Bool.false_eq_true, if_false] at enough
    rw [room]
    omega
  | waiting _ _ _ _ _ noRoom =>
    intro _ _
    rw [noRoom]
    exact Nat.zero_le _
  | closed shut queues =>
    apply attended_of_parked
    simp only [Pool.queues, Prod.mk.injEq] at queues
    exact queues.2.2.trans (listening.nobody shut)
  | interrupted queues cancelled =>
    -- it looked after no place, or another token was cancelled meanwhile
    refine attended.later listening later terms queues fun unchanged enough => ?_
    obtain ⟨isOver, room⟩ := cancelled unchanged
    rw [eager, isOver] at enough
    rw [room]
    simpa using enough
  | gaveUp givingUp => exact attended_of_not_forsaken (cared _ rfl givingUp)

end Search

/-! ### Stopping to wait -/

theorem comers_wake (p : Pool σ) (w : Waiter) :
    (p.wake w).comers =
      p.comers - if w ∈ p.signalled ∧ (!p.isCancelled w.request.token) = true then 1 else 0 :=
  List.countP_erase ..

theorem Listening.wake (listening : p.Listening) (w : Waiter) : (p.wake w).Listening where
  unheard other waits := listening.unheard other (List.mem_of_mem_erase waits)
  heard := listening.heard
  nobody shut := by
    change p.parked.erase w = []
    rw [listening.nobody shut, List.erase_nil]

/-- Who stops waiting may still look after the place for which it was signalled. -/
theorem Attended.wake (attended : p.Attended 0) (w : Waiter) :
    (p.wake w).Attended ((p.wake w).eager w.request.token) := by
  intro heard waits
  have before : p.parked ≠ [] := by
    intro empty
    apply waits
    change p.parked.erase w = []
    rw [empty, List.erase_nil]
  have enough := attended heard before
  -- whoever was signalled and not cancelled was counted, and now looks after its place itself
  have same : (p.wake w).isCancelled w.request.token = p.isCancelled w.request.token :=
    isCancelled_congr rfl _
  change p.room ≤ _
  rw [comers_wake, eager, same]
  cases p.isCancelled w.request.token
  · simp only [Bool.not_false, and_true, Bool.false_eq_true, if_false]
    split <;> omega
  · simpa using enough

/-! ### Handing back and signalling -/

theorem Listening.notifyOne (listening : p.Listening) : p.notifyOne.Listening := by
  unfold Pool.notifyOne
  split
  · exact listening
  · rename_i first rest parked
    refine ⟨fun w waits => ?_, listening.heard, fun shut => ?_⟩
    · exact listening.unheard w (parked ▸ List.mem_cons_of_mem _ waits)
    · rw [listening.nobody shut] at parked
      cases parked

/-- A signal to one who waits looks after one place. -/
theorem Attended.notifyOne (attended : p.Attended 1) (listening : p.Listening) :
    p.notifyOne.Attended 0 := by
  unfold Pool.notifyOne
  split
  · rename_i empty
    exact attended_of_parked empty
  · rename_i first rest parked
    intro heard _
    -- everybody still parked was there when all were last signalled, and is not cancelled
    have wanted : p.isCancelled first.request.token = false :=
      listening.wanted heard (parked ▸ List.mem_cons_self)
    have enough : p.room ≤ p.comers + 1 := attended heard (by simp [parked])
    have more : comers { p with parked := rest, signalled := p.signalled ++ [first] } =
        p.comers + 1 := by
      change List.countP _ (p.signalled ++ [first]) = _
      rw [List.countP_append, List.countP_singleton]
      change _ + (if (!p.isCancelled first.request.token) = true then 1 else 0) = _
      rw [wanted]
      rfl
    rw [more]
    exact enough

variable (b : Backend σ)

theorem Listening.release (listening : p.Listening) (l : Lease) :
    (p.release b l).Listening := by
  have later := (used_release b p l).toLater
  have terms := terms_release b p l
  by_cases valid : p.IsValid l
  · rw [release_of_valid b valid] at later terms ⊢
    rw [environment_notifyOne] at later
    rw [terms_notifyOne] at terms
    exact (listening.later later terms (queues_takeBack b _ l)).notifyOne
  · rw [release_of_revoked b valid] at later terms ⊢
    exact listening.later later terms rfl

/-- Handing back a valid lease makes room for one, and signals one. -/
theorem Attended.release {held : List Lease} (attended : p.Attended 0) (listening : p.Listening)
    (sound : p.custody.Sound [] held) (l : Lease) : (p.release b l).Attended 0 := by
  have later := (used_release b p l).toLater
  have terms := terms_release b p l
  by_cases valid : p.IsValid l
  · rw [release_of_valid b valid] at later terms ⊢
    rw [environment_notifyOne] at later
    rw [terms_notifyOne] at terms
    have queues := queues_takeBack b ((p.dropActive l).noteReturn l) l
    -- one place more is free, and it remains free if the connection is put on the idle list
    refine Attended.notifyOne ?_ (listening.later later terms queues)
    refine attended.later listening later terms queues fun _ enough => ?_
    have onePlace : p.active.length - 1 ≤ (p.dropActive l).active.length :=
      List.le_length_eraseP
    have settings := congrArg Terms.settings terms
    simp only [Pool.terms] at settings
    rw [room, settings, active_takeBack]
    change p.settings.maxActive - (p.dropActive l).active.length ≤ _
    rw [room] at enough
    omega
  · -- a revoked lease was active no longer, so that nobody is signalled for nothing
    rw [release_of_revoked b valid] at later terms ⊢
    refine attended.later listening later terms rfl fun _ enough => ?_
    rw [dropActive_of_revoked sound valid]
    exact enough

/-! ### Forsaken places -/

/-- A search takes no more than the place that it looks after itself, so a place that is forsaken
remains so. -/
theorem Forsaken.upshot {out : Acquired × Pool σ} (forsaken : p.Forsaken (p.eager r.token))
    (listening : p.Listening) (later : p.environment.Later out.2.environment)
    (terms : out.2.terms = p.terms) (upshot : Upshot r p out) (heard : out.2.Heard) :
    out.2.Forsaken 0 := by
  obtain ⟨-, waits, fewer⟩ := forsaken
  obtain ⟨unchanged, -⟩ := listening.unchanged later (heard_of_terms terms) heard
  refine ⟨heard, upshot.parked_ne_nil waits, ?_⟩
  rw [comers_congr upshot.signalled unchanged]
  cases upshot with
  | granted wanted _ room =>
    -- it takes the place for which it was counted
    rw [eager, wanted] at fewer
    simp only [Bool.false_eq_true, if_false] at fewer
    rw [room]
    omega
  -- nobody begins to wait where there is room
  | waiting _ _ _ _ noRoom => omega
  | closed shut => exact absurd (listening.nobody shut) waits
  | interrupted _ cancelled =>
    obtain ⟨-, room⟩ := cancelled unchanged
    rw [room]
    omega
  | gaveUp _ _ eased =>
    -- no place is taken, and none is made where there is one
    unfold Eased at eased
    simp only
    omega

theorem Forsaken.wake (forsaken : p.Forsaken 0) (signalled : w ∈ p.signalled)
    (apart : w ∉ p.parked) : (p.wake w).Forsaken ((p.wake w).eager w.request.token) := by
  obtain ⟨heard, waits, fewer⟩ := forsaken
  have stillParked : (p.wake w).parked = p.parked := List.erase_of_not_mem apart
  have same : (p.wake w).isCancelled w.request.token = p.isCancelled w.request.token :=
    isCancelled_congr rfl _
  refine ⟨heard, stillParked ▸ waits, ?_⟩
  change _ < p.room
  rw [comers_wake, eager, same]
  cases wanted : p.isCancelled w.request.token
  · have counted : 0 < p.comers :=
      List.countP_pos_iff.mpr ⟨w, signalled, by simpa using wanted⟩
    simp only [signalled, Bool.not_false, and_true, if_true, Bool.false_eq_true, if_false]
    omega
  · simpa using fewer

end Pool

namespace Site

variable {σ : Type} {b : Backend σ} {s : Site σ} {w : Waiter}

/-- An acquire gives up, and some free place has nobody who looks after it although somebody
waits. -/
def Forsakes (b : Backend σ) (s : Site σ) (a : Action σ) : Prop :=
  (∃ cause ∈ (s.act b a).1.failed?, cause.IsGivingUp) ∧ (s.act b a).2.pool.Forsaken 0

theorem failed_afterAcquire {name : String} {acquired : Acquired × Pool σ} {cause : PoolError}
    (failed : acquired.1 = .failed cause) :
    cause ∈ (s.afterAcquire name acquired).1.failed? := by
  obtain ⟨_, q⟩ := acquired
  cases failed
  rfl

theorem listening_new (source : DataSource) (settings : Settings) (backend : σ) :
    (new source settings backend).pool.Listening :=
  ⟨fun _ waits => absurd waits List.not_mem_nil, List.suffix_refl _, fun _ => rfl⟩

theorem listening_act (listening : s.pool.Listening) (a : Action σ) :
    (s.act b a).2.pool.Listening := by
  have step := step_act b s a
  generalize s.act b a = result at step
  cases step with
  | rest => exact listening
  | outside _ e used => exact listening.later used.toLater rfl rfl
  | lookUp => exact listening
  | notifyAll =>
    exact ⟨fun _ waits => absurd waits List.not_mem_nil, List.suffix_refl _, fun _ => rfl⟩
  | rouse w =>
    refine ⟨fun other waits => ?_, listening.heard, fun shut => ?_⟩
    · exact listening.unheard other (List.mem_of_mem_erase waits)
    · change s.pool.parked.erase w = []
      rw [listening.nobody shut, List.erase_nil]
  | begin r lookups =>
    have begun : (s.pool.record (.begun r.name)).Listening :=
      listening.later (s.pool.used_note fun _ => rfl).toLater rfl rfl
    rw [pool_afterAcquire]
    exact begun.seek b r false _ 0
  | resume w =>
    rw [pool_afterAcquire]
    exact (listening.wake w).seek b w.request true _ w.discarded
  | release name l => exact listening.release b l
  | close =>
    exact ⟨fun _ waits => absurd waits List.not_mem_nil, List.suffix_refl _, fun _ => rfl⟩

/-- Every action leaves the free places attended, unless an acquire forsakes one. -/
theorem attended_act (orderly : s.Orderly) (listening : s.pool.Listening)
    (attended : s.pool.Attended 0) (a : Action σ) (cares : ¬ s.Forsakes b a) :
    (s.act b a).2.pool.Attended 0 := by
  have cared : ∀ cause ∈ (s.act b a).1.failed?, cause.IsGivingUp →
      ¬ (s.act b a).2.pool.Forsaken 0 :=
    fun cause failed givingUp forsaken => cares ⟨⟨cause, failed, givingUp⟩, forsaken⟩
  have step := step_act b s a
  generalize s.act b a = result at step cared
  cases step with
  | rest => exact attended
  | outside _ e used =>
    exact attended.later listening used.toLater rfl rfl fun _ enough => enough
  | lookUp => exact attended
  | notifyAll => exact Pool.attended_of_parked rfl
  | rouse w waits =>
    intro heard _
    exact attended heard (List.ne_nil_of_mem waits)
  | begin r lookups =>
    have noted : s.pool.environment.Later (s.pool.record (.begun r.name)).environment :=
      (s.pool.used_note fun _ => rfl).toLater
    have begun : (s.pool.record (.begun r.name)).Attended
        ((s.pool.record (.begun r.name)).eager r.token) :=
      attended.later listening noted rfl rfl fun _ enough => Nat.le_add_right_of_le enough
    rw [pool_afterAcquire] at cared ⊢
    refine begun.upshot (listening.later noted rfl rfl) (Pool.later_seek b _ _ _ _ _)
      (Pool.terms_seek b _ _ _ _ _) (Pool.upshot_seek b orderly.pool.record r false _ 0) ?_
    exact fun cause failed => cared cause (failed_afterAcquire failed)
  | resume w =>
    rw [pool_afterAcquire] at cared ⊢
    refine (attended.wake w).upshot (listening.wake w) (Pool.later_seek b _ _ _ _ _)
      (Pool.terms_seek b _ _ _ _ _) (Pool.upshot_seek b orderly.pool.wake w.request true _ _) ?_
    exact fun cause failed => cared cause (failed_afterAcquire failed)
  | release name l => exact attended.release b listening orderly.pool.sound l
  | close => exact Pool.attended_of_parked rfl

/-! ### Whoever waits -/

/-- As long as no acquire forsakes a place, the places are attended. -/
theorem Reachable.attended (reach : Reachable b (fun t a => ¬ t.Forsakes b a) s) :
    s.pool.Attended 0 := by
  have both : s.pool.Listening ∧ s.pool.Attended 0 := by
    apply reach.keepsOrderly (P := fun t => t.pool.Listening ∧ t.pool.Attended 0)
    · intro source settings backend
      exact ⟨listening_new source settings backend, Pool.attended_of_parked rfl⟩
    · intro t a cares orderly ⟨listening, attended⟩
      exact ⟨listening_act listening a,
        attended_act orderly listening attended a cares⟩
  exact both.2

theorem Reachable.listening {allowed : Site σ → Action σ → Prop} (reach : Reachable b allowed s) :
    s.pool.Listening :=
  reach.keeps (P := fun t => t.pool.Listening) listening_new
    fun _ a _ listening => listening_act listening a

/-- When all who were signalled have run, a forsaken place is still forsaken. -/
theorem forsaken_lasts (orderly : s.Orderly) (listening : s.pool.Listening)
    (forsaken : s.pool.Heard → s.pool.Forsaken 0) :
    ∃ u, Leads b (fun t a => ∃ w ∈ t.pool.signalled, a = .resume w) s u ∧
      u.pool.signalled = [] ∧ (u.pool.Heard → u.pool.Forsaken 0) := by
  -- every acquire that runs is signalled no longer
  induction queue : s.pool.signalled generalizing s with
  | nil => exact ⟨s, .refl, queue, forsaken⟩
  | cons w rest ih =>
    have signalled : w ∈ s.pool.signalled := by simp [queue]
    have waits : w ∈ s.waiters := List.mem_append_right _ (List.mem_append_left _ signalled)
    -- nobody is signalled and parked at once, since no two have one name
    have apart : w ∉ s.pool.parked := by
      have noDuplicate : s.pool.waiters.Nodup := (nodup_waiters orderly.names).of_map _
      exact List.disjoint_of_nodup_append noDuplicate.of_append_right signalled
    have upshot := Pool.upshot_seek b (orderly.pool.wake (w := w)) w.request true
      (s.pool.settings.badConnectionLimit - w.discarded) w.discarded
    have later := Pool.later_seek b w.request true
      (s.pool.settings.badConnectionLimit - w.discarded) w.discarded (s.pool.wake w)
    have terms := Pool.terms_seek b w.request true
      (s.pool.settings.badConnectionLimit - w.discarded) w.discarded (s.pool.wake w)
    have pool : (s.act b (.resume w)).2.pool = (s.pool.resume b w).2 := pool_act_resume b waits
    have fewer : (s.act b (.resume w)).2.pool.signalled = rest := by
      rw [pool]
      refine upshot.signalled.trans ?_
      change s.pool.signalled.erase w = rest
      rw [queue, List.erase_cons_head]
    have still : (s.act b (.resume w)).2.pool.Heard → (s.act b (.resume w)).2.pool.Forsaken 0 := by
      rw [pool]
      intro heard
      have before := (listening.wake w).unchanged later (Pool.heard_of_terms terms) heard
      have forsakenBefore := (forsaken before.2).wake signalled apart
      exact forsakenBefore.upshot (listening.wake w) later terms upshot heard
    obtain ⟨u, others, none, last⟩ :=
      ih (orderly.act _) (listening_act listening _) still fewer
    exact ⟨u, (Leads.act _ .refl ⟨w, signalled, rfl⟩).trans others, none, last⟩

/-- As long as no acquire forsakes a place, nobody waits beside one: when every acquire that was
signalled has run, no connection is idle and no more may be active. An acquire that forsakes a place
leaves somebody waiting beside one: when every acquire that was signalled has run, more connections
may be active, unless another token was cancelled in the course of this. -/
theorem served_unless_forsaken (b : Backend σ) :
    (∀ s, Reachable b (fun t a => ¬ t.Forsakes b a) s →
      s.pool.signalled = [] → s.pool.Heard → s.pool.parked ≠ [] →
      s.pool.idle = [] ∧ s.pool.settings.maxActive ≤ s.pool.active.length) ∧
    ∀ s a, Reachable b (fun _ _ => True) s → s.Forsakes b a →
      ∃ u, Leads b (fun t a => ∃ w ∈ t.pool.signalled, a = .resume w) (s.act b a).2 u ∧
        u.pool.signalled = [] ∧
        (u.pool.Heard →
          u.pool.parked ≠ [] ∧ u.pool.active.length < u.pool.settings.maxActive) := by
  constructor
  · intro s reach noneSignalled heard waits
    have full := reach.attended heard waits
    -- without room for an active lease there is none for an idle one either
    have fits := reach.orderly.pool.fits
    rw [Pool.comers, noneSignalled] at full
    simp only [Pool.room, List.countP_nil, List.length_nil, Nat.zero_add] at full fits
    exact ⟨List.length_eq_zero_iff.mp (by omega), by omega⟩
  · rintro s a reach ⟨-, forsaken⟩
    obtain ⟨u, leads, none, last⟩ := forsaken_lasts (b := b) (reach.orderly.act a)
      (listening_act reach.listening a) fun _ => forsaken
    refine ⟨u, leads, none, fun heard => ?_⟩
    obtain ⟨-, waits, room⟩ := last heard
    exact ⟨waits, Nat.lt_of_sub_pos (Nat.lt_of_le_of_lt (Nat.zero_le _) room)⟩

/-- One connection may be active. While it is, somebody waits for good reason. When it is handed
back and closed, the acquire that was signalled cannot open another, and forsakes the place. -/
theorem served_unless_forsaken_one :
    let first := (new ⟨"db", {}⟩ { maxActive := 1, maxIdle := 0 } {}).run Scripted.backend
      [.get "a", .get "b"]
    let last := (new ⟨"db", {}⟩ { maxActive := 1, maxIdle := 0 } {}).run Scripted.backend
      [.get "a", .get "b", .get "c", .backend fun s => { s with script := [.fail .closed] },
        .release "a"]
    let signalled : Waiter := ⟨⟨"b", {}, none, 0⟩, 0, 0, some 20_000_000_000⟩
    (first.pool.idle = [] ∧ first.pool.settings.maxActive ≤ first.pool.active.length) ∧
      ∃ u, Leads Scripted.backend (fun t a => ∃ w ∈ t.pool.signalled, a = .resume w)
          (last.act Scripted.backend (.resume signalled)).2 u ∧
        u.pool.signalled = [] ∧
        (u.pool.Heard →
          u.pool.parked ≠ [] ∧ u.pool.active.length < u.pool.settings.maxActive) := by
  intro first last signalled
  constructor
  · let one := (new ⟨"db", {}⟩ { maxActive := 1, maxIdle := 0 } {}).run Scripted.backend [.get "a"]
    have facts : ¬ one.pool.Forsaken 0 ∧ ¬ first.pool.Forsaken 0 ∧
        first.pool.signalled = [] ∧ first.pool.Heard ∧ first.pool.parked ≠ [] := by
      decide +kernel
    obtain ⟨cares, caresAgain, none, heard, waits⟩ := facts
    have reach : Reachable Scripted.backend (fun t a => ¬ t.Forsakes Scripted.backend a) first :=
      ⟨_, _, _, .act (.get "b") (.act (.get "a") .refl fun forsakes => cares forsakes.2)
        fun forsakes => caresAgain forsakes.2⟩
    exact (served_unless_forsaken Scripted.backend).1 first reach none heard waits
  · have reach : Reachable Scripted.backend (fun _ _ => True) last :=
      ⟨_, _, _, Leads.refl.run _ fun _ _ _ => trivial⟩
    have facts : .connect .closed ∈ (last.act Scripted.backend (.resume signalled)).1.failed? ∧
        (last.act Scripted.backend (.resume signalled)).2.pool.Forsaken 0 := by
      decide +kernel
    exact (served_unless_forsaken Scripted.backend).2 last (.resume signalled) reach
      ⟨⟨_, facts.1, .connect .closed⟩, facts.2⟩

/-- Somebody waits although nobody is active and nobody was signalled: the one who was signalled
found that no connection could be opened. -/
theorem waits_beside_place :
    let s := (new ⟨"db", {}⟩ { maxActive := 1, maxIdle := 0 } {}).run Scripted.backend
      [.get "a", .get "b", .get "c", .backend fun s => { s with script := [.fail .closed] },
        .release "a", .resume ⟨⟨"b", {}, none, 0⟩, 0, 0, some 20_000_000_000⟩]
    Reachable Scripted.backend (fun _ _ => True) s ∧
      s.pool.signalled = [] ∧ s.pool.Heard ∧ s.pool.parked ≠ [] ∧
      ¬ (s.pool.idle = [] ∧ s.pool.settings.maxActive ≤ s.pool.active.length) := by
  refine ⟨⟨_, _, _, Leads.refl.run _ fun _ _ _ => trivial⟩, ?_⟩
  decide +kernel

end Site

end LeasePool
