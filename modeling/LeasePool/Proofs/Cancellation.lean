import LeasePool.Proofs.Asks
import LeasePool.Proofs.Moments
import LeasePool.Proofs.Wakeups

/-!
# Cancelling an acquire

To cancel a token takes two steps, and an acquire looks at its token only at the beginning of each
round. So a token may be marked between the look and the beginning of a wait, and the acquire waits
although it is cancelled; but the second step of the cancellation needs the pool to itself, comes
after that, and signals the acquire. Once that step is done nobody waits for a signal with the
token, and no search with the token gets past its look. This holds instant by instant, whatever
happens between the stages of a search. Nor is a token cancelled that nobody cancelled: it was
marked, or it was cancelled from outside while a call on the backend ran.

## Main definitions

* `Search.Informed`: a search that has looked whether it is wanted is up to date.
* `Moment.Listening`: what is true at any moment of those who wait and of the search under way.
* `Moment.WasCancelled`: a token was cancelled at an earlier moment.
* `Pool.Untouched`: the backend was not called, and no connection went anywhere.
* `Moment.Begins`, `Moment.Fails`: a search begins, or fails at its next stage, and that is all.
* `Moment.Obeys`: whoever acquires with a token is told that it was cancelled.

## Main results

* `Moment.listening_happen`: nothing that happens goes unheard.
* `Moment.cancelled_happen`: what happens cancels no token but those that are marked, or cancelled
  while a call runs.
* `Moment.obeys_of_heard`: once all were told of a token, it is obeyed.
* `Moment.Reachable.cancellation`: acquires are interrupted for their own token alone; once a token
  was cancelled, every acquire with it is.
-/

namespace LeasePool

/-! ### Stages -/

namespace Search

variable {σ : Type} {b : Backend σ} {x y : Search} {p q : Pool σ}

/-- A search is interrupted only if its own token was cancelled. -/
theorem cancelled_of_interrupted (last : x.next b p = finish (.failed .interrupted, q)) :
    ∃ n, x.request.token = some n ∧ n ∈ p.environment.cancelled := by
  have next := next_cases b x p
  rw [last] at next
  cases next with
  | interrupted _ _ cancelled =>
    cases named : x.request.token with
    | none =>
      rw [named] at cancelled
      cases cancelled
    | some n =>
      rw [named] at cancelled
      exact ⟨n, rfl, of_decide_eq_true cancelled⟩

/-- Once it has looked whether it is wanted, a search is informed: the pool serves, and its token is
none of those of which all who wait were told. -/
def Informed (x : Search) (p : Pool σ) : Prop :=
  x.stage ≠ .asking → p.shutDown = false ∧ ∀ n ∈ x.request.token, n ∉ p.heard

theorem Informed.congr (informed : x.Informed p) (terms : q.terms = p.terms) : x.Informed q := by
  have sameShut : q.shutDown = p.shutDown := Pool.shutDown_of_terms terms
  have sameHeard : q.heard = p.heard := Pool.heard_of_terms terms
  unfold Informed
  rw [sameShut, sameHeard]
  exact informed

theorem Informed.goes (informed : x.Informed p) (listening : p.Listening)
    (goes : x.next b p = (.goes y, q)) : y.Informed q := by
  have next := next_cases b x p
  have terms := terms_next b x p
  rw [goes] at next terms
  cases next with
  | wanted _ serving wanted => exact fun _ => ⟨serving, listening.unheard_of_wanted wanted⟩
  | chosen stage =>
    -- it had looked before
    have before := informed (by simp [stage])
    exact Informed.congr (fun _ => before) terms
  | discarded => exact fun further => absurd rfl further

/-- A search begins to wait only when it is informed. -/
theorem Informed.listening_next (informed : x.Informed p) (listening : p.Listening) :
    (x.next b p).2.Listening := by
  by_cases parking : x.stage = .parking
  · obtain ⟨serving, unheard⟩ := informed (by simp [parking])
    have waits : (x.next b p).2 = p.park x.request x.waited x.discarded := by
      simp only [next, parking, finish]
    rw [waits]
    exact listening.park serving unheard x.waited x.discarded
  · exact listening.later (later_next b x p) (terms_next b x p) (queues_next b parking p)

/-! ### What a search does to the environment -/

open Environment (Evolves)

theorem evolves_next (b : Backend σ) (x : Search) (p : Pool σ) :
    Evolves b p.environment (x.next b p).2.environment := by
  have next := next_cases b x p
  generalize x.next b p = result at next
  cases next with
  | closed | interrupted | waiting => exact Evolves.refl.record _
  | wanted => exact .refl
  | refused _ found => exact (Pool.evolves_candidate found).record _
  | chosen _ found => exact Pool.evolves_candidate found
  | @granted l q _ good =>
    have asks := (Pool.asks_of_checked good).trans (Pool.asks_handOut b q x.request l)
    exact asks.evolves
  | @discarded l q _ _ bad =>
    have asks := (Pool.asks_of_checked bad).trans (Pool.asks_discard b q l)
    exact asks.evolves
  | @exhausted l q _ bad =>
    have asks := (Pool.asks_of_checked bad).trans (Pool.asks_discard b q l)
    exact asks.evolves.record _

theorem Runs.evolves {ended : Acquired × Pool σ} (runs : Runs b x p ended) :
    Evolves b p.environment ended.2.environment := by
  induction runs with
  | @ends x p ended last =>
    have evolves := evolves_next b x p
    rwa [last] at evolves
  | @goes x y p q ended first _ ih =>
    have evolves := evolves_next b x p
    rw [first] at evolves
    exact evolves.trans ih

end Search

namespace Pool

variable {σ : Type} {p q : Pool σ}

theorem Starts.evolves (b : Backend σ) (starts : p.Starts q) :
    p.environment.Evolves b q.environment := by
  cases starts <;> exact Environment.Evolves.refl.record _

/-- The backend was not called, no connection went anywhere, and nobody got one. -/
structure Untouched (p q : Pool σ) : Prop where
  idle : q.idle = p.idle
  active : q.active = p.active
  requestCount : q.statistics.requestCount = p.statistics.requestCount
  shutDown : q.shutDown = p.shutDown
  traffic : q.environment.traffic = p.environment.traffic

theorem Starts.untouched (starts : p.Starts q) : p.Untouched q := by
  cases starts <;> exact ⟨rfl, rfl, rfl, rfl, rfl⟩

theorem Starts.listening (starts : p.Starts q) (listening : p.Listening) : q.Listening := by
  cases starts with
  | begun name => exact listening.later (p.used_note fun _ => rfl).toLater rfl rfl
  | woken w => exact listening.wake w

end Pool

/-! ### Actions -/

namespace Site

variable {σ : Type} {b : Backend σ} {s : Site σ} {a : Action σ}

/-- Only a search is interrupted. -/
theorem not_interrupted (noSearch : s.enters a = none) :
    (s.act b a).1 ≠ .failed .interrupted := by
  intro interrupted
  have taken {name : String} {credentials : Credentials} {token : Option Nat}
      (none : s.launch? name credentials token = none) :
      (s.begin b name credentials token).1 ≠ .failed .interrupted := by
    unfold launch? at none
    split at none
    · rename_i isTaken
      rw [begin, if_pos isTaken]
      intro failed
      cases failed
    · cases none
  cases a with
  | get name => exact taken noSearch interrupted
  | acquire name credentials token => exact taken noSearch interrupted
  | proceed name =>
    have none := Option.map_eq_none_iff.mp noSearch
    simp only [act, none] at interrupted
    cases interrupted
  | resume w =>
    simp only [enters] at noSearch
    split at noSearch
    · cases noSearch
    · rename_i absent
      rw [act, if_neg absent] at interrupted
      cases interrupted
  | perform name operation =>
    simp only [act, withHandle, Pool.perform] at interrupted
    grind
  | borrow name operations =>
    simp only [act, withHandle, Pool.borrow] at interrupted
    grind
  | lookUp name =>
    simp only [act] at interrupted
    split at interrupted <;> cases interrupted
  | rouse w =>
    simp only [act] at interrupted
    split at interrupted <;> cases interrupted
  | release name =>
    simp only [act, withHandle] at interrupted
    split at interrupted <;> cases interrupted
  | validate name =>
    simp only [act, withHandle] at interrupted
    split at interrupted <;> cases interrupted
  | mark | notifyAll | change | closeAll | shutdown | elapse | backend => cases interrupted

/-- Whoever was told of a token is told of it every time. -/
theorem heard_act (listening : s.pool.Listening) (a : Action σ) :
    s.pool.heard ⊆ (s.act b a).2.pool.heard := by
  have later := later_act (b := b) s a
  have step := step_act b s a
  generalize s.act b a = result at step later
  cases step with
  | rest | outside | lookUp | rouse => exact List.Subset.refl _
  | notifyAll => exact listening.heard.subset
  | begin r =>
    rw [pool_afterAcquire, Pool.heard_of_terms (Pool.terms_acquire b s.pool r)]
    exact List.Subset.refl _
  | resume w =>
    rw [pool_afterAcquire, Pool.heard_of_terms (Pool.terms_resume b s.pool w)]
    exact List.Subset.refl _
  | release name l =>
    rw [Pool.heard_of_terms (Pool.terms_release b s.pool l)]
    exact List.Subset.refl _
  | close => exact (listening.heard.trans later.cancelled).subset

/-- What happens beside a search changes nothing by which the search goes. -/
theorem terms_of_unlocked (unlocked : ¬ a.Locks) : (s.act b a).2.pool.terms = s.pool.terms := by
  have step := step_act b s a
  generalize s.act b a = result at step
  cases step with
  | rest | outside | rouse => rfl
  | lookUp | notifyAll | resume | release => exact absurd trivial unlocked
  | begin _ _ _ _ _ wanted =>
    cases a with
    | get | proceed | acquire | resume => exact absurd trivial unlocked
    | _ => cases wanted
  | close _ _ _ _ _ closes =>
    cases a with
    | change | closeAll | shutdown => exact absurd trivial unlocked
    | _ => cases closes

/-- No action cancels a token but the one that marks it, unless that is cancelled while a call
runs. -/
theorem cancelled_act {token : Nat} (there : token ∈ (s.act b a).2.pool.environment.cancelled) :
    token ∈ s.pool.environment.cancelled ∨ a = .mark token ∨
      s.pool.environment.Cancels b token (s.act b a).2.pool.environment := by
  have affects := affects_act b s a
  generalize (s.act b a).2.pool = q at affects there
  have evolved (evolves : s.pool.environment.Evolves b q.environment) :
      token ∈ s.pool.environment.cancelled ∨ a = .mark token ∨
        s.pool.environment.Cancels b token q.environment :=
    (evolves.cancelled there).imp_right .inr
  cases affects with
  | aside _ _ _ cancelled =>
    -- to mark a token is the only action beside the backend that adds one
    rcases cancelled with same | ⟨marked, rfl, more⟩
    · exact .inl (same ▸ there)
    · rw [more] at there
      rcases List.mem_cons.mp there with rfl | earlier
      · exact .inr (.inl rfl)
      · exact .inl earlier
  | used _ uses =>
    rcases uses with rfl | ⟨-, asks⟩
    · exact .inl there
    · exact evolved asks.evolves
  | meddled => exact .inl there
  | sought starts r waited spare discarded =>
    exact evolved ((starts.evolves b).trans
      (Search.runs_seek b r waited spare discarded _).evolves)
  | released => exact evolved (Pool.asks_release b s.pool _).evolves
  | closed source settings shutDown =>
    exact evolved (Pool.evolves_closeAll b { s.pool with source, settings, shutDown })

end Site

namespace Moment

variable {σ : Type} {b : Backend σ} {m t : Moment σ} {x : Search} {n : Nat}

/-! ### Nothing goes unheard -/

/-- What is true at any moment of those who wait and of the search under way. -/
structure Listening (m : Moment σ) : Prop where
  pool : m.site.pool.Listening
  search : ∀ x ∈ m.search, x.Informed m.site.pool

/-- Nothing that happens goes unheard. -/
theorem listening_happen (listening : m.Listening) (h : Happening σ) :
    (m.happen b h).2.Listening := by
  have step := step_happen (b := b) m h
  generalize m.happen b h = result at step
  cases step with
  | rest => exact listening
  | goes under goes =>
    have informed := listening.search _ under
    have pool := informed.listening_next (b := b) listening.pool
    rw [goes] at pool
    refine ⟨pool, ?_⟩
    rintro _ ⟨⟩
    exact informed.goes listening.pool goes
  | ends under last =>
    have pool := (listening.search _ under).listening_next (b := b) listening.pool
    rw [last] at pool
    refine ⟨?_, nofun⟩
    rw [Site.pool_afterAcquire]
    exact pool
  | enters entered =>
    obtain ⟨starts, asking, -⟩ := Site.act_of_enters (b := b) entered
    refine ⟨starts.listening listening.pool, ?_⟩
    rintro _ ⟨⟩ further
    exact absurd asking further
  | @acts a _ free =>
    refine ⟨Site.listening_act listening.pool a, fun x under => ?_⟩
    -- beside a search happens only what leaves alone what the search has seen
    have unlocked : ¬ a.Locks := fun locks => by
      rw [free locks] at under
      cases under
    exact (listening.search x under).congr (Site.terms_of_unlocked unlocked)

theorem Leads.listening (leads : Leads b m t) (listening : m.Listening) : t.Listening :=
  leads.keeps (fun _ h before => listening_happen before h) listening

theorem Reachable.listening (reach : Reachable b m) : m.Listening := by
  obtain ⟨source, settings, backend, leads⟩ := reach
  exact leads.listening ⟨Site.listening_new source settings backend, nofun⟩

/-- Whoever was told of a token is told of it every time. -/
theorem heard_happen (listening : m.Listening) (h : Happening σ) :
    m.site.pool.heard ⊆ (m.happen b h).2.site.pool.heard := by
  have same {q : Pool σ} (terms : q.terms = m.site.pool.terms) : m.site.pool.heard ⊆ q.heard := by
    rw [Pool.heard_of_terms terms]
    exact List.Subset.refl _
  have step := step_happen (b := b) m h
  generalize m.happen b h = result at step
  cases step with
  | rest => exact List.Subset.refl _
  | @goes x _ _ _ goes =>
    have terms := x.terms_next b m.site.pool
    rw [goes] at terms
    exact same terms
  | @ends x _ _ last =>
    have terms := x.terms_next b m.site.pool
    rw [last] at terms
    rw [Site.pool_afterAcquire]
    exact same terms
  | enters entered => exact same (Site.act_of_enters (b := b) entered).1.terms
  | @acts a => exact Site.heard_act listening.pool a

theorem Leads.heard (leads : Leads b m t) (listening : m.Listening)
    (told : n ∈ m.site.pool.heard) : n ∈ t.site.pool.heard := by
  have both : t.Listening ∧ n ∈ t.site.pool.heard :=
    leads.keeps (P := fun v => v.Listening ∧ n ∈ v.site.pool.heard)
      (fun v h before => ⟨listening_happen before.1 h, heard_happen before.1 h before.2⟩)
      ⟨listening, told⟩
  exact both.2

/-! ### Cancelling -/

/-- At an earlier moment a token was cancelled: it was marked, or a call on the backend ran then. -/
def WasCancelled (b : Backend σ) (m : Moment σ) (n : Nat) : Prop :=
  ∃ t h, Reachable b t ∧ Leads b (t.happen b h).2 m ∧
    (h = .act (.mark n) ∨
      t.site.pool.environment.Cancels b n (t.happen b h).2.site.pool.environment)

/-- Nothing that happens cancels a token but to mark it, unless it is cancelled while a call
runs. -/
theorem cancelled_happen {h : Happening σ}
    (there : n ∈ (m.happen b h).2.site.pool.environment.cancelled) :
    n ∈ m.site.pool.environment.cancelled ∨ h = .act (.mark n) ∨
      m.site.pool.environment.Cancels b n (m.happen b h).2.site.pool.environment := by
  have evolved {q : Pool σ} (evolves : m.site.pool.environment.Evolves b q.environment)
      (there : n ∈ q.environment.cancelled) :
      n ∈ m.site.pool.environment.cancelled ∨ h = .act (.mark n) ∨
        m.site.pool.environment.Cancels b n q.environment :=
    (evolves.cancelled there).imp_right .inr
  have step := step_happen (b := b) m h
  generalize m.happen b h = result at step there ⊢
  cases step with
  | rest => exact .inl there
  | @goes x _ _ _ goes =>
    have evolves := x.evolves_next b m.site.pool
    rw [goes] at evolves
    exact evolved evolves there
  | @ends x _ _ last =>
    have evolves := x.evolves_next b m.site.pool
    rw [last] at evolves
    rw [Site.pool_afterAcquire] at there ⊢
    exact evolved evolves there
  | enters entered =>
    exact evolved ((Site.act_of_enters (b := b) entered).1.evolves b) there
  | acts =>
    rcases Site.cancelled_act there with before | rfl | cancels
    · exact .inl before
    · exact .inr (.inl rfl)
    · exact .inr (.inr cancels)

/-- A token that is marked is cancelled, whatever is under way. -/
theorem cancelled_mark (b : Backend σ) (m : Moment σ) (n : Nat) :
    n ∈ (m.happen b (.act (.mark n))).2.site.pool.environment.cancelled := by
  have unlocked : ¬ (Action.Locks (σ := σ) (.mark n) ∧ m.search.isSome = true) := fun both => both.1
  simp only [happen, if_neg unlocked]
  exact List.mem_cons_self

/-- No token is cancelled but one that was. -/
theorem Reachable.wasCancelled (reach : Reachable b m)
    (there : n ∈ m.site.pool.environment.cancelled) : m.WasCancelled b n := by
  obtain ⟨source, settings, backend, leads⟩ := reach
  induction leads with
  | refl => cases there
  | @happen t h before ih =>
    have reach : Reachable b t := ⟨source, settings, backend, before⟩
    -- what happened last has cancelled the token, or found it cancelled
    rcases cancelled_happen there with earlier | now
    · obtain ⟨u, h', start, later, how⟩ := ih earlier
      exact ⟨u, h', start, later.happen h, how⟩
    · exact ⟨t, h, reach, .refl, now⟩

/-- An action begins the search of an acquire, and does nothing else. -/
structure Begins (b : Backend σ) (m : Moment σ) (a : Action σ) (r : Request) : Prop where
  search : ∃ x ∈ (m.happen b (.act a)).2.search, x.request = r
  untouched : m.site.pool.Untouched (m.happen b (.act a)).2.site.pool

/-- The next stage of the search under way is its end: it fails, and does nothing else. -/
structure Fails (b : Backend σ) (m : Moment σ) (cause : PoolError) : Prop where
  outcome : (m.happen b .next).1 = .failed cause
  search : (m.happen b .next).2.search = none
  untouched : m.site.pool.Untouched (m.happen b .next).2.site.pool

/-- Whoever acquires with a token is told that it was cancelled, or that the pool is closed. -/
structure Obeys (b : Backend σ) (n : Nat) (m : Moment σ) : Prop where
  parked : ∀ w ∈ m.site.pool.parked, w.request.token ≠ some n
  begins : ∀ name credentials, m.search = none → ¬ m.site.IsTaken name →
    m.Begins b (.acquire name credentials (some n))
      ⟨name, credentials, some n, m.site.pool.now⟩
  resumes : ∀ w ∈ m.site.waiters, w.request.token = some n → m.search = none →
    m.Begins b (.resume w) w.request
  fails : ∀ x ∈ m.search, x.request.token = some n →
    m.Fails b (if m.site.pool.shutDown then .closed else .interrupted)

/-- An action with which a search begins does nothing else. -/
theorem begins_of_enters {s : Site σ} {a : Action σ} {t : Site σ}
    (entered : s.enters a = some (x, t)) : Begins b ⟨s, none⟩ a x.request := by
  have begun : (Moment.happen b ⟨s, none⟩ (.act a)).2 = ⟨t, some x⟩ := by
    simp [happen, entered]
  have untouched := (Site.act_of_enters (b := b) entered).1.untouched
  constructor
  · rw [begun]
    exact ⟨x, rfl, rfl⟩
  · rw [begun]
    exact untouched

/-- A search that was cancelled fails at its next look. -/
theorem fails_of_asking {s : Site σ} (asking : x.stage = .asking)
    (cancelled : s.pool.isCancelled x.request.token = true) :
    Fails b ⟨s, some x⟩ (if s.pool.shutDown then .closed else .interrupted) := by
  have ended : x.next b s.pool = Search.finish
      (s.pool.fail x.request (if s.pool.shutDown then .closed else .interrupted)) := by
    simp only [Search.next, asking, cancelled, if_true]
    split <;> rfl
  have last := happen_over ended
  constructor
  · rw [last]
    rfl
  · rw [last]
  · rw [last]
    exact ⟨rfl, rfl, rfl, rfl, rfl⟩

/-- Once all were told of a token, it is obeyed. -/
theorem obeys_of_heard (listening : m.Listening) (told : n ∈ m.site.pool.heard) : m.Obeys b n := by
  have cancelled : m.site.pool.isCancelled (some n) = true :=
    decide_eq_true (listening.pool.heard.subset told)
  refine ⟨fun w waits named => ?_, fun name credentials idle free => ?_,
    fun w waits named idle => ?_, fun x under named => ?_⟩
  · exact listening.pool.unheard w waits n named told
  · obtain ⟨s, search⟩ := m
    obtain rfl : search = none := idle
    exact begins_of_enters (x := (s.launch name credentials (some n)).1) (if_neg free)
  · obtain ⟨s, search⟩ := m
    obtain rfl : search = none := idle
    exact begins_of_enters (x := ⟨w.request, true, _, w.discarded, .asking⟩) (if_pos waits)
  · -- a search that had looked already would have looked before all were told
    have asking : x.stage = .asking := by
      by_contra further
      exact (listening.search x under further).2 n named told
    obtain ⟨s, search⟩ := m
    obtain rfl : search = some x := under
    exact fails_of_asking asking (named ▸ cancelled)

/-- Only a search is interrupted, and only if its own token was cancelled. -/
theorem interrupted_of_happen {h : Happening σ}
    (interrupted : (m.happen b h).1 = .failed .interrupted) :
    h = .next ∧ ∃ x ∈ m.search, ∃ n, x.request.token = some n ∧
      n ∈ m.site.pool.environment.cancelled := by
  have step := step_happen (b := b) m h
  generalize m.happen b h = result at step interrupted
  cases step with
  | rest | goes | enters => cases interrupted
  | @ends x ended under last =>
    obtain ⟨acquired, q⟩ := ended
    obtain rfl : acquired = .failed .interrupted := Site.afterAcquire_eq_failed_iff.mp interrupted
    exact ⟨rfl, x, under, Search.cancelled_of_interrupted last⟩
  | acts noSearch => exact absurd interrupted (Site.not_interrupted noSearch)

/-- An acquire is interrupted only if its own token was cancelled, and no token is but one that was
marked, or cancelled while a call on the backend ran. And a cancellation is not lost: let a token be
marked at some moment, whatever is under way, and all who wait be signalled at some later one at
which no search is; from then on nobody waits for a signal with the token, and every acquire with it
that begins or runs on fails at once, and does nothing else. -/
theorem Reachable.cancellation (reach : Reachable b m) :
    (∀ h, (m.happen b h).1 = .failed .interrupted →
      h = .next ∧ ∃ x ∈ m.search, ∃ n, x.request.token = some n ∧
        n ∈ m.site.pool.environment.cancelled) ∧
    (∀ n ∈ m.site.pool.environment.cancelled, m.WasCancelled b n) ∧
    ∀ n t, Leads b (m.happen b (.act (.mark n))).2 t → t.search = none →
      ∀ u, Leads b (t.happen b (.act .notifyAll)).2 u → u.Obeys b n := by
  refine ⟨fun h => interrupted_of_happen, fun n => reach.wasCancelled,
    fun n t marked idle u later => ?_⟩
  have listening : t.Listening := marked.listening (listening_happen reach.listening _)
  -- the mark is still there when the signal comes
  have cancelled : n ∈ t.site.pool.environment.cancelled :=
    marked.later.cancelled.subset (cancelled_mark b m n)
  -- so all are told of it, and remain told
  have told : n ∈ (t.happen b (.act .notifyAll)).2.site.pool.heard := by
    simp only [happen, idle, Option.isSome_none, Bool.false_eq_true, and_false, if_false]
    exact cancelled
  have afterSignal : (t.happen b (.act .notifyAll)).2.Listening := listening_happen listening _
  exact obeys_of_heard (later.listening afterSignal) (later.heard afterSignal told)

/-- A token is marked when an acquire has looked at it and is about to wait. The acquire waits, and
then is signalled and interrupted. -/
theorem cancellation_of_parking :
    let start : Moment Scripted := ⟨.new ⟨"db", {}⟩ { maxActive := 1 } {}, none⟩
    let m := start.run Scripted.backend
      [.act (.get "a"), .next, .next, .next, .act (.acquire "b" {} (some 7)), .next, .next]
    let marked := (m.happen Scripted.backend (.act (.mark 7))).2
    let t := (marked.happen Scripted.backend .next).2
    let u := (t.happen Scripted.backend (.act .notifyAll)).2
    let w : Waiter := ⟨⟨"b", {}, some 7, 0⟩, 0, 0, some 20_000_000_000⟩
    let v := (u.happen Scripted.backend (.act (.resume w))).2
    t.site.pool.parked = [w] ∧ u.Obeys Scripted.backend 7 ∧
      (v.happen Scripted.backend .next).1 = .failed .interrupted ∧
      (∃ x ∈ v.search, ∃ n, x.request.token = some n ∧
        n ∈ v.site.pool.environment.cancelled) ∧
      v.WasCancelled Scripted.backend 7 := by
  intro start m marked t u w v
  have facts : t.site.pool.parked = [w] ∧ t.search = none ∧
      w ∈ u.site.waiters ∧ u.search = none ∧ u.site.pool.shutDown = false := by
    decide +kernel
  obtain ⟨waits, idle, signalled, stillIdle, serving⟩ := facts
  have reach : Reachable Scripted.backend m := ⟨_, _, _, Leads.refl.run _⟩
  have between : Leads Scripted.backend marked t := .happen .next .refl
  have obeyed := reach.cancellation.2.2 7 t between idle
  have begins : u.Begins Scripted.backend (.resume w) w.request :=
    (obeyed u .refl).resumes w signalled rfl stillIdle
  have interrupted : (v.happen Scripted.backend .next).1 = .failed .interrupted := by
    obtain ⟨x, under, same⟩ := begins.search
    have fails := (obeyed v (.happen _ .refl)).fails x under (by rw [same])
    rw [begins.untouched.shutDown, serving] at fails
    exact fails.outcome
  have last : Reachable Scripted.backend v :=
    ⟨_, _, _, .happen _ (.happen _ (.happen _ (.happen _ (Leads.refl.run _))))⟩
  have further : Leads Scripted.backend marked v := .happen _ (.happen _ between)
  have isCancelled : 7 ∈ v.site.pool.environment.cancelled :=
    further.later.cancelled.subset (cancelled_mark Scripted.backend m 7)
  exact ⟨waits, obeyed u .refl, interrupted, (last.cancellation.1 .next interrupted).2,
    last.cancellation.2.1 7 isCancelled⟩

end Moment

end LeasePool
