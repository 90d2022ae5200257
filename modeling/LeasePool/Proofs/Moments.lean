import LeasePool.Moment
import LeasePool.Proofs.Provenance

/-!
# What can happen at a moment

A stage of a search can come to few things, and so can whatever happens at a moment. This file tells
once what these are. It also ties moments to sites: a search that nothing interrupts comes to what
the action with which it began comes to at a site.

## Main definitions

* `Search.Next`: what the next stage of a search can come to.
* `Site.Tries`: an acquire comes to try a candidate.
* `Moment.Finishes`: a search comes to its end with nothing in between.
* `Moment.Step`: what a happening can come to.
* `Moment.run`: several happenings, one after the other.

## Main results

* `Search.next_cases`, `Moment.step_happen`: a stage, and a happening, comes to one of these things.
* `Moment.finishes_act`: a search that nothing interrupts comes to what it comes to at a site.
* `Moment.Leads.keeps`: what everything that happens keeps is kept by a run.
-/

namespace LeasePool

/-! ### Stages -/

namespace Search

variable {σ : Type} (b : Backend σ) {x y : Search} {p q : Pool σ}

/-- What the next stage of a search can come to. -/
inductive Next (x : Search) (p : Pool σ) : Progress × Pool σ → Prop
  | closed (stage : x.stage = .asking) (shut : p.shutDown = true) :
      Next x p (finish (p.fail x.request .closed))
  | interrupted (stage : x.stage = .asking) (serving : p.shutDown = false)
      (cancelled : p.isCancelled x.request.token = true) :
      Next x p (finish (p.fail x.request .interrupted))
  | wanted (stage : x.stage = .asking) (serving : p.shutDown = false)
      (wanted : p.isCancelled x.request.token = false) :
      Next x p (.goes { x with stage := .choosing }, p)
  | refused {cause : BackendError} {q : Pool σ} (stage : x.stage = .choosing)
      (found : p.candidate b x.request.credentials = (.error cause, q)) :
      Next x p (finish (q.fail x.request (.connect cause)))
  | chosen {candidate : Option Lease} {later : Stage} {q : Pool σ} (stage : x.stage = .choosing)
      (found : p.candidate b x.request.credentials = (.ok candidate, q))
      (goesOn : later ≠ .asking) : Next x p (.goes { x with stage := later }, q)
  | waiting (stage : x.stage = .parking) :
      Next x p (finish (.waiting, p.park x.request x.waited x.discarded))
  | granted {l : Lease} {q : Pool σ} (stage : x.stage = .trying l)
      (good : p.usable b l = (true, q)) :
      Next x p (finish (.granted (q.handOut b x.request l).1, (q.handOut b x.request l).2))
  | discarded {l : Lease} {q : Pool σ} {spare : Nat} (stage : x.stage = .trying l)
      (bad : p.usable b l = (false, q)) :
      Next x p (.goes { x with spare, discarded := x.discarded + 1, stage := .asking },
        q.discard b l)
  | exhausted {l : Lease} {q : Pool σ} (stage : x.stage = .trying l)
      (bad : p.usable b l = (false, q)) :
      Next x p (finish ((q.discard b l).fail x.request (.exhausted (x.discarded + 1))))

theorem next_cases (x : Search) (p : Pool σ) : Next b x p (x.next b p) := by
  unfold next
  split
  · rename_i stage
    split
    · rename_i shut
      exact .closed stage shut
    · rename_i serving
      split
      · rename_i cancelled
        exact .interrupted stage (by simpa using serving) cancelled
      · rename_i wanted
        exact .wanted stage (by simpa using serving) (by simpa using wanted)
  · rename_i stage
    split
    · rename_i found
      exact .refused stage found
    · rename_i found
      exact .chosen stage found nofun
    · rename_i found
      exact .chosen stage found nofun
  · rename_i stage
    exact .waiting stage
  · rename_i l stage
    split
    · rename_i good
      exact .granted stage good
    · rename_i bad
      split
      · exact .exhausted stage bad
      · exact .discarded stage bad

theorem terms_next (x : Search) (p : Pool σ) : (x.next b p).2.terms = p.terms := by
  have next := next_cases b x p
  generalize x.next b p = result at next
  cases next with
  | closed | interrupted | wanted | waiting => rfl
  | refused _ found | chosen _ found =>
    have kept := Pool.terms_of_found b found
    exact kept
  | granted _ checked | discarded _ checked | exhausted _ checked =>
    have kept := Pool.terms_of_checked b checked
    exact kept

theorem later_next (x : Search) (p : Pool σ) :
    p.environment.Later (x.next b p).2.environment := by
  have next := next_cases b x p
  generalize x.next b p = result at next
  have noted (q : Pool σ) (event : Event) (other : ∀ n, event.opening? n = none) :
      q.environment.Later (q.record event).environment := (q.used_note other).toLater
  cases next with
  | closed | interrupted => exact noted p _ fun _ => rfl
  | wanted => exact .refl _
  | refused _ found => exact (Pool.later_of_found b found).trans (noted _ _ fun _ => rfl)
  | chosen _ found => exact Pool.later_of_found b found
  | waiting => exact noted p (.parked x.request.name) fun _ => rfl
  | @granted l q _ good =>
    exact ((Pool.used_of_checked b good).trans (q.used_handOut b x.request l)).toLater
  | @discarded l q _ _ bad =>
    exact ((Pool.used_of_checked b bad).trans (q.used_discard b l)).toLater
  | @exhausted l q _ bad =>
    exact ((Pool.used_of_checked b bad).trans (q.used_discard b l)).toLater.trans
      (noted _ _ fun _ => rfl)

/-- Nobody begins or ends to wait, unless the search is about to wait. -/
theorem queues_next (notParking : x.stage ≠ .parking) (p : Pool σ) :
    (x.next b p).2.queues = p.queues := by
  have next := next_cases b x p
  have afterCandidate := p.queues_candidate b x.request.credentials
  generalize x.next b p = result at next
  cases next with
  | closed | interrupted | wanted => rfl
  | refused _ found | chosen _ found =>
    rw [found] at afterCandidate
    exact afterCandidate
  | waiting stage => exact absurd stage notParking
  | granted _ checked | discarded _ checked | exhausted _ checked =>
    have afterCheck := congrArg (fun result => result.2.queues) checked
    exact afterCheck.symm

theorem request_of_goes (goes : x.next b p = (.goes y, q)) : y.request = x.request := by
  have next := next_cases b x p
  rw [goes] at next
  cases next <;> rfl

end Search

/-! ### Actions -/

namespace Site

variable {σ : Type} {b : Backend σ} {s t : Site σ} {a : Action σ} {x : Search}

/-- An action that begins a search does nothing else: what it comes to is what the search comes
to. -/
theorem act_of_enters (entered : s.enters a = some (x, t)) :
    s.pool.Starts t.pool ∧ x.stage = .asking ∧
      s.act b a = t.afterAcquire x.request.name
        (Pool.seek b x.request x.waited x.spare x.discarded t.pool) := by
  have launched {u : Site σ} {name : String} {credentials : Credentials} {token : Option Nat}
      (same : u.launch name credentials token = (x, t)) :
      u.pool.Starts t.pool ∧ x.stage = .asking ∧
        u.start b name credentials token = t.afterAcquire x.request.name
          (Pool.seek b x.request x.waited x.spare x.discarded t.pool) := by
    obtain ⟨rfl, rfl⟩ := Prod.mk.inj same
    exact ⟨.begun name, rfl, (afterAcquire_pool u _ name _).symm⟩
  have launched? {name : String} {credentials : Credentials} {token : Option Nat}
      (same : s.launch? name credentials token = some (x, t)) :
      s.pool.Starts t.pool ∧ x.stage = .asking ∧
        s.begin b name credentials token = t.afterAcquire x.request.name
          (Pool.seek b x.request x.waited x.spare x.discarded t.pool) := by
    unfold launch? at same
    split at same
    · cases same
    · rename_i free
      rw [begin, if_neg free]
      exact launched (Option.some.inj same)
  cases a with
  | get name => exact launched? entered
  | acquire name credentials token => exact launched? entered
  | proceed name =>
    obtain ⟨credentials, found, same⟩ := Option.map_eq_some_iff.mp entered
    obtain ⟨starts, stage, started⟩ := launched same
    refine ⟨starts, stage, ?_⟩
    simp only [act, found]
    exact started
  | resume w =>
    simp only [enters] at entered
    split at entered
    · rename_i waits
      obtain ⟨rfl, rfl⟩ := Prod.mk.inj (Option.some.inj entered)
      refine ⟨.woken w, rfl, ?_⟩
      rw [act, if_pos waits]
      exact (afterAcquire_pool s _ w.request.name _).symm
    · cases entered
  | _ => cases entered

/-- An action that asks for a connection but begins no search does nothing. -/
theorem act_of_noSearch (noSearch : s.enters a = none) (asks : s.credentials? a ≠ none) :
    (s.act b a).2 = s := by
  have taken {name : String} {credentials : Credentials} {token : Option Nat}
      (noSearch : s.launch? name credentials token = none) :
      (s.begin b name credentials token).2 = s := by
    unfold launch? at noSearch
    split at noSearch
    · rename_i taken
      rw [begin, if_pos taken]
    · cases noSearch
  cases a with
  | get name => exact taken noSearch
  | acquire name credentials token => exact taken noSearch
  | proceed name => exact absurd (Option.map_eq_none_iff.mp noSearch) asks
  | resume w =>
    simp only [enters] at noSearch
    split at noSearch
    · cases noSearch
    · rename_i absent
      rw [act, if_neg absent]
  | _ => exact absurd rfl asks

/-- In the course of an action an acquire comes to try a candidate, in a pool that remains when it
has turned down so many others. -/
inductive Tries (b : Backend σ) (s : Site σ) (a : Action σ) (k : Nat) (l : Lease) (p : Pool σ) :
    Prop
  | intro (x : Search) (t : Site σ) (q : Pool σ) (entered : s.enters a = some (x, t))
      (rounds : Pool.Rounds b x.request k t.pool q) (few : k ≤ x.spare)
      (serving : q.shutDown = false) (wanted : q.isCancelled x.request.token = false)
      (found : q.candidate b x.request.credentials = (.ok (some l), p))

/-- Only a search waits. -/
theorem enters_of_waiting (waits : (s.act b a).1 = .waiting) : ∃ x t, s.enters a = some (x, t) := by
  have launched? {name : String} {credentials : Credentials} {token : Option Nat}
      (waits : (s.begin b name credentials token).1 = .waiting) :
      ∃ x t, s.launch? name credentials token = some (x, t) := by
    unfold begin at waits
    split at waits
    · cases waits
    · rename_i free
      exact ⟨_, _, if_neg free⟩
  cases a with
  | get name => exact launched? waits
  | acquire name credentials token => exact launched? waits
  | proceed name =>
    simp only [act] at waits
    split at waits
    · rename_i credentials found
      exact ⟨_, _, congrArg (Option.map _) found⟩
    · cases waits
  | resume w =>
    simp only [act] at waits
    split at waits
    · rename_i there
      exact ⟨_, _, if_pos there⟩
    · cases waits
  | rouse | lookUp =>
    simp only [act] at waits
    split at waits <;> cases waits
  | release | validate =>
    simp only [act, withHandle] at waits
    split at waits <;> cases waits
  | perform | borrow =>
    simp only [act, withHandle] at waits
    split at waits
    · split at waits <;> cases waits
    · cases waits
  | mark | notifyAll | change | closeAll | shutdown | elapse | backend => cases waits

/-- Time goes on, and a token that was cancelled stays cancelled, whatever happens. -/
theorem later_act (s : Site σ) (a : Action σ) :
    s.pool.environment.Later (s.act b a).2.pool.environment := by
  have step := step_act b s a
  generalize s.act b a = result at step
  cases step with
  | rest | lookUp | notifyAll | rouse => exact .refl _
  | outside _ e used => exact used.toLater
  | begin r =>
    rw [pool_afterAcquire]
    exact (Pool.Starts.begun r.name).used.toLater.trans (Pool.later_seek b r false _ 0 _)
  | resume w =>
    rw [pool_afterAcquire]
    exact (Pool.Starts.woken w).used.toLater.trans
      (Pool.later_seek b w.request true _ w.discarded _)
  | release name l => exact (Pool.used_release b s.pool l).toLater
  | close source settings shutDown =>
    exact (Pool.used_clear b { s.pool with source, settings, shutDown }).toLater

end Site

namespace Moment

variable {σ : Type} {b : Backend σ} {m t : Moment σ} {x : Search}

/-! ### Searches that nothing interrupts -/

/-- A search comes to its end with nothing in between. -/
inductive Finishes (b : Backend σ) : Moment σ → Outcome × Moment σ → Prop
  | last {m : Moment σ} (ends : (m.happen b .next).2.search = none) :
      Finishes b m (m.happen b .next)
  | more {m : Moment σ} {out : Outcome × Moment σ}
      (others : Finishes b (m.happen b .next).2 out) : Finishes b m out

theorem happen_goes {s : Site σ} {y : Search} {q : Pool σ}
    (goes : x.next b s.pool = (.goes y, q)) :
    happen b ⟨s, some x⟩ .next = (.done, ⟨{ s with pool := q }, some y⟩) := by
  simp only [happen, goes]

theorem happen_over {s : Site σ} {ended : Acquired × Pool σ}
    (last : x.next b s.pool = Search.finish ended) :
    happen b ⟨s, some x⟩ .next =
      ((s.afterAcquire x.request.name ended).1,
        ⟨(s.afterAcquire x.request.name ended).2, none⟩) := by
  simp only [happen, last, Search.finish]

/-- The stages that are left to a search finish it. -/
theorem finishes_of_runs {s : Site σ} {p : Pool σ} {ended : Acquired × Pool σ}
    (runs : Search.Runs b x p ended) :
    Finishes b ⟨{ s with pool := p }, some x⟩
      ((s.afterAcquire x.request.name ended).1,
        ⟨(s.afterAcquire x.request.name ended).2, none⟩) := by
  induction runs with
  | @ends x p ended last =>
    have ends := happen_over (s := { s with pool := p }) last
    rw [Site.afterAcquire_pool] at ends
    rw [← ends]
    exact .last (by rw [ends])
  | @goes x y p q ended first _ ih =>
    have goes := happen_goes (s := { s with pool := p }) first
    rw [Search.request_of_goes b first] at ih
    refine .more ?_
    rw [goes]
    exact ih

/-- A search that nothing interrupts comes to what its action comes to at a site. -/
theorem finishes_act {s t : Site σ} {a : Action σ} (entered : s.enters a = some (x, t)) :
    Finishes b ⟨t, some x⟩ ((s.act b a).1, ⟨(s.act b a).2, none⟩) := by
  obtain ⟨r, waited, spare, discarded, stage⟩ := x
  obtain ⟨-, asking, whole⟩ := Site.act_of_enters (b := b) entered
  obtain rfl : stage = .asking := asking
  rw [whole]
  exact finishes_of_runs (Search.runs_seek b r waited spare discarded t.pool)

/-! ### Happenings -/

/-- What a happening can come to. -/
inductive Step (b : Backend σ) (m : Moment σ) : Happening σ → Outcome × Moment σ → Prop
  /-- Nothing happens. -/
  | rest {h : Happening σ} : Step b m h (.done, m)
  /-- The search under way goes on. -/
  | goes {x y : Search} {q : Pool σ} (under : m.search = some x)
      (goes : x.next b m.site.pool = (.goes y, q)) :
      Step b m .next (.done, ⟨{ m.site with pool := q }, some y⟩)
  /-- The search under way ends. -/
  | ends {x : Search} {ended : Acquired × Pool σ} (under : m.search = some x)
      (last : x.next b m.site.pool = Search.finish ended) :
      Step b m .next ((m.site.afterAcquire x.request.name ended).1,
        ⟨(m.site.afterAcquire x.request.name ended).2, none⟩)
  /-- A search begins. -/
  | enters {a : Action σ} {x : Search} {t : Site σ} (entered : m.site.enters a = some (x, t)) :
      Step b m (.act a) (.done, ⟨t, some x⟩)
  /-- Something else happens, beside the search under way if it may. -/
  | acts {a : Action σ} (noSearch : m.site.enters a = none) (free : a.Locks → m.search = none) :
      Step b m (.act a) ((m.site.act b a).1, { m with site := (m.site.act b a).2 })

theorem step_happen (m : Moment σ) (h : Happening σ) : Step b m h (m.happen b h) := by
  obtain ⟨s, search⟩ := m
  cases h with
  | next =>
    cases search with
    | none => exact .rest
    | some x =>
      cases result : x.next b s.pool with
      | mk progress q =>
        cases progress with
        | goes y =>
          rw [happen_goes result]
          exact .goes rfl result
        | ends acquired =>
          have last : x.next b s.pool = Search.finish (acquired, q) := result
          rw [happen_over last]
          exact .ends rfl last
  | act a =>
    simp only [happen]
    split
    · exact .rest
    · rename_i free
      have free : a.Locks → search = none := fun locks =>
        Option.not_isSome_iff_eq_none.mp fun under => free ⟨locks, under⟩
      split
      · rename_i entered
        exact .enters entered
      · rename_i noSearch
        exact .acts noSearch free

/-- Time goes on, and a token that was cancelled stays cancelled. -/
theorem later_happen (m : Moment σ) (h : Happening σ) :
    m.site.pool.environment.Later (m.happen b h).2.site.pool.environment := by
  have step := step_happen (b := b) m h
  generalize m.happen b h = result at step
  cases step with
  | rest => exact .refl _
  | @goes x _ _ _ goes =>
    have later := x.later_next b m.site.pool
    rw [goes] at later
    exact later
  | @ends x _ _ last =>
    have later := x.later_next b m.site.pool
    rw [last] at later
    rw [Site.pool_afterAcquire]
    exact later
  | enters entered =>
    have starts := (Site.act_of_enters (b := b) entered).1
    exact starts.used.toLater
  | @acts a => exact Site.later_act m.site a

/-! ### Runs -/

/-- What everything that happens keeps is kept by a run. -/
theorem Leads.keeps {P : Moment σ → Prop} (keep : ∀ v h, P v → P (v.happen b h).2)
    (leads : Leads b m t) (start : P m) : P t := by
  induction leads with
  | refl => exact start
  | happen h _ ih => exact keep _ h ih

theorem Leads.later (leads : Leads b m t) :
    m.site.pool.environment.Later t.site.pool.environment :=
  leads.keeps (P := fun v => m.site.pool.environment.Later v.site.pool.environment)
    (fun v h before => before.trans (later_happen v h)) (.refl _)

/-- A moment after several happenings. -/
def run (b : Backend σ) (m : Moment σ) (happenings : List (Happening σ)) : Moment σ :=
  happenings.foldl (fun t h => (t.happen b h).2) m

theorem Leads.run (leads : Leads b m t) (happenings : List (Happening σ)) :
    Leads b m (t.run b happenings) := by
  induction happenings generalizing t with
  | nil => exact leads
  | cons h _ ih => exact ih (.happen h leads)

end Moment

end LeasePool
