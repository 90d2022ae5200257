import LeasePool.Proofs.Deeds
import LeasePool.Proofs.Moments

/-!
# How an acquire is exhausted

An acquire that turns down a connection makes room for the next, so it never waits after that. What
it turns down it therefore turns down in one piece, under the settings of that moment, and it starts
counting at nothing whenever it runs. So it is exhausted by exactly one connection more than the
settings tolerate, whatever the backend does; and since no more connections lie idle than may, some
of these connections it has opened itself. What the settings tolerate is the sum of two of them,
unless that is too large to be counted.

## Main definitions

* `Site.Turn`: an acquire comes to run, perhaps after it has waited.
* `Site.Measured`: what an acquire does in a turn keeps within the settings.

## Main results

* `Site.Reachable.unspent`: whoever waits has turned down nothing.
* `Site.Turn.measured`: in all its turns but the last an acquire does nothing but wait, and in the
  last its deeds keep within the settings.
-/

namespace LeasePool

open Ledger

namespace Pool

variable {σ : Type} {b : Backend σ} {p : Pool σ} {held : List Lease}

/-- Nobody waits who has turned down a connection, unless one did before the search. -/
theorem unspent_seek (orderly : p.Orderly [] held) (r : Request) (waited : Bool) (spare : Nat)
    (unspent : ∀ w ∈ p.waiters, w.discarded = 0) :
    ∀ w ∈ (seek b r waited spare 0 p).2.waiters, w.discarded = 0 := by
  by_cases waits : (seek b r waited spare 0 p).1 = .waiting
  · rw [(seek_of_waiting orderly waits).2]
    intro w there
    have whole : (p.park r waited 0).waiters = p.waiters ++ [⟨r, 0, p.now, p.deadline?⟩] := by
      simp [waiters, park, record]
    rw [whole, List.mem_append, List.mem_singleton] at there
    rcases there with before | rfl
    · exact unspent w before
    · rfl
  · rw [waiters_of_queues (queues_seek b r waited spare 0 p waits)]
    exact unspent

end Pool

namespace Site

variable {σ : Type} {b : Backend σ} {allowed : Site σ → Action σ → Prop} {s t : Site σ}
  {a : Action σ} {x : Search} {r : Request} {made : List Entry} {earlier : List (List Entry)}

/-- Whoever waits has turned down nothing. -/
theorem Reachable.unspent (reach : Reachable b allowed s) :
    ∀ w ∈ s.waiters, w.discarded = 0 := by
  refine reach.keepsOrderly (P := fun t => ∀ w ∈ t.waiters, w.discarded = 0)
    (fun _ _ _ _ there => absurd there List.not_mem_nil) fun t a _ orderly unspent => ?_
  have step := step_act b t a
  generalize t.act b a = result at step
  cases step with
  | rest | outside | lookUp => exact unspent
  | notifyAll =>
    rw [waiters, Pool.waiters_notifyAll]
    exact unspent
  | rouse w waits => exact fun w there => unspent w ((Pool.perm_waiters_rouse waits).subset there)
  | begin r lookups =>
    rw [waiters, pool_afterAcquire]
    exact Pool.unspent_seek orderly.pool.record r false _ unspent
  | resume w waits =>
    rw [waiters, pool_afterAcquire, Pool.resume, unspent w waits]
    refine Pool.unspent_seek orderly.pool.wake w.request true _ fun w' there => ?_
    simp only [Pool.waiters, Pool.wake, List.mem_append] at there
    refine unspent w' ?_
    simp only [waiters, Pool.waiters, List.mem_append]
    exact there.imp List.mem_of_mem_erase (Or.imp List.mem_of_mem_erase List.mem_of_mem_erase)
  | release name l =>
    rw [waiters, Pool.waiters_release]
    exact unspent
  | close source settings shutDown =>
    rw [waiters, Pool.waiters_closeAll]
    exact unspent

/-- Whenever an acquire runs it may turn down as many connections as the settings tolerate. -/
theorem Reachable.spare_of_enters (reach : Reachable b allowed s)
    (entered : s.enters a = some (x, t)) :
    x.discarded = 0 ∧ x.spare = s.pool.settings.badConnectionLimit := by
  have launched {u : Site σ} {name : String} {credentials : Credentials} {token : Option Nat}
      (settings : u.pool.settings = s.pool.settings)
      (same : u.launch name credentials token = (x, t)) :
      x.discarded = 0 ∧ x.spare = s.pool.settings.badConnectionLimit := by
    obtain ⟨rfl, -⟩ := Prod.mk.inj same
    exact ⟨rfl, congrArg Settings.badConnectionLimit settings⟩
  have launched? {name : String} {credentials : Credentials} {token : Option Nat}
      (same : s.launch? name credentials token = some (x, t)) :
      x.discarded = 0 ∧ x.spare = s.pool.settings.badConnectionLimit := by
    unfold launch? at same
    split at same
    · cases same
    · exact launched rfl (Option.some.inj same)
  cases a with
  | get => exact launched? entered
  | acquire => exact launched? entered
  | proceed =>
    obtain ⟨credentials, -, same⟩ := Option.map_eq_some_iff.mp entered
    exact launched (u := { s with lookups := s.lookups.filter _ }) rfl same
  | resume w =>
    simp only [enters] at entered
    split at entered
    · rename_i waits
      obtain ⟨rfl, -⟩ := Prod.mk.inj (Option.some.inj entered)
      have unspent := reach.unspent w waits
      exact ⟨unspent, by rw [unspent, Nat.sub_zero]⟩
    · cases entered
  | _ => cases entered

/-! ### Turns -/

/-- An acquire comes to run: it begins, or it waited and runs on. It may have run before and gone on
to wait; what it did in those turns is given as well, the latest turn first. -/
inductive Turn (b : Backend σ) (r : Request) : Site σ → Action σ → List (List Entry) → Prop
  | begins {s t : Site σ} {a : Action σ} {x : Search} (reach : Reachable b (fun _ _ => True) s)
      (entered : s.enters a = some (x, t)) (first : x.waited = false) (request : x.request = r) :
      Turn b r s a []
  | again {s t : Site σ} {a : Action σ} {w : Waiter} {made : List Entry}
      {earlier : List (List Entry)} (before : Turn b r s a earlier)
      (waits : (s.act b a).1 = .waiting)
      (deeds : (s.act b a).2.pool.deeds = made ++ s.pool.deeds)
      (meanwhile : Leads b (fun _ a' => ∀ w', a' = .resume w' → w'.request ≠ r) (s.act b a).2 t)
      (waiter : w ∈ t.waiters) (request : w.request = r) : Turn b r t (.resume w) (made :: earlier)

/-- How an acquire is exhausted that tells of so many attempts. -/
structure Exhausts (s : Site σ) (n : Nat) (made : List Entry) (t : Site σ) : Prop where
  limit : n = s.pool.settings.badConnectionLimit + 1
  /-- The limit is the sum of two settings, unless that is too large to be counted. -/
  attempts : s.pool.settings.LimitFits →
    n = s.pool.settings.maxIdle + s.pool.settings.badConnectionTolerance + 1
  discards : (numbers Event.discarded? made).length = n
  badConnections : t.pool.statistics.badConnections =
    s.pool.statistics.badConnections + n
  /-- Connections that the acquire opened and turned down. -/
  opened : (numbers Event.opened? made).Sublist (numbers Event.discarded? made)
  once : (numbers Event.opened? made).Nodup
  tolerance_lt : s.pool.settings.LimitFits → 1 ≤ s.pool.settings.maxIdle →
    s.pool.settings.badConnectionTolerance + 1 ≤ (numbers Event.opened? made).length

/-- What an acquire does in a turn keeps within the settings, which remain in force. -/
structure Measured (s : Site σ) (made : List Entry) (out : Outcome × Site σ) : Prop where
  deeds : out.2.pool.deeds = made ++ s.pool.deeds
  settings : out.2.pool.settings = s.pool.settings
  waiting : out.1 = .waiting → Harmless made
  discards_le : (numbers Event.discarded? made).length ≤ s.pool.settings.badConnectionLimit + 1
  openings_le : count Event.isOpening made ≤ s.pool.settings.badConnectionLimit + 1
  reclaims_le : count Event.isReclaimed made ≤ 1
  exhausted : ∀ n, out.1 = .failed (.exhausted n) → s.Exhausts n made out.2

theorem opened_nodup (agrees : t.places.Agrees) (deeds : t.pool.deeds = made ++ s.pool.deeds) :
    (numbers Event.opened? made).Nodup := by
  have once : t.pool.environment.opened.Nodup := agrees.opened ▸ List.nodup_range'
  have told := t.pool.environment.numbers_deeds
  rw [← Pool.deeds, deeds, numbers_append] at told
  exact (told ▸ List.nodup_reverse.mpr once).of_append_left

theorem Reachable.measured_act (reach : Reachable b allowed s)
    (entered : s.enters a = some (x, t)) : ∃ made, s.Measured made (s.act b a) := by
  obtain ⟨starts, -, whole⟩ := act_of_enters (b := b) entered
  obtain ⟨unspent, limit⟩ := reach.spare_of_enters entered
  have orderly := starts.orderly reach.orderly.pool
  have terms := Pool.terms_seek b x.request x.waited x.spare x.discarded t.pool
  obtain ⟨_, search⟩ := Pool.searched_seek (b := b) orderly x.request x.waited x.spare x.discarded
  obtain ⟨made, searched⟩ := starts.searched search
  have pool : (s.act b a).2.pool =
      (Pool.seek b x.request x.waited x.spare x.discarded t.pool).2 := by
    rw [whole, pool_afterAcquire]
  have agrees : (s.act b a).2.places.Agrees := reach.agrees.moves (moves_act reach.orderly a)
  have deeds : (s.act b a).2.pool.deeds = made ++ s.pool.deeds := by
    rw [pool]
    exact searched.deeds
  have discards_le := searched.discards_le
  have openings_le := searched.openings_le
  rw [limit] at discards_le openings_le
  refine ⟨made, deeds, ?_, fun waits => searched.waiting ?_, discards_le,
    openings_le, searched.reclaims_le, fun n exhausted => ?_⟩
  · rw [pool]
    exact congrArg Pool.Terms.settings (terms.trans starts.terms)
  · rw [whole] at waits
    exact afterAcquire_eq_waiting_iff.mp waits
  · rw [whole] at exhausted
    obtain ⟨attempts, discards, opened, enough⟩ :=
      searched.exhausted n (afterAcquire_eq_failed_iff.mp exhausted)
    have idle_fits := reach.orderly.pool.idle_fits
    rw [unspent, Nat.zero_add, limit] at attempts
    rw [limit] at discards enough
    have counted := attempts.trans discards.symm
    refine ⟨attempts, fun fits => ?_, counted.symm, ?_, opened, opened_nodup agrees deeds,
      fun fits _ => ?_⟩
    · rw [attempts, Settings.badConnectionLimit_of_fits fits]
    · rw [pool, searched.badConnections, counted]
    · rw [Settings.badConnectionLimit_of_fits fits] at enough
      omega

/-- In all its turns but the last an acquire does nothing but wait. In any turn it turns down at
most one connection more than the settings tolerate, tries to open no more than that, and takes at
most one from its holder. If it is exhausted, then by exactly so many as it tells of, all of them
turned down in this turn; if any may lie idle, and the limit fits, it has opened itself at least as
many of them as are tolerated beyond those that may, and one more. -/
theorem Turn.measured (turn : Turn b r s a earlier) :
    (∃ made, s.Measured made (s.act b a)) ∧ ∀ made ∈ earlier, Harmless made := by
  have whole : Reachable b (fun _ _ => True) s ∧ (∃ x t, s.enters a = some (x, t)) ∧
      ∀ made ∈ earlier, Harmless made := by
    induction turn with
    | begins reach entered => exact ⟨reach, ⟨_, _, entered⟩, nofun⟩
    | @again s t a w made earlier before waits deeds meanwhile waiter request ih =>
      obtain ⟨reach, ⟨x, u, entered⟩, harmless⟩ := ih
      obtain ⟨made', measured⟩ := reach.measured_act entered
      have same : made' = made :=
        List.append_cancel_right (measured.deeds.symm.trans deeds)
      have after : Reachable b (fun _ _ => True) t := by
        refine meanwhile.keeps (P := Reachable b fun _ _ => True) (fun _ a' _ before => ?_) ?_
        · exact before.step a' trivial
        · exact reach.step a trivial
      refine ⟨after, ⟨_, _, if_pos waiter⟩, fun others there => ?_⟩
      rcases List.mem_cons.mp there with rfl | there
      · exact same ▸ measured.waiting waits
      · exact harmless others there
  obtain ⟨reach, ⟨x, t, entered⟩, harmless⟩ := whole
  exact ⟨reach.measured_act entered, harmless⟩

/-- An acquire waits for a connection that breaks before it comes back. A new one is broken as well,
and the acquire is exhausted. -/
theorem measured_exhausted :
    let broken : Scripted → Scripted := fun c =>
      { c.adjustAll fun conduct => { conduct with closed := true } with
        template := { closed := true } }
    let w : Waiter := ⟨⟨"b", {}, none, 0⟩, 0, 0, some 20_000_000_000⟩
    let s := (new ⟨"db", {}⟩ { maxActive := 1, maxIdle := 1, badConnectionTolerance := 0 } {}).run
      Scripted.backend [.get "a"]
    let t := (s.act Scripted.backend (.get "b")).2.run Scripted.backend
      [.release "a", .backend broken]
    ∃ before, Turn Scripted.backend w.request t (.resume w) [before] ∧
      (t.act Scripted.backend (.resume w)).1.failed? = some (.exhausted 2) ∧
      (∃ made, t.Measured made (t.act Scripted.backend (.resume w))) ∧
      ∀ made ∈ [before], Harmless made := by
  intro broken w s t
  have reach : Reachable Scripted.backend (fun _ _ => True) s :=
    ⟨_, _, _, Leads.refl.run _ fun _ _ _ => trivial⟩
  let asked := s.launch "b" s.pool.source.credentials none
  -- in one piece, so that the sites are evaluated once
  obtain ⟨free, request, parks, waiting, exhausted⟩ :
      ¬ s.IsTaken "b" ∧ asked.1.request = w.request ∧
        (Pool.seek Scripted.backend asked.1.request asked.1.waited asked.1.spare asked.1.discarded
          asked.2.pool).1 = .waiting ∧
        w ∈ t.waiters ∧
        (t.act Scripted.backend (.resume w)).1.failed? = some (.exhausted 2) := by
    decide +kernel
  have entered : s.enters (.get "b") = some asked := if_neg free
  have waits : (s.act Scripted.backend (.get "b")).1 = .waiting := by
    rw [(act_of_enters entered).2.2]
    exact afterAcquire_eq_waiting_iff.mpr parks
  obtain ⟨before, measured⟩ := reach.measured_act (b := Scripted.backend) entered
  have turn : Turn Scripted.backend w.request t (.resume w) [before] := by
    refine .again (.begins reach entered rfl request) waits measured.deeds ?_ waiting rfl
    refine Leads.refl.run _ fun u a' there w' same => ?_
    simp [same] at there
  exact ⟨before, turn, exhausted, turn.measured⟩

end Site

end LeasePool
