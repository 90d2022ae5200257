import LeasePool.Proofs.Bookkeeping
import LeasePool.Proofs.Health
import Mathlib.Order.Bounds.Defs

/-!
# No churn with a healthy backend

While its backend is in good health, and nobody closes a connection or changes anything about the
pool, a pool keeps every connection that it ever opened. With room for as many idle connections as
may be active, it opens one only when all others are held, so that it has opened as many as were
ever held at one time, however long it runs and whoever waits, hands back, is overdue or gives up.

## Main definitions

* `Action.IsGentle`: nobody closes a connection or changes anything about the pool.
* `Pool.lost`, `Pool.Traced`: the handles of a connection that are good no more; each of them is
  left from a reclaim.
* `Site.Smooth`: what a gentle action comes to in good health.
* `Site.actives`: how many leases were active at the times of a run.
* `Site.Unchurned`: what holds of a run in good health.

## Main results

* `Site.Thriving.smooth_act`, `Site.Thriving.act`: a gentle action in good health gives nothing up.
* `Site.disposed_eq_nil`: where nothing was given up no connection is disposed of.
* `Site.sustained_run`: what a run in good health keeps up from action to action.
* `Site.unchurned_of_healthy`: a run in good health keeps its connections.
-/

namespace LeasePool

/-- Nobody closes a connection or changes anything about the pool. -/
def Action.IsGentle {σ : Type} : Action σ → Prop
  | .perform _ operation => operation ≠ .close
  | .borrow _ operations => .close ∉ operations
  | .change _ | .closeAll | .shutdown => False
  | _ => True

theorem Action.IsGentle.not_closes {σ : Type} {a : Action σ} (gentle : a.IsGentle) :
    ¬ a.Closes := by
  cases a with
  | change | closeAll | shutdown => exact gentle.elim
  | _ => exact id

namespace Event

/-- The lease of a connection is taken from its holder for being overdue. -/
@[simp] def reclaims (n : Nat) : Event → Bool
  | .reclaimed m => m = n
  | _ => false

/-- A lease of a connection is handed back that was revoked. -/
@[simp] def spurns (n : Nat) : Event → Bool
  | .spurned m => m = n
  | _ => false

end Event

/-! ### Handles that were reclaimed -/

namespace Pool

open Ledger

variable {σ : Type} {b : Backend σ} {p q : Pool σ} {r : Request} {l : Lease}
  {held held' : List Lease} {n : Nat}

/-- How many of the leases that callers hold are of a connection and good no more. -/
def lost (p : Pool σ) (held : List Lease) (n : Nat) : Nat :=
  held.countP fun l => l.connection = n ∧ ¬ p.IsValid l

/-- Whenever a connection was reclaimed, a caller kept a lease of it that was good no more, and has
it still or has handed it back since. -/
def Traced (p : Pool σ) (held : List Lease) : Prop :=
  ∀ n, count (Event.reclaims n) p.decisions = count (Event.spurns n) p.decisions + p.lost held n

theorem lost_perm (same : held.Perm held') (n : Nat) : p.lost held n = p.lost held' n :=
  same.countP_eq _

theorem lost_cons (p : Pool σ) (l : Lease) (held : List Lease) (n : Nat) :
    p.lost (l :: held) n =
      p.lost held n + if l.connection = n ∧ ¬ p.IsValid l then 1 else 0 := by
  rw [lost, List.countP_cons]
  simp [lost]

theorem lost_congr (revoked : q.revoked = p.revoked) (held : List Lease) (n : Nat) :
    q.lost held n = p.lost held n :=
  List.countP_congr fun l _ => by simp [IsValid, revoked]

/-- To revoke a lease does nothing to the others. -/
theorem lost_of_apart (revoked : q.revoked = l.key :: p.revoked)
    (apart : l.key ∉ held.map Lease.key) (n : Nat) : q.lost held n = p.lost held n := by
  refine List.countP_congr fun other there => ?_
  have differs : other.key ≠ l.key := fun same => apart (same ▸ List.mem_map_of_mem there)
  simp [IsValid, revoked, differs]

/-- A held lease that is revoked is lost. -/
theorem lost_revoked (revoked : q.revoked = l.key :: p.revoked) (keys : (held.map Lease.key).Nodup)
    (isHeld : l ∈ held) (valid : p.IsValid l) (n : Nat) :
    q.lost held n = p.lost held n + if l.connection = n then 1 else 0 := by
  have whose := List.perm_cons_erase isHeld
  have apart : l.key ∉ (held.erase l).map Lease.key :=
    (List.nodup_cons.mp ((whose.map Lease.key).nodup_iff.mp keys)).1
  have isOver : ¬ q.IsValid l := fun valid' => valid' (revoked ▸ List.mem_cons_self)
  rw [lost_perm whose, lost_perm (p := p) whose, lost_cons, lost_cons, lost_of_apart revoked apart]
  simp [valid, isOver]

/-- Where no lease is revoked and nothing is noted, leases remain traced. -/
theorem Traced.congr (traced : p.Traced held) (revoked : q.revoked = p.revoked)
    (same : q.decisions = p.decisions) : q.Traced held := by
  intro n
  rw [same, lost_congr revoked]
  exact traced n

/-- So they do where something is noted that is neither a reclaim nor a return. -/
theorem Traced.note {entry : Entry} (traced : p.Traced held) (revoked : q.revoked = p.revoked)
    (noted : q.decisions = entry :: p.decisions)
    (other : ∀ n, entry.event.reclaims n = false ∧ entry.event.spurns n = false) :
    q.Traced held := by
  intro n
  rw [noted, lost_congr revoked, count_cons, count_cons, (other n).1, (other n).2]
  exact traced n

/-- Who gets a good lease has lost none. -/
theorem Traced.grant (traced : p.Traced held) (valid : p.IsValid l) : p.Traced (l :: held) := by
  intro n
  rw [lost_cons, traced n]
  simp [valid]

theorem Traced.starts (traced : p.Traced held) (starts : p.Starts q) : q.Traced held := by
  cases starts with
  | begun | woken => exact traced.note rfl rfl fun _ => ⟨rfl, rfl⟩

theorem Traced.found {c : Credentials} {out : Except BackendError (Option Lease) × Pool σ}
    (traced : p.Traced held) (orderly : p.Orderly [] held) (found : Found b c p out) :
    out.2.Traced held := by
  cases found with
  | idle | nothing => exact traced
  | opened _ _ connected => exact traced.congr rfl (Environment.decisions_connect b connected)
  | unopened _ _ refused => exact traced.congr rfl (Environment.decisions_connect b refused)
  | @overdue oldest rest _ _ whole =>
    intro n
    have active : oldest ∈ p.active := whole ▸ List.mem_cons_self
    have isHeld : oldest ∈ held := orderly.sound.held_of_active oldest active
    have valid : p.IsValid oldest := orderly.sound.valid_of_active active
    -- the holder keeps its lease, which is good no more
    have revoked : (p.seize b oldest rest).2.revoked = oldest.key :: p.revoked := rfl
    rw [decisions_seize, count_cons, count_cons, traced n,
      lost_revoked revoked orderly.sound.heldKeys isHeld valid]
    simp [Nat.add_assoc]

/-- A search in good health leaves leases traced, among them the one that it grants. -/
theorem Traced.smooth {waited : Bool} {discarded : Nat} {out : Acquired × Pool σ}
    (traced : p.Traced held) (orderly : p.Orderly [] held)
    (smooth : Smooth b r waited discarded p out) : out.2.Traced (out.1.leases ++ held) := by
  cases smooth with
  | interrupted | waiting => exact traced.note rfl rfl fun _ => ⟨rfl, rfl⟩
  | @granted l taken checked found good =>
    have inHand : taken.Orderly [l] held := orderly.found b found
    have valid : taken.IsValid l := inHand.sound.distinct.valid l (by simp [Custody.live])
    have kept : taken.Traced held := traced.found orderly found
    obtain rfl : (taken.usable b l).2 = checked := congrArg Prod.snd good
    have passed : (taken.usable b l).2.Traced held := kept.congr rfl (taken.decisions_usable b l)
    have handed : ((taken.usable b l).2.handOut b r l).2.Traced held :=
      passed.note rfl (decisions_handOut b _ r l) fun _ => ⟨rfl, rfl⟩
    exact handed.grant valid

theorem revoked_takeBack (b : Backend σ) (p : Pool σ) (l : Lease) :
    (p.takeBack b l).revoked = l.key :: p.revoked := by
  unfold takeBack
  split
  · split <;> rfl
  · rfl

/-- Handing back leaves leases traced. -/
theorem Traced.release (traced : p.Traced held) (orderly : p.Orderly [] held)
    (whose : held.Perm (l :: held')) : (p.release b l).Traced held' := by
  have keys : (l.key :: held'.map Lease.key).Nodup :=
    (whose.map Lease.key).nodup_iff.mp orderly.sound.heldKeys
  intro n
  have before := traced n
  rw [lost_perm whose, lost_cons] at before
  by_cases valid : p.IsValid l
  · rw [release_of_valid b valid]
    have revoked : (((p.dropActive l).noteReturn l).takeBack b l).notifyOne.revoked =
        l.key :: p.revoked :=
      (congrArg Custody.revoked (custody_notifyOne _)).trans (revoked_takeBack b _ l)
    have noted : (((p.dropActive l).noteReturn l).takeBack b l).notifyOne.decisions =
        ⟨p.now, .returned l.connection⟩ :: p.decisions := by
      rw [decisions, environment_notifyOne]
      exact decisions_takeBack b ((p.dropActive l).noteReturn l) l
    rw [lost_of_apart revoked (List.nodup_cons.mp keys).1, noted]
    simpa [valid] using before
  · rw [release_of_revoked b valid, dropActive_of_revoked orderly.sound valid]
    have noted : (p.noteSpurned l).decisions = ⟨p.now, .spurned l.connection⟩ :: p.decisions := rfl
    have revoked : (p.noteSpurned l).revoked = p.revoked := rfl
    rw [lost_congr revoked, noted, count_cons, count_cons]
    simp only [valid, not_false_eq_true, and_true, Event.reclaims, Event.spurns,
      Bool.false_eq_true, if_false, decide_eq_true_eq] at before ⊢
    omega

end Pool

namespace Site

variable {σ : Type} {b : Backend σ} {s t : Site σ} {a : Action σ}

/-! ### Gentle actions -/

/-- What a gentle action comes to in good health. -/
inductive Smooth (b : Backend σ) (s : Site σ) : Site σ → Prop
  /-- No lease moves, and the pool decides nothing. -/
  | aside {t : Site σ} (custody : t.pool.custody = s.pool.custody)
      (decisions : t.pool.decisions = s.pool.decisions) (leases : t.leases = s.leases)
      (calm : Calm t.pool.environment.events) : Smooth b s t
  /-- An acquire searches. -/
  | searched {p : Pool σ} {r : Request} {waited : Bool} {discarded : Nat} {out : Acquired × Pool σ}
      (starts : s.pool.Starts p) (smooth : Pool.Smooth b r waited discarded p out)
      (lookups : List (String × Credentials)) :
      Smooth b s ({ s with lookups }.afterAcquire r.name out).2
  /-- A lease is handed back. -/
  | released {name : String} {l : Lease} (found : s.handle? name = some l)
      (calm : Calm (s.pool.release b l).environment.events) :
      Smooth b s
        { s with
          pool := s.pool.release b l, handles := s.handles.filter fun entry => entry.1 ≠ name }

/-- A site at which nothing was given up, and nothing needs to be. -/
structure Thriving (s : Site σ) : Prop where
  orderly : s.Orderly
  stamped : s.pool.Stamped
  serving : s.pool.shutDown = false
  wide : s.pool.settings.maxActive ≤ s.pool.settings.maxIdle
  calm : Calm s.pool.environment.events

/-- To use a connection moves no lease. -/
theorem Smooth.used {e : Environment σ} {l : Lease} (used : s.pool.environment.Used e)
    (touches : s.pool.Touches l e) (calm : Calm e.events) :
    Smooth b s { s with pool.environment := e } := by
  refine .aside rfl ?_ rfl calm
  rcases touches with rfl | ⟨-, made, called⟩
  · rfl
  · exact Environment.decisions_of_called used.toLater called

theorem Thriving.search (thriving : s.Thriving) {p : Pool σ} (starts : s.pool.Starts p)
    {r : Request} {waited : Bool} {spare discarded : Nat}
    (healthy : Healthy (p.seek b r waited spare discarded).2.environment.events) :
    Pool.Smooth b r waited discarded p (p.seek b r waited spare discarded) := by
  have calm : Calm p.environment.events := by
    cases starts with
    | begun | woken => exact thriving.calm.cons trivial
  have serving : p.shutDown = false := by
    cases starts with
    | begun | woken => exact thriving.serving
  exact Pool.smooth_seek (starts.orderly thriving.orderly.pool) (starts.stamped thriving.stamped)
    serving calm healthy

/-- What is done with a handle in good health. -/
theorem Thriving.handled (thriving : s.Thriving) {name : String} {use : Lease → Outcome × Site σ}
    (healthy : Healthy (s.withHandle name use).2.pool.environment.events)
    (smooth : ∀ l, s.handle? name = some l → Healthy (use l).2.pool.environment.events →
      Smooth b s (use l).2) : Smooth b s (s.withHandle name use).2 := by
  unfold withHandle at healthy ⊢
  split
  · rename_i l found
    rw [found] at healthy
    exact smooth l found healthy
  · exact .aside rfl rfl rfl thriving.calm

/-- In good health a gentle action comes to one of these things. -/
theorem Thriving.smooth_act (thriving : s.Thriving) (gentle : a.IsGentle)
    (healthy : Healthy (s.act b a).2.pool.environment.events) : Smooth b s (s.act b a).2 := by
  have orderly := thriving.orderly.pool
  have calm := thriving.calm
  cases handle : a.handle? with
  | none =>
    have step := step_act b s a
    generalize s.act b a = result at step healthy
    cases step with
    | rest | lookUp | notifyAll | rouse => exact .aside rfl rfl rfl calm
    | outside _ e used touches =>
      have same : e.events = s.pool.environment.events := by
        rcases touches with same | ⟨name, l, handle', -⟩
        · exact same
        · cases handle.symm.trans handle'
      have calm' : Calm e.events := same ▸ calm
      exact .aside rfl (Environment.decisions_of_events used.toLater same) rfl calm'
    | begin r lookups =>
      rw [pool_afterAcquire] at healthy
      exact .searched (.begun r.name) (thriving.search (.begun r.name) healthy) lookups
    | resume w =>
      rw [pool_afterAcquire] at healthy
      exact .searched (.woken w) (thriving.search (.woken w) healthy) s.lookups
    | release => cases handle
    | close _ _ _ _ _ closes => exact absurd closes gentle.not_closes
  | some name =>
    cases a with
    | release name =>
      exact thriving.handled healthy fun l found healthy => .released found
        (Pool.calm_release orderly thriving.stamped thriving.wide (mem_leases found) calm healthy)
    | validate name =>
      exact thriving.handled healthy fun l found healthy =>
        .used (s.pool.used_usable b l) (s.pool.touches_usable b l)
          (Pool.calm_usable orderly thriving.stamped (mem_leases found) calm healthy)
    | perform name operation =>
      refine thriving.handled healthy fun l found _ => ?_
      have calm' := Pool.calm_perform (b := b) (l := l) gentle calm
      obtain ⟨e, used, touches, outside⟩ := s.pool.perform_outside b l operation
      generalize s.pool.perform b l operation = performed at outside calm' ⊢
      obtain ⟨answer, q⟩ := performed
      obtain rfl : q = { s.pool with environment := e } := outside
      cases answer <;> exact .used used touches calm'
    | borrow name operations =>
      refine thriving.handled healthy fun l found _ => ?_
      have calm' := Pool.calm_borrow (b := b) (l := l) gentle calm
      obtain ⟨e, used, touches, outside⟩ := s.pool.borrow_outside b l operations
      generalize s.pool.borrow b l operations = performed at outside calm' ⊢
      obtain ⟨answers, q⟩ := performed
      obtain rfl : q = { s.pool with environment := e } := outside
      cases answers <;> exact .used used touches calm'
    | _ => cases handle

/-! ### What gentle actions leave -/

theorem Smooth.calm (calm : Calm s.pool.environment.events) (smooth : Smooth b s t) :
    Calm t.pool.environment.events := by
  cases smooth with
  | aside _ _ _ calm' => exact calm'
  | @searched p r waited discarded out starts smooth lookups =>
    have calm' : Calm p.environment.events := by
      cases starts with
      | begun | woken => exact calm.cons trivial
    rw [pool_afterAcquire]
    exact Pool.calm_smooth calm' smooth
  | released _ calm' => exact calm'

/-- Leases remain traced. -/
theorem Smooth.traced (orderly : s.Orderly) (traced : s.pool.Traced s.leases)
    (smooth : Smooth b s t) : t.pool.Traced t.leases := by
  cases smooth with
  | aside custody decisions leases =>
    rw [leases]
    exact traced.congr (congrArg Custody.revoked custody) decisions
  | @searched p r waited discarded out starts smooth lookups =>
    have begun : p.Traced s.leases := traced.starts starts
    have after := begun.smooth (starts.orderly orderly.pool) smooth
    obtain ⟨acquired, q⟩ := out
    cases acquired <;> exact after
  | @released name l found =>
    exact traced.release orderly.pool ((perm_handles orderly.names found).map Prod.snd)

/-- A connection is opened only where none lies idle afterwards. -/
theorem Smooth.next_or_idle (smooth : Smooth b s t) :
    t.pool.nextConnection = s.pool.nextConnection ∨ t.pool.idle = [] := by
  cases smooth with
  | aside custody => exact .inl (congrArg Custody.nextConnection custody)
  | searched starts smooth =>
    rw [pool_afterAcquire, ← starts.nextConnection]
    exact smooth.next_or_idle
  | released => exact .inl (Pool.nextConnection_release b s.pool _)

/-- What does not close everything changes neither the settings nor whether anybody is served. -/
theorem settings_act (remains : ¬ a.Closes) :
    (s.act b a).2.pool.settings = s.pool.settings ∧
      (s.act b a).2.pool.shutDown = s.pool.shutDown := by
  have step := step_act b s a
  have kept {p : Pool σ} (terms : p.terms = s.pool.terms) :
      p.settings = s.pool.settings ∧ p.shutDown = s.pool.shutDown :=
    ⟨congrArg Pool.Terms.settings terms, congrArg Pool.Terms.shutDown terms⟩
  generalize s.act b a = result at step
  cases step with
  | rest | outside | lookUp | notifyAll | rouse => exact ⟨rfl, rfl⟩
  | begin r lookups =>
    rw [pool_afterAcquire]
    exact kept (Pool.terms_acquire b s.pool r)
  | resume w =>
    rw [pool_afterAcquire]
    exact kept (Pool.terms_resume b s.pool w)
  | release name l => exact kept (Pool.terms_release b s.pool l)
  | close _ _ _ _ _ closes => exact absurd closes remains

/-- In good health a site goes on thriving. -/
theorem Thriving.act (thriving : s.Thriving) (gentle : a.IsGentle)
    (healthy : Healthy (s.act b a).2.pool.environment.events) : (s.act b a).2.Thriving := by
  obtain ⟨settings, shutDown⟩ := settings_act (b := b) (s := s) gentle.not_closes
  exact
    { orderly := thriving.orderly.act a
      stamped := stamped_act thriving.orderly thriving.stamped a
      serving := shutDown.trans thriving.serving
      wide := settings ▸ thriving.wide
      calm := (thriving.smooth_act gentle healthy).calm thriving.calm }

/-! ### Nothing is disposed of -/

/-- In good health the pool is done with no connection if nothing was given up. -/
theorem disposed_eq_nil (healthy : Healthy s.pool.environment.events)
    (calm : Calm s.pool.environment.events) : s.disposed = [] := by
  refine List.eq_nil_iff_forall_not_mem.mpr fun n disposed => ?_
  obtain ⟨-, -, final⟩ := Environment.mem_disposed.mp disposed
  obtain ⟨c, head, isFinal⟩ := (Option.any_eq_true _ _).mp final
  have noted : c.event n ∈ s.pool.environment.events :=
    Environment.event_of_calls (List.mem_of_mem_head? head)
  unfold Call.isFinal at isFinal
  split at isFinal
  · -- nobody closed the connection before it was found closed
    rename_i closed
    obtain ⟨later, earlier, split⟩ := List.append_of_mem noted
    rw [split] at healthy calm
    have faultless := (healthy_cons.mp (healthy.of_suffix (List.suffix_append _ _))).1
    have before : Calm earlier :=
      calm.of_suffix ((List.suffix_cons _ _).trans (List.suffix_append _ _))
    exact before.notMem_closed n (faultless.2 isFinal)
  · exact calm _ noted
  · cases isFinal

/-! ### Along a run -/

theorem run_concat (s : Site σ) (actions : List (Action σ)) (a : Action σ) :
    s.run b (actions ++ [a]) = ((s.run b actions).act b a).2 :=
  List.foldl_concat ..

theorem later_run (s : Site σ) (actions : List (Action σ)) :
    s.pool.environment.Later (s.run b actions).pool.environment := by
  induction actions using List.reverseRecOn with
  | nil => exact .refl _
  | append_singleton actions a ih =>
    rw [run_concat]
    exact ih.trans (later_act _ a)

/-- What a run noted, it noted before whatever followed. -/
theorem later_of_earlier {earlier actions : List (Action σ)} (s : Site σ)
    (before : earlier <+: actions) :
    (s.run b earlier).pool.environment.Later (s.run b actions).pool.environment := by
  obtain ⟨rest, rfl⟩ := before
  rw [run, run, List.foldl_append]
  exact later_run (s.run b earlier) rest

/-- How many leases were active at the times of a run. -/
def actives (b : Backend σ) (s : Site σ) (actions : List (Action σ)) : Set Nat :=
  { k | ∃ earlier, earlier <+: actions ∧ k = (s.run b earlier).pool.status.active }

/-- What holds of a run in good health. -/
structure Unchurned (b : Backend σ) (s : Site σ) (actions : List (Action σ)) : Prop where
  /-- Nobody closes a connection, neither the pool nor a holder. -/
  noClose : ∀ party n answer,
    .asked party n .close answer ∉ (s.run b actions).pool.environment.events
  /-- No acquire fails but one that was cancelled. -/
  failures : ∀ earlier a, earlier ++ [a] <+: actions →
    ((s.run b earlier).credentials? a).isSome → ∀ cause,
      ((s.run b earlier).act b a).1 = .failed cause → cause = .interrupted
  /-- What is counted as bad are leases that were handed back after they had been revoked. -/
  bad : (s.run b actions).pool.statistics.badConnections =
    (s.run b actions).tally Event.isSpurned
  /-- Each of them had been reclaimed: for every reclaim of a connection one lease of it was handed
  back in this way, or is held yet though it is good no more. -/
  reclaimed : ∀ n, (s.run b actions).tally (Event.reclaims n) =
    (s.run b actions).tally (Event.spurns n) +
      (s.run b actions).pool.lost (s.run b actions).leases n
  /-- Every connection that was opened is held or lies idle. -/
  connections : (s.run b actions).pool.status.active + (s.run b actions).pool.status.idle =
    (s.run b actions).opened.length
  /-- As many were opened as were ever held at one time. -/
  peak : IsGreatest (s.actives b actions) (s.run b actions).opened.length
  capacity : (s.run b actions).opened.length ≤ s.pool.settings.maxActive

/-- The connections that were opened are counted by the number of the next one. -/
theorem Thriving.connections (thriving : s.Thriving) (agrees : s.places.Agrees)
    (healthy : Healthy s.pool.environment.events) :
    s.pool.status.active + s.pool.status.idle = s.opened.length := by
  have total := (accounted_of_agrees agrees).total
  rw [disposed_eq_nil healthy thriving.calm] at total
  exact total.symm

/-- No acquire turned anything down. -/
theorem Thriving.tally_isDiscarded (thriving : s.Thriving) : s.tally Event.isDiscarded = 0 := by
  refine List.countP_eq_zero.mpr fun entry there isDiscarded => ?_
  have calm := thriving.calm entry.event (List.mem_map_of_mem (List.mem_of_mem_filter there))
  unfold Event.isDiscarded at isDiscarded
  split at isDiscarded
  · rename_i discarded
    rw [discarded] at calm
    exact calm
  · cases isDiscarded

/-- Who asks for a connection and fails is noted. -/
theorem failed_mem_events {allowed : Site σ → Action σ → Prop} (reach : Reachable b allowed s)
    (asks : (s.credentials? a).isSome) {cause : PoolError}
    (failed : (s.act b a).1 = .failed cause) :
    ∃ name, .failed name cause ∈ (s.act b a).2.pool.environment.events := by
  have among (name : String) (there : .failed name cause ∈ (s.act b a).2.pool.seen) :
      ∃ name, .failed name cause ∈ (s.act b a).2.pool.environment.events := by
    obtain ⟨entry, isEntry, same⟩ := List.mem_map.mp (List.mem_of_mem_filter there)
    exact ⟨name, List.mem_map.mpr ⟨entry, List.mem_of_mem_filter isEntry, same⟩⟩
  have seen := reach.seen_act a
  rw [failed] at seen
  cases a with
  | get name | proceed name | acquire name =>
    exact among name (seen ▸ List.mem_append_left _ List.mem_cons_self)
  | resume w => exact among w.request.name (seen ▸ List.mem_append_left _ List.mem_cons_self)
  | _ => cases asks

/-- A run in good health so far. -/
structure Sustained (b : Backend σ) (s : Site σ) (actions : List (Action σ)) : Prop where
  thriving : (s.run b actions).Thriving
  agrees : (s.run b actions).places.Agrees
  settings : (s.run b actions).pool.settings = s.pool.settings
  traced : (s.run b actions).pool.Traced (s.run b actions).leases
  /-- At some time all connections were held that have been opened up to now. -/
  reached : (s.run b actions).opened.length ∈ s.actives b actions

theorem sustained_new (b : Backend σ) (source : DataSource) {settings : Settings} (backend : σ)
    (wide : settings.maxActive ≤ settings.maxIdle) :
    Sustained b (new source settings backend) [] where
  thriving :=
    { orderly := orderly_new source settings backend
      stamped := stamped_new source settings backend
      serving := rfl
      wide := wide
      calm := fun _ there => absurd there List.not_mem_nil }
  agrees := agrees_new source settings backend
  settings := rfl
  traced _ := rfl
  reached := ⟨[], List.prefix_refl _, rfl⟩

/-- As many connections were opened as were held at some time, where this was so before: whenever
one more is opened, all of them are held. -/
theorem reached_concat {actions : List (Action σ)} (agrees : (s.run b actions).places.Agrees)
    (reached : (s.run b actions).opened.length ∈ s.actives b actions)
    (smooth : Smooth b (s.run b actions) t) (after : t = s.run b (actions ++ [a]))
    (thriving : t.Thriving) (agrees' : t.places.Agrees)
    (healthy : Healthy t.pool.environment.events) :
    t.opened.length ∈ s.actives b (actions ++ [a]) := by
  rcases smooth.next_or_idle with same | noneIdle
  · have noMore : t.opened = (s.run b actions).opened ++ List.range' _ 0 :=
      agrees.opened_eq_append agrees' same
    rw [List.range'_zero, List.append_nil] at noMore
    obtain ⟨earlier, before, allHeld⟩ := reached
    exact ⟨earlier, before.trans (List.prefix_append _ _), (congrArg _ noMore).trans allHeld⟩
  · have connections := thriving.connections agrees' healthy
    have idle : t.pool.status.idle = 0 := congrArg List.length noneIdle
    exact ⟨actions ++ [a], List.prefix_refl _, after ▸ by omega⟩

/-- One more gentle action leaves a run in good health. -/
theorem Sustained.concat {actions : List (Action σ)} (sustained : Sustained b s actions)
    (gentle : a.IsGentle)
    (healthy : Healthy (s.run b (actions ++ [a])).pool.environment.events) :
    Sustained b s (actions ++ [a]) := by
  obtain ⟨thriving, agrees, settings, traced, reached⟩ := sustained
  rw [run_concat] at healthy
  have smooth := thriving.smooth_act gentle healthy
  have thriving' := thriving.act gentle healthy
  have agrees' := agrees.moves (moves_act (b := b) thriving.orderly a)
  constructor
  · rwa [run_concat]
  · rwa [run_concat]
  · rw [run_concat]
    exact (settings_act gentle.not_closes).1.trans settings
  · rw [run_concat]
    exact smooth.traced thriving.orderly traced
  · rw [run_concat]
    exact reached_concat agrees reached smooth (run_concat ..).symm thriving' agrees' healthy

theorem sustained_run (b : Backend σ) (source : DataSource) {settings : Settings} (backend : σ)
    (wide : settings.maxActive ≤ settings.maxIdle) {actions : List (Action σ)}
    (gentle : ∀ a ∈ actions, a.IsGentle)
    (healthy : Healthy ((new source settings backend).run b actions).pool.environment.events) :
    Sustained b (new source settings backend) actions := by
  induction actions using List.reverseRecOn with
  | nil => exact sustained_new b source backend wide
  | append_singleton actions a ih =>
    have before := later_of_earlier (b := b) (new source settings backend)
      (List.prefix_append actions [a])
    have sustained := ih (fun a' there => gentle a' (List.mem_append_left _ there))
      (healthy.of_suffix before.events)
    exact sustained.concat (gentle a (List.mem_append_right _ List.mem_cons_self)) healthy

/-- With room for as many idle connections as may be active, a run in good health in which nobody
closes a connection or changes anything about the pool keeps every connection that it opens, and
opens as many as are ever held at one time. -/
theorem unchurned_of_healthy (b : Backend σ) (source : DataSource) (settings : Settings)
    (backend : σ) (actions : List (Action σ)) (wide : settings.maxActive ≤ settings.maxIdle)
    (gentle : ∀ a ∈ actions, a.IsGentle)
    (healthy : Healthy ((new source settings backend).run b actions).pool.environment.events) :
    Unchurned b (new source settings backend) actions := by
  have sustained {earlier : List (Action σ)} (before : earlier <+: actions) :
      Sustained b (new source settings backend) earlier :=
    sustained_run b source backend wide (fun a there => gentle a (before.subset there))
      (healthy.of_suffix (later_of_earlier _ before).events)
  have reach (actions : List (Action σ)) :
      Reachable b (fun _ _ => True) ((new source settings backend).run b actions) :=
    ⟨_, _, _, Leads.refl.run _ fun _ _ _ => trivial⟩
  obtain ⟨thriving, agrees, sameSettings, traced, reached⟩ := sustained (List.prefix_refl _)
  have connections := thriving.connections agrees healthy
  refine ⟨fun party n answer there => thriving.calm _ there,
    fun earlier a before asks cause failed => ?_, ?_, traced, connections, ⟨reached, ?_⟩, ?_⟩
  · obtain ⟨name, noted⟩ := failed_mem_events (reach earlier) asks failed
    rw [← run_concat] at noted
    exact (sustained before).thriving.calm _ noted
  · have counted := congrArg Statistics.badConnections (reach actions).sound.statistics
    have noneDiscarded := thriving.tally_isDiscarded
    exact counted.trans ((congrArg (· + _) noneDiscarded).trans (Nat.zero_add _))
  · rintro k ⟨earlier, before, rfl⟩
    have later := later_of_earlier (b := b) (new source settings backend) before
    have then' := (sustained before).thriving.connections (sustained before).agrees
      (healthy.of_suffix later.events)
    exact Nat.le_trans (then' ▸ Nat.le_add_right _ _) later.opened_le
  · have fits := thriving.orderly.pool.fits
    rw [sameSettings, List.length_nil, Nat.zero_add, Nat.add_comm] at fits
    exact connections ▸ fits

/-- One acquire takes an overdue connection from its holder, who hands it back too late; another is
cancelled, and a last one gets the connection that was handed back, after a probe. -/
theorem unchurned_of_healthy_reclaimed :
    let settings : Settings := { maxActive := 1, pingEnabled := true }
    let actions : List (Action Scripted) :=
      [.get "a", .elapse 21_000_000_000, .get "b", .release "a", .release "b", .mark 7,
        .acquire "c" {} (some 7), .elapse 21_000_000_000, .get "d"]
    let t := (new ⟨"db", {}⟩ settings {}).run Scripted.backend actions
    settings.maxActive ≤ settings.maxIdle ∧ (∀ a ∈ actions, a.IsGentle) ∧
      Healthy t.pool.environment.events ∧ t.opened = [1] ∧
        t.pool.statistics.badConnections = 1 ∧ t.pool.statistics.claimedOverdue = 1 ∧
          (new ⟨"db", {}⟩ settings {}).Unchurned Scripted.backend actions := by
  intro settings actions t
  have wide : settings.maxActive ≤ settings.maxIdle := by decide
  have gentle : ∀ a ∈ actions, a.IsGentle := by simp [actions, Action.IsGentle]
  have observed : Healthy t.pool.environment.events ∧ t.opened = [1] ∧
      t.pool.statistics.badConnections = 1 ∧ t.pool.statistics.claimedOverdue = 1 := by
    decide +kernel
  obtain ⟨healthy, opened, bad, overdue⟩ := observed
  have unchurned := unchurned_of_healthy Scripted.backend ⟨"db", {}⟩ settings {} actions wide gentle
  refine ⟨wide, gentle, healthy, opened, bad, overdue, unchurned ?_⟩
  simpa only [t] using healthy

end Site

end LeasePool
