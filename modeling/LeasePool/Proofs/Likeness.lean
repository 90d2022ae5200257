import LeasePool.Pool.Acquire
import LeasePool.Pool.Turn
import LeasePool.Proofs.Masks
import Mathlib.Data.List.Nodup

/-!
# Pools that differ in passwords

Two pools are alike when they differ in passwords and in what is made of them: the passwords of
their data sources, of those who wait and of the calls in their journals, and their fingerprints. A
lease with the expected fingerprint has a counterpart with the fingerprint that the other pool
expects, and a lease with another one has such a counterpart.

Every operation leaves pools alike and answers alike. In particular a candidate is good in both or
in neither, a lease that is handed back is kept by both or by neither, and the same one of those who
wait runs next.

## Main definitions

* `Pool.Alike`: pools that differ in passwords.
* `Pool.Counterparts`: one who waits here, and one who waits there.
* `Pool.Alike.Find`, `Pool.Alike.End`, `Pool.Alike.Answer`: what comes of an operation in both.

## Main results

* `Pool.Alike.seek`, `Pool.Alike.resume`: a search comes to the same end in both.
* `Pool.Alike.release`, `Pool.Alike.change`, `Pool.Alike.shutdown`: both remain alike when a lease
  is handed back, when something is changed and when they are shut down.
* `Pool.Alike.turn?`: the same one runs next.
* `Pool.Alike.status`, `Pool.Alike.report`, `Pool.Alike.inspect`, `Pool.Alike.inspectHandle`: they
  show the same.
-/

namespace LeasePool

variable {σ τ : Type} {R : σ → τ → Prop} {b : Backend σ} {b' : Backend τ}

/-! ### Pools -/

/-- An outcome without the fingerprint of the lease that was got. -/
def Acquired.unstamped : Acquired → Acquired
  | .granted l => .granted l.unstamped
  | acquired => acquired

namespace Pool

/-- Pools that differ in passwords and fingerprints. A lease that has the expected fingerprint has a
counterpart that has the fingerprint which the other pool expects. -/
structure Alike (R : σ → τ → Prop) (p : Pool σ) (p' : Pool τ) : Prop where
  settings : p.settings = p'.settings
  source : p.source.masked = p'.source.masked
  idle : p.idle.map (Lease.veiled p.expected) = p'.idle.map (Lease.veiled p'.expected)
  active : p.active.map (Lease.veiled p.expected) = p'.active.map (Lease.veiled p'.expected)
  revoked : p.revoked = p'.revoked
  statistics : p.statistics = p'.statistics
  parked : p.parked.map Waiter.masked = p'.parked.map Waiter.masked
  signalled : p.signalled.map Waiter.masked = p'.signalled.map Waiter.masked
  roused : p.roused.map Waiter.masked = p'.roused.map Waiter.masked
  heard : p.heard = p'.heard
  shutDown : p.shutDown = p'.shutDown
  nextConnection : p.nextConnection = p'.nextConnection
  nextKey : p.nextKey = p'.nextKey
  environment : p.environment.Alike R p'.environment

variable {p q : Pool σ} {p' q' : Pool τ} {l l' : Lease}

/-- New pools for data sources that differ in their passwords are alike. -/
theorem alike_new {source source' : DataSource} {state : σ} {state' : τ}
    (same : source.masked = source'.masked) (settings : Settings) (related : R state state') :
    (new source settings state).Alike R (new source' settings state') where
  settings := rfl
  source := same
  -- by `List.map_nil` and not by computation, which would compare the two digests
  idle := by simp only [new, List.map_nil]
  active := by simp only [new, List.map_nil]
  revoked := rfl
  statistics := rfl
  parked := rfl
  signalled := rfl
  roused := rfl
  heard := rfl
  shutDown := rfl
  nextConnection := rfl
  nextKey := rfl
  environment := ⟨related, rfl, rfl, rfl⟩

/-- Each of two pools has those who wait told apart by their names, and of these one here and one
there differ in a password at most. -/
structure Counterparts (p : Pool σ) (p' : Pool τ) (w w' : Waiter) : Prop where
  names : (p.waiters.map fun u => u.request.name).Nodup
  names' : (p'.waiters.map fun u => u.request.name).Nodup
  there : w ∈ p.waiters
  there' : w' ∈ p'.waiters
  same : w.masked = w'.masked

theorem Counterparts.name {w w' : Waiter} (pair : Counterparts p p' w w') :
    w.request.name = w'.request.name :=
  show w.masked.request.name = w'.masked.request.name by rw [pair.same]

theorem roused_subset_waiters : p.roused ⊆ p.waiters := List.subset_append_left _ _

theorem signalled_subset_waiters : p.signalled ⊆ p.waiters :=
  fun _ there => List.mem_append_right _ (List.mem_append_left _ there)

theorem parked_subset_waiters : p.parked ⊆ p.waiters :=
  fun _ there => List.mem_append_right _ (List.mem_append_right _ there)

namespace Alike

/-! ### What does not concern leases -/

theorem now (alike : p.Alike R p') : p.now = p'.now := alike.environment.clock

theorem endpoint (alike : p.Alike R p') : p.source.endpoint = p'.source.endpoint :=
  show p.source.masked.endpoint = p'.source.masked.endpoint by rw [alike.source]

theorem credentials (alike : p.Alike R p') :
    p.source.credentials.masked = p'.source.credentials.masked :=
  congrArg DataSource.credentials alike.source

theorem idle_length (alike : p.Alike R p') : p.idle.length = p'.idle.length := by
  simpa using congrArg List.length alike.idle

theorem active_length (alike : p.Alike R p') : p.active.length = p'.active.length := by
  simpa using congrArg List.length alike.active

/-- The environments may be replaced by others that are alike. -/
theorem outside {e : Environment σ} {e' : Environment τ} (alike : p.Alike R p')
    (outside : e.Alike R e') :
    { p with environment := e }.Alike R { p' with environment := e' } :=
  { alike with environment := outside }

theorem record (alike : p.Alike R p') (event : Event) :
    (p.record event).Alike R (p'.record event) :=
  alike.outside (alike.environment.record event)

/-- Both count something. -/
theorem count (alike : p.Alike R p') (more : Statistics → Statistics) :
    { p with statistics := more p.statistics }.Alike R
      { p' with statistics := more p'.statistics } :=
  { alike with statistics := congrArg more alike.statistics }

theorem isCancelled (alike : p.Alike R p') (token : Option Nat) :
    p.isCancelled token = p'.isCancelled token := by
  unfold Pool.isCancelled
  rw [alike.environment.cancelled]

theorem elapse (alike : p.Alike R p') (nanos : Nat) :
    (p.elapse nanos).Alike R (p'.elapse nanos) :=
  alike.outside
    { alike.environment with clock := congrArg (· + nanos) alike.environment.clock }

theorem mark (alike : p.Alike R p') (token : Nat) : (p.mark token).Alike R (p'.mark token) :=
  alike.outside
    { alike.environment with cancelled := congrArg (token :: ·) alike.environment.cancelled }

theorem meddle {happen : σ → σ} {happen' : τ → τ} (alike : p.Alike R p')
    (keeps : ∀ {state state'}, R state state' → R (happen state) (happen' state')) :
    (p.meddle happen).Alike R (p'.meddle happen') :=
  alike.outside { alike.environment with backend := keeps alike.environment.backend }

theorem waiters (alike : p.Alike R p') :
    p.waiters.map Waiter.masked = p'.waiters.map Waiter.masked := by
  simp only [Pool.waiters, List.map_append, alike.roused, alike.signalled, alike.parked]

/-- Those who wait have the same names, in the same order. -/
theorem names (alike : p.Alike R p') :
    (p.waiters.map fun w => w.request.name) = p'.waiters.map fun w => w.request.name := by
  have same := congrArg (List.map fun w => w.request.name) alike.waiters
  rw [List.map_map, List.map_map] at same
  exact same

/-! ### Signals -/

theorem notifyAll (alike : p.Alike R p') : p.notifyAll.Alike R p'.notifyAll :=
  { alike with
    parked := rfl
    signalled := by
      simp only [Pool.notifyAll, List.map_append, alike.signalled, alike.parked]
    heard := alike.environment.cancelled }

theorem notifyOne (alike : p.Alike R p') : p.notifyOne.Alike R p'.notifyOne := by
  unfold Pool.notifyOne
  rcases heads_of_map_eq alike.parked with
    ⟨mine, theirs⟩ | ⟨w, rest, w', rest', mine, theirs, same, others⟩
  · rw [mine, theirs]
    exact alike
  · rw [mine, theirs]
    exact { alike with
      parked := others
      signalled := by simp only [List.map_append, List.map_cons, alike.signalled, same] }

/-- Of those who wait, the only one of a name leaves a queue: the others remain, in order. -/
theorem map_erase {ws : List Waiter} {w : Waiter}
    (alone : ∀ u ∈ ws, u.request.name = w.request.name → u = w) :
    (ws.erase w).map Waiter.masked =
      (ws.map Waiter.masked).eraseP fun u => u.request.name = w.request.name := by
  induction ws with
  | nil => rfl
  | cons u ws ih =>
    obtain ⟨first, others⟩ := List.forall_mem_cons.mp alone
    by_cases same : u.request.name = w.request.name
    · obtain rfl := first same
      rw [List.erase_cons_head, List.map_cons, List.eraseP_cons_of_pos]
      exact decide_eq_true rfl
    · have other : ¬ (u == w) = true := fun eq => same (by rw [beq_iff_eq.mp eq])
      rw [List.erase_cons_tail other, List.map_cons, List.map_cons, ih others,
        List.eraseP_cons_of_neg]
      exact fun eq => same (of_decide_eq_true eq)

/-- One who waits leaves a queue, and so does the counterpart. -/
theorem erase {w w' : Waiter} {ws ws' : List Waiter} (pair : Counterparts p p' w w')
    (among : ws ⊆ p.waiters) (among' : ws' ⊆ p'.waiters)
    (queues : ws.map Waiter.masked = ws'.map Waiter.masked) :
    (ws.erase w).map Waiter.masked = (ws'.erase w').map Waiter.masked := by
  rw [map_erase fun u isIn => List.inj_on_of_nodup_map pair.names (among isIn) pair.there,
    map_erase fun u isIn => List.inj_on_of_nodup_map pair.names' (among' isIn) pair.there',
    queues, pair.name]

theorem rouse {w w' : Waiter} (alike : p.Alike R p') (pair : Counterparts p p' w w') :
    (p.rouse w).Alike R (p'.rouse w') :=
  { alike with
    parked := erase pair parked_subset_waiters parked_subset_waiters alike.parked
    roused := by
      simp only [Pool.rouse, List.map_append, List.map_cons, alike.roused, pair.same] }

theorem wake {w w' : Waiter} (alike : p.Alike R p') (pair : Counterparts p p' w w') :
    (p.wake w).Alike R (p'.wake w') := by
  obtain ⟨c, rfl, -⟩ := Waiter.exists_of_masked pair.same
  exact { alike.record (.resumed w.request.name) with
    parked := erase pair parked_subset_waiters parked_subset_waiters alike.parked
    signalled := erase pair signalled_subset_waiters signalled_subset_waiters alike.signalled
    roused := erase pair roused_subset_waiters roused_subset_waiters alike.roused
    statistics := by simp only [Pool.wake, Pool.record, alike.statistics, alike.now] }

/-! ### Whose turn it is -/

theorem earliest?_masked (ws : List Waiter) :
    earliest? (ws.map Waiter.masked) = (earliest? ws).map (Prod.map id Waiter.masked) := by
  fun_induction earliest? ws with
  | case1 => rfl
  | case2 w rest never ih => simp [earliest?, Waiter.masked, never, ih]
  | case3 w rest t none ends ih => simp [earliest?, Waiter.masked, none, ends, ih]
  | case4 w rest t later some ends first ih =>
    simp [earliest?, Waiter.masked, some, ends, first, ih]
  | case5 w rest t later some ends first ih =>
    simp [earliest?, Waiter.masked, some, ends, first, ih]

/-- The next wait ends at the same time. -/
theorem nextDeadline? (alike : p.Alike R p') : p.nextDeadline? = p'.nextDeadline? := by
  have unmasked (ws : List Waiter) :
      (earliest? (ws.map Waiter.masked)).map Prod.fst = (earliest? ws).map Prod.fst := by
    rw [earliest?_masked, Option.map_map]
    rfl
  unfold Pool.nextDeadline?
  rw [← unmasked p.parked, ← unmasked p'.parked, alike.parked]

/-- The same one runs next. -/
theorem turn? (alike : p.Alike R p') :
    p.turn?.map Waiter.masked = p'.turn?.map Waiter.masked := by
  unfold Pool.turn?
  rcases heads_of_map_eq alike.signalled with
    ⟨mine, theirs⟩ | ⟨w, rest, w', rest', mine, theirs, same, -⟩
  · have first := congrArg earliest? alike.parked
    rw [earliest?_masked, earliest?_masked] at first
    rw [mine, theirs]
    rcases both_of_map_eq first with ⟨mine, theirs⟩ | ⟨⟨t, w⟩, ⟨t', w'⟩, mine, theirs, same⟩
    · rw [mine, theirs]
    · obtain rfl : t = t' := congrArg Prod.fst same
      have masked : w.masked = w'.masked := congrArg Prod.snd same
      simp only [mine, theirs, alike.now]
      split
      · exact congrArg some masked
      · rfl
  · simp only [mine, theirs, Option.map_some, same]

/-! ### Candidates -/

/-- The same answer, in pools that are alike. -/
inductive Answer {α : Type} (R : σ → τ → Prop) : α × Pool σ → α × Pool τ → Prop
  | intro (answer : α) {q : Pool σ} {q' : Pool τ} (alike : q.Alike R q') :
      Answer R (answer, q) (answer, q')

/-- A lease is good in both pools or in neither. -/
theorem usable (react : Backend.Alike R b b') (alike : p.Alike R p')
    (same : l.unstamped = l'.unstamped)
    (matching : p.IsValid l → (l.fingerprint = p.expected ↔ l'.fingerprint = p'.expected)) :
    Answer R (p.usable b l) (p'.usable b' l') := by
  have checked : Environment.Agree R
      (l.usable b p.settings p.expected p.revoked p.environment)
      (l'.usable b' p'.settings p'.expected p'.revoked p'.environment) := by
    rw [← alike.settings, ← alike.revoked]
    exact alike.environment.usable react p.settings p.revoked same matching
  unfold Pool.usable
  generalize l.usable b p.settings p.expected p.revoked p.environment = x at checked
  generalize l'.usable b' p'.settings p'.expected p'.revoked p'.environment = y at checked
  obtain ⟨good, outside⟩ := checked
  exact .intro good (alike.outside outside)

/-- Acquires find the same to try: nothing, a failure, or leases with the same veil. -/
inductive Find (R : σ → τ → Prop) :
    Except BackendError (Option Lease) × Pool σ → Except BackendError (Option Lease) × Pool τ → Prop
  | failed (cause : BackendError) {q : Pool σ} {q' : Pool τ} (alike : q.Alike R q') :
      Find R (.error cause, q) (.error cause, q')
  | nothing {q : Pool σ} {q' : Pool τ} (alike : q.Alike R q') : Find R (.ok none, q) (.ok none, q')
  | found {l l' : Lease} {q : Pool σ} {q' : Pool τ}
      (same : l.veiled q.expected = l'.veiled q'.expected) (alike : q.Alike R q') :
      Find R (.ok (some l), q) (.ok (some l'), q')

theorem openLease (react : Backend.Alike R b b') (alike : p.Alike R p') {c c' : Credentials}
    (same : c.masked = c'.masked) :
    Find R ((p.openLease b c).1.map some, (p.openLease b c).2)
      ((p'.openLease b' c').1.map some, (p'.openLease b' c').2) := by
  have connected : Environment.Agree R
      (p.environment.connect b p.nextConnection p.source.endpoint c)
      (p'.environment.connect b' p'.nextConnection p'.source.endpoint c') := by
    rw [← alike.nextConnection, ← alike.endpoint]
    exact alike.environment.connect react p.nextConnection p.source.endpoint same
  unfold Pool.openLease
  generalize p.environment.connect b p.nextConnection p.source.endpoint c = x at connected
  generalize p'.environment.connect b' p'.nextConnection p'.source.endpoint c' = y at connected
  obtain ⟨answer, outside⟩ := connected
  cases answer with
  | error cause => exact .failed cause (alike.outside outside)
  | ok =>
    refine .found (Lease.veiled_of_unstamped ?_ (iff_of_true rfl rfl))
      { alike.outside outside with
        nextConnection := congrArg (· + 1) alike.nextConnection
        nextKey := congrArg (· + 1) alike.nextKey }
    simp only [Lease.unstamped, Lease.opened, alike.nextKey, alike.nextConnection, outside.clock]

theorem seize (react : Backend.Alike R b b') (alike : p.Alike R p') {rest rest' : List Lease}
    (same : l.veiled p.expected = l'.veiled p'.expected)
    (others : rest.map (Lease.veiled p.expected) = rest'.map (Lease.veiled p'.expected)) :
    Find R (.ok (some (p.seize b l rest).1), (p.seize b l rest).2)
      (.ok (some (p'.seize b' l' rest').1), (p'.seize b' l' rest').2) := by
  obtain ⟨g, rfl, matching⟩ := Lease.exists_of_veiled same
  have noted := alike.environment.record (.reclaimed l.connection)
  have taken : (p.seize b l rest).2.Alike R
      (p'.seize b' { l with fingerprint := g } rest').2 :=
    { alike.outside (noted.reset react l.connection).snd with
      active := others
      revoked := congrArg (l.key :: ·) alike.revoked
      statistics := by
        simp only [Pool.seize, renew, revoke, alike.statistics, alike.now, Lease.heldFor]
      nextKey := congrArg (· + 1) alike.nextKey }
  refine .found (Prod.ext ?_ (decide_eq_decide.mpr matching)) taken
  simp only [Lease.veiled, Lease.unstamped, Pool.seize, renew, revoke, Lease.renewed,
    alike.nextKey]

theorem reclaim (react : Backend.Alike R b b') (alike : p.Alike R p') :
    Find R (.ok (p.reclaim b).1, (p.reclaim b).2) (.ok (p'.reclaim b').1, (p'.reclaim b').2) := by
  unfold Pool.reclaim
  rcases heads_of_map_eq alike.active with
    ⟨mine, theirs⟩ | ⟨oldest, rest, oldest', rest', mine, theirs, same, others⟩
  · rw [mine, theirs]
    exact .nothing alike
  · have held := Lease.heldFor_of_unstamped (Lease.unstamped_of_veiled same) p.now
    simp only [mine, theirs, ← alike.settings, ← alike.now, ← held]
    split
    · exact .nothing alike
    · exact alike.seize react same others

theorem candidate (react : Backend.Alike R b b') (alike : p.Alike R p') {c c' : Credentials}
    (same : c.masked = c'.masked) : Find R (p.candidate b c) (p'.candidate b' c') := by
  unfold Pool.candidate
  rcases heads_of_map_eq alike.idle with
    ⟨mine, theirs⟩ | ⟨l, rest, l', rest', mine, theirs, veiled, others⟩
  · rw [mine, theirs]
    dsimp only
    rw [← alike.settings, ← alike.active_length]
    split
    · exact alike.openLease react same
    · exact alike.reclaim react
  · rw [mine, theirs]
    exact .found veiled { alike with idle := others }

/-! ### The search -/

theorem destroy (react : Backend.Alike R b b') (alike : p.Alike R p')
    (same : l.unstamped = l'.unstamped) : (p.destroy b l).Alike R (p'.destroy b' l') := by
  obtain ⟨g, rfl⟩ := Lease.exists_of_unstamped same
  exact { alike.outside (alike.environment.dispose react l.connection) with
    revoked := congrArg (l.key :: ·) alike.revoked }

theorem discard (react : Backend.Alike R b b') (alike : p.Alike R p')
    (same : l.unstamped = l'.unstamped) : (p.discard b l).Alike R (p'.discard b' l') := by
  obtain ⟨g, rfl⟩ := Lease.exists_of_unstamped same
  have noted := (alike.record (.discarded l.connection)).count fun s =>
    { s with badConnections := s.badConnections + 1 }
  exact noted.destroy react same

theorem handOut (react : Backend.Alike R b b') (alike : p.Alike R p') {r r' : Request}
    (who : r.masked = r'.masked) (same : l.unstamped = l'.unstamped) :
    (p.handOut b r l).1.unstamped = (p'.handOut b' r' l').1.unstamped ∧
      (p.handOut b r l).2.Alike R (p'.handOut b' r' l').2 := by
  obtain ⟨c, rfl, -⟩ := Request.exists_of_masked who
  obtain ⟨g, rfl⟩ := Lease.exists_of_unstamped same
  have reset := (alike.environment.reset react l.connection).snd
  have stamped : (p.handOut b r l).1.unstamped =
      (p'.handOut b' { r with credentials := c } { l with fingerprint := g }).1.unstamped := by
    simp only [Pool.handOut, Lease.unstamped, Lease.checkOut, reset.clock]
  refine ⟨stamped, { alike.outside (reset.record (.handedOut r.name l.connection)) with
    active := ?_
    statistics := ?_ }⟩
  · -- whatever stamps they had, they have the expected ones now
    have veiled : (p.handOut b r l).1.veiled p.expected =
        (p'.handOut b' { r with credentials := c } { l with fingerprint := g }).1.veiled
          p'.expected :=
      Lease.veiled_of_unstamped stamped (iff_of_true rfl rfl)
    simp only [Pool.handOut, List.map_append, List.map_singleton] at veiled ⊢
    rw [alike.active, veiled]
  · simp only [Pool.handOut, alike.statistics, reset.clock]

theorem park (alike : p.Alike R p') {r r' : Request} (who : r.masked = r'.masked) (waited : Bool)
    (discarded : Nat) : (p.park r waited discarded).Alike R (p'.park r' waited discarded) := by
  obtain ⟨c, rfl, -⟩ := Request.exists_of_masked who
  have deadline : p.deadline? = p'.deadline? := by
    unfold deadline?
    rw [alike.now, alike.settings]
  exact { alike.record (.parked r.name) with
    statistics := by simp only [Pool.park, Pool.record, alike.statistics]
    parked := by
      simp only [Pool.park, List.map_append, List.map_singleton, Waiter.masked, who, alike.parked,
        alike.now, deadline] }

/-- Searches come to the same end: they get leases that differ at most in their fingerprints, or
fail for the same cause, or wait. -/
inductive End (R : σ → τ → Prop) : Acquired × Pool σ → Acquired × Pool τ → Prop
  | granted {l l' : Lease} {q : Pool σ} {q' : Pool τ} (same : l.unstamped = l'.unstamped)
      (alike : q.Alike R q') : End R (.granted l, q) (.granted l', q')
  | failed (cause : PoolError) {q : Pool σ} {q' : Pool τ} (alike : q.Alike R q') :
      End R (.failed cause, q) (.failed cause, q')
  | waiting {q : Pool σ} {q' : Pool τ} (alike : q.Alike R q') : End R (.waiting, q) (.waiting, q')

theorem fail (alike : p.Alike R p') {r r' : Request} (who : r.masked = r'.masked)
    (cause : PoolError) : End R (p.fail r cause) (p'.fail r' cause) := by
  obtain ⟨c, rfl, -⟩ := Request.exists_of_masked who
  exact .failed cause (alike.record (.failed r.name cause))

/-- A search comes to the same end in pools that are alike. -/
theorem seek (react : Backend.Alike R b b') {r r' : Request} (who : r.masked = r'.masked)
    (waited : Bool) (spare discarded : Nat) (alike : p.Alike R p') :
    End R (seek b r waited spare discarded p) (seek b' r' waited spare discarded p') := by
  have credentials : r.credentials.masked = r'.credentials.masked :=
    congrArg Request.credentials who
  have token : r.token = r'.token :=
    show r.masked.token = r'.masked.token by rw [who]
  have cancelled {p : Pool σ} {p' : Pool τ} (alike : p.Alike R p') :
      p.isCancelled r.token = p'.isCancelled r'.token := token ▸ alike.isCancelled r.token
  -- both searches take the same turning every time, and run on with as many to spare
  induction spare using Nat.strongRecOn generalizing discarded p p' with
  | _ spare ih =>
    rw [Pool.seek.eq_def b r, Pool.seek.eq_def b' r', alike.shutDown, cancelled alike]
    split
    · exact alike.fail who .closed
    split
    · exact alike.fail who .interrupted
    have both := alike.candidate react credentials
    generalize p.candidate b r.credentials = mine at both
    generalize p'.candidate b' r'.credentials = theirs at both
    cases both with
    | failed cause alike => exact alike.fail who (.connect cause)
    | nothing alike => exact .waiting (alike.park who waited discarded)
    | @found l l' q q' same alike =>
      have unstamped := Lease.unstamped_of_veiled same
      have checked := alike.usable react unstamped fun _ => Lease.matching_of_veiled same
      dsimp only
      generalize q.usable b l = mine at checked
      generalize q'.usable b' l' = theirs at checked
      obtain ⟨good, alike⟩ := checked
      cases good with
      | true =>
        have granted := alike.handOut react who unstamped
        exact .granted granted.1 granted.2
      | false =>
        have discarded' := alike.discard react unstamped
        cases spare with
        | zero => exact discarded'.fail who (.exhausted (discarded + 1))
        | succ less => exact ih less (Nat.lt_succ_self less) (discarded + 1) discarded'

theorem acquire (react : Backend.Alike R b b') (alike : p.Alike R p') {r r' : Request}
    (who : r.masked = r'.masked) : End R (p.acquire b r) (p'.acquire b' r') := by
  have name : r.name = r'.name := show r.masked.name = r'.masked.name by rw [who]
  unfold Pool.acquire
  rw [← alike.settings, ← name]
  exact (alike.record (.begun r.name)).seek react who false _ 0

theorem resume (react : Backend.Alike R b b') (alike : p.Alike R p') {w w' : Waiter}
    (pair : Counterparts p p' w w') : End R (p.resume b w) (p'.resume b' w') := by
  have woken := alike.wake pair
  obtain ⟨c, rfl, masked⟩ := Waiter.exists_of_masked pair.same
  unfold Pool.resume
  rw [← alike.settings]
  exact woken.seek react (congrArg Waiter.request pair.same) true _ w.discarded

/-! ### Handing back -/

theorem dropActive (alike : p.Alike R p') (same : l.unstamped = l'.unstamped) :
    (p.dropActive l).Alike R (p'.dropActive l') := by
  have key := Lease.key_of_unstamped same
  -- the veil does not hide the key by which the lease is found
  have dropped (f : Fingerprint) (ls : List Lease) (k : Nat) :
      (ls.eraseP fun other => other.key = k).map (Lease.veiled f) =
        (ls.map (Lease.veiled f)).eraseP fun other => other.1.key = k := by
    rw [List.eraseP_map]
    rfl
  exact { alike with
    active := by simp only [Pool.dropActive, dropped, alike.active, key] }

theorem takeBack (react : Backend.Alike R b b') (alike : p.Alike R p')
    (same : l.veiled p.expected = l'.veiled p'.expected) :
    (p.takeBack b l).Alike R (p'.takeBack b' l') := by
  have unstamped := Lease.unstamped_of_veiled same
  have room : p.HasRoomFor l ↔ p'.HasRoomFor l' := by
    rw [HasRoomFor, HasRoomFor, alike.idle_length, alike.settings, Lease.matching_of_veiled same]
  -- there is room in both pools or in neither, and the connection is reset in both or in neither
  have restored : Environment.Agree R (restore b p.environment l.connection)
      (restore b' p'.environment l'.connection) := by
    rw [← Lease.connection_of_unstamped unstamped]
    exact alike.environment.restore react l.connection
  unfold Pool.takeBack
  by_cases may : p.HasRoomFor l
  · rw [if_pos may, if_pos (room.mp may)]
    generalize restore b p.environment l.connection = x at restored
    generalize restore b' p'.environment l'.connection = y at restored
    obtain ⟨answer, outside⟩ := restored
    cases answer with
    | error => exact (alike.outside outside).destroy react unstamped
    | ok =>
      obtain ⟨g, rfl, matching⟩ := Lease.exists_of_veiled same
      -- the new lease has the old stamp
      have renewed : (l.renewed p.nextKey).veiled p.expected =
          ({ l with fingerprint := g }.renewed p'.nextKey).veiled p'.expected :=
        Prod.ext (by rw [alike.nextKey]; rfl) (decide_eq_decide.mpr matching)
      exact { alike.outside outside with
        idle := by
          simp only [shelve, renew, revoke, List.map_append, List.map_singleton, alike.idle,
            renewed]
        revoked := congrArg (l.key :: ·) alike.revoked
        nextKey := congrArg (· + 1) alike.nextKey }
  · rw [if_neg may, if_neg (mt room.mpr may)]
    exact alike.destroy react unstamped

theorem isValid (alike : p.Alike R p') (same : l.unstamped = l'.unstamped) :
    p.IsValid l ↔ p'.IsValid l' := by
  rw [IsValid, IsValid, alike.revoked, Lease.key_of_unstamped same]

/-- To hand back a lease does the same in both pools. -/
theorem release (react : Backend.Alike R b b') (alike : p.Alike R p')
    (same : l.unstamped = l'.unstamped)
    (matching : p.IsValid l → (l.fingerprint = p.expected ↔ l'.fingerprint = p'.expected)) :
    (p.release b l).Alike R (p'.release b' l') := by
  have dropped := alike.dropActive same
  have connection := Lease.connection_of_unstamped same
  by_cases valid : p.IsValid l
  · have valid' := (alike.isValid same).mp valid
    have held : l.heldFor (p.dropActive l).now = l'.heldFor (p'.dropActive l').now := by
      rw [dropped.now]
      exact Lease.heldFor_of_unstamped same _
    have noted : ((p.dropActive l).noteReturn l).Alike R ((p'.dropActive l').noteReturn l') := by
      unfold noteReturn
      rw [← connection, ← held]
      exact (dropped.record (.returned l.connection)).count fun s =>
        { s with checkoutTime := s.checkoutTime + l.heldFor (p.dropActive l).now }
    rw [release_of_valid b valid, release_of_valid b' valid']
    exact (noted.takeBack react (Lease.veiled_of_unstamped same (matching valid))).notifyOne
  · rw [release_of_revoked b valid, release_of_revoked b' (mt (alike.isValid same).mpr valid)]
    unfold noteSpurned
    rw [← connection]
    exact (dropped.record (.spurned l.connection)).count fun s =>
      { s with badConnections := s.badConnections + 1 }

/-! ### Closing everything -/

theorem withdraw (react : Backend.Alike R b b') (alike : p.Alike R p')
    (same : l.unstamped = l'.unstamped) : (p.withdraw b l).Alike R (p'.withdraw b' l') := by
  unfold Pool.withdraw
  rw [← Lease.connection_of_unstamped same]
  exact (alike.record (.withdrawn l.connection)).destroy react same

/-- What leaves pools alike when it is done to one lease does so for several. -/
theorem foldl {f : Pool σ → Lease → Pool σ} {f' : Pool τ → Lease → Pool τ}
    (one : ∀ {p : Pool σ} {p' : Pool τ} {l l' : Lease}, p.Alike R p' →
      l.unstamped = l'.unstamped → (f p l).Alike R (f' p' l'))
    {ls ls' : List Lease} (same : ls.map Lease.unstamped = ls'.map Lease.unstamped)
    (alike : p.Alike R p') : (ls.foldl f p).Alike R (ls'.foldl f' p') := by
  induction ls generalizing ls' p p' with
  | nil =>
    rw [List.map_eq_nil_iff.mp same.symm]
    exact alike
  | cons l ls ih =>
    obtain ⟨l', ls', rfl, first, others⟩ := List.map_eq_cons_iff.mp same.symm
    rw [List.foldl_cons, List.foldl_cons]
    exact ih others.symm (one alike first.symm)

theorem vacated (alike : p.Alike R p') : p.vacated.Alike R p'.vacated :=
  { alike with
    idle := by simp only [Pool.vacated, List.map_nil]
    active := by simp only [Pool.vacated, List.map_nil] }

theorem clear (react : Backend.Alike R b b') (alike : p.Alike R p') :
    (p.clear b).Alike R (p'.clear b') := by
  -- the fingerprints that are expected from now on have nothing to do with the old leases
  have unveiled {f f' : Fingerprint} {ls ls' : List Lease}
      (same : ls.map (Lease.veiled f) = ls'.map (Lease.veiled f')) :
      ls.reverse.map Lease.unstamped = ls'.reverse.map Lease.unstamped := by
    have first := congrArg (List.map Prod.fst) same
    rw [List.map_map, List.map_map] at first
    rw [List.map_reverse, List.map_reverse]
    exact congrArg List.reverse first
  exact (alike.vacated.foldl (withdraw react) (unveiled alike.active)).foldl (destroy react)
    (unveiled alike.idle)

theorem closeAll (react : Backend.Alike R b b') (alike : p.Alike R p') :
    (p.closeAll b).Alike R (p'.closeAll b') :=
  (alike.clear react).notifyAll

/-- A new password closes everything as any change does. -/
theorem change (react : Backend.Alike R b b') (alike : p.Alike R p') {c c' : Change}
    (same : c.masked = c'.masked) : (p.change b c).Alike R (p'.change b' c') := by
  have changed : { p with source := c.source p.source, settings := c.tuned p.settings }.Alike R
      { p' with source := c'.source p'.source, settings := c'.tuned p'.settings } :=
    { alike with
      source := by
        rw [← Change.source_masked, ← Change.source_masked c', same, alike.source]
      settings := by
        rw [← Change.tuned_masked, ← Change.tuned_masked c', same, alike.settings] }
  exact changed.closeAll react

theorem shutdown (react : Backend.Alike R b b') (alike : p.Alike R p') :
    (p.shutdown b).Alike R (p'.shutdown b') := by
  unfold Pool.shutdown
  rw [← alike.shutDown]
  split
  · exact alike
  · have ending : { p with shutDown := true }.Alike R { p' with shutDown := true } :=
      { alike with shutDown := rfl }
    exact ending.closeAll react

/-! ### Using a lease -/

theorem borrow (react : Backend.Alike R b b') (alike : p.Alike R p')
    (same : l.unstamped = l'.unstamped) (operations : List Operation) :
    Answer R (p.borrow b l operations) (p'.borrow b' l' operations) := by
  have performed : Environment.Agree R
      (performAll b l.connection operations p.environment)
      (performAll b' l'.connection operations p'.environment) := by
    rw [← Lease.connection_of_unstamped same]
    exact alike.environment.performAll react l.connection operations
  unfold Pool.borrow
  by_cases valid : p.IsValid l
  · rw [if_pos valid, if_pos ((alike.isValid same).mp valid)]
    generalize performAll b l.connection operations p.environment = x at performed
    generalize performAll b' l'.connection operations p'.environment = y at performed
    obtain ⟨answers, outside⟩ := performed
    exact .intro _ (alike.outside outside)
  · rw [if_neg valid, if_neg (mt (alike.isValid same).mpr valid),
      ← Lease.connection_of_unstamped same]
    exact .intro _ alike

theorem perform (react : Backend.Alike R b b') (alike : p.Alike R p')
    (same : l.unstamped = l'.unstamped) (operation : Operation) :
    Answer R (p.perform b l operation) (p'.perform b' l' operation) := by
  have asked : Environment.Agree R (p.environment.ask b .holder l.connection operation)
      (p'.environment.ask b' .holder l'.connection operation) := by
    rw [← Lease.connection_of_unstamped same]
    exact alike.environment.ask react .holder l.connection operation
  unfold Pool.perform
  by_cases valid : p.IsValid l
  · rw [if_pos valid, if_pos ((alike.isValid same).mp valid)]
    generalize p.environment.ask b .holder l.connection operation = x at asked
    generalize p'.environment.ask b' .holder l'.connection operation = y at asked
    obtain ⟨answer, outside⟩ := asked
    dsimp only
    split
    · exact .intro _ (alike.outside outside)
    · exact .intro _ (alike.outside outside)
  · rw [if_neg valid, if_neg (mt (alike.isValid same).mpr valid),
      ← Lease.connection_of_unstamped same]
    exact .intro _ alike

/-! ### What the pools show -/

theorem status (alike : p.Alike R p') : p.status = p'.status := by
  unfold Pool.status
  rw [alike.active_length, alike.idle_length, alike.statistics]

/-- A report shows no password. -/
theorem report (alike : p.Alike R p') : p.report.text = p'.report.text := by
  unfold Pool.report Report.text Report.lines Report.settingLines
  rw [alike.status, alike.settings, alike.endpoint, alike.credentials]

theorem inspect (alike : p.Alike R p') : p.inspect = p'.inspect := by
  unfold Pool.inspect
  rw [alike.endpoint, alike.settings, alike.active_length, alike.idle_length, alike.shutDown]

theorem inspectHandle (alike : p.Alike R p') (same : l.unstamped = l'.unstamped) :
    p.inspectHandle l = p'.inspectHandle l' := by
  unfold Pool.inspectHandle
  rw [Lease.connection_of_unstamped same, Lease.heldFor_of_unstamped same, alike.now,
    decide_eq_decide.mpr (alike.isValid same)]

end Alike

end Pool

end LeasePool
