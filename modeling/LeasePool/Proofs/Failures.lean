import LeasePool.Proofs.FirstGood
import Mathlib.Algebra.GroupWithZero.Nat

/-!
# Acquires that fail

An acquire can fail at many points: at once, because a token is cancelled in between, because no
connection can be opened, or because too many candidates were bad. By then it may have turned down
connections that lay idle, one that it took from its holder, and some that it opened itself. However
they are mixed, all of these are disposed of and counted, one by one, and nothing else is missing.

Whatever is turned down leaves room for the next candidate. So no lease is taken from its holder but
by the first round, and a failure is described by three numbers: how many connections at the front
of the idle list are gone, whether the first of the leases that are held is, and how many
connections were opened in vain.

## Main definitions

* `Statistics.blamed`: the statistics after bad connections were met and leases were taken away.
* `Pool.TurnsDown`: what some rounds of a search take away.
* `Site.Forfeits`: what an acquire that fails takes away, and that nothing else is missing.
* `Site.OpensInVain`: an acquire could not open a connection.

## Main results

* `Pool.turnsDown_rounds`: what the rounds of a search take away.
* `Site.Reachable.forfeits_of_failed`: what an acquire that fails takes away.
-/

namespace LeasePool

/-- The statistics after so many bad connections were met, and leases that had been held for these
times were taken from their holders. -/
def Statistics.blamed (s : Statistics) (bad : Nat) (held : List Nat) : Statistics :=
  { s with
    claimedOverdue := s.claimedOverdue + held.length
    overdueCheckoutTime := s.overdueCheckoutTime + held.sum
    checkoutTime := s.checkoutTime + held.sum
    badConnections := s.badConnections + bad }

@[simp] theorem Statistics.blamed_zero (s : Statistics) : s.blamed 0 [] = s := rfl

theorem Statistics.blamed_blamed (s : Statistics) (bad bad' : Nat) (held : List Nat) :
    (s.blamed bad held).blamed bad' [] = s.blamed (bad + bad') held := by
  simp only [blamed, List.length_nil, List.sum_nil, Nat.add_zero, Nat.add_assoc]

namespace Pool

variable {σ : Type} {b : Backend σ} {p q t : Pool σ} {r : Request} {held : List Lease}
  {taken : Option Lease} {i j k m n : Nat}

/-- From one pool to another, connections were turned down: the first few of those that lay idle,
perhaps the one of the longest-held lease, which was overdue, and some that were opened. -/
structure TurnsDown (p : Pool σ) (i : Nat) (taken : Option Lease) (k : Nat) (q : Pool σ) :
    Prop where
  among : i ≤ p.idle.length
  idle : q.idle = p.idle.drop i
  active : p.active = taken.toList ++ q.active
  overtakes : ∀ l ∈ taken, p.Overtakes l q
  nextConnection : q.nextConnection = p.nextConnection + k
  statistics : q.statistics = p.statistics.blamed (i + taken.toList.length + k)
    (taken.toList.map fun l => l.heldFor p.now)

namespace TurnsDown

theorem refl (p : Pool σ) : TurnsDown p 0 none 0 p where
  among := Nat.zero_le _
  idle := rfl
  active := rfl
  overtakes := nofun
  nextConnection := rfl
  statistics := rfl

/-- Where there is room no lease is taken from its holder. -/
theorem taken_eq_none (turnsDown : TurnsDown p i taken k q) (roomy : 0 < p.room) :
    taken = none := by
  refine Option.eq_none_iff_forall_not_mem.mpr fun l there => ?_
  exact Nat.ne_of_gt roomy (turnsDown.overtakes l there).overdue.room_eq_zero

/-- What is turned down later comes from behind. -/
theorem trans (first : TurnsDown p i taken k q) (second : TurnsDown q j none m t)
    (revoked : q.revoked ⊆ t.revoked) (later : q.environment.Later t.environment) :
    TurnsDown p (i + j) taken (k + m) t where
  among := by
    have few := second.among
    have enough := first.among
    rw [first.idle, List.length_drop] at few
    omega
  idle := by rw [second.idle, first.idle, List.drop_drop]
  active := by
    rw [first.active, second.active]
    rfl
  overtakes l there := (first.overtakes l there).later revoked later
  nextConnection := by rw [second.nextConnection, first.nextConnection, Nat.add_assoc]
  statistics := by
    rw [second.statistics, first.statistics]
    refine (Statistics.blamed_blamed ..).trans (congrArg (Statistics.blamed _ · _) ?_)
    rw [Option.toList_none, List.length_nil]
    omega

/-- Whatever happens outside the pool turns down nothing. -/
theorem outside (turnsDown : TurnsDown p i taken k q) {e : Environment σ}
    (later : q.environment.Later e) : TurnsDown p i taken k { q with environment := e } :=
  { turnsDown with
    overtakes := fun l there => (turnsDown.overtakes l there).later (List.Subset.refl _) later }

/-- What is turned down and what is left make up the leases that there were. -/
theorem perm_leases (turnsDown : TurnsDown p i taken k q) :
    p.leases.Perm (p.idle.take i ++ taken.toList ++ q.leases) := by
  have whole : p.leases = p.idle.take i ++ (q.idle ++ (taken.toList ++ q.active)) := by
    rw [turnsDown.idle, ← turnsDown.active, ← List.append_assoc, List.take_append_drop]
    rfl
  rw [whole, List.append_assoc]
  exact (List.perm_append_comm_assoc ..).append_left _

/-- No connection that is turned down is left in another lease. -/
theorem apart (turnsDown : TurnsDown p i taken k q) (orderly : p.Orderly [] held)
    {l l' : Lease} (gone : l ∈ p.idle.take i ++ taken.toList) (left : l' ∈ q.leases) :
    l'.connection ≠ l.connection := by
  have nodup : (p.leases.map Lease.connection).Nodup := orderly.sound.distinct.connections
  rw [(turnsDown.perm_leases.map _).nodup_iff, List.map_append] at nodup
  intro same
  exact List.disjoint_of_nodup_append nodup (List.mem_map_of_mem gone)
    (same ▸ List.mem_map_of_mem left)

end TurnsDown

/-- A round turns down one connection, from one of the three places. -/
theorem turnsDown_round (round : Round b r p q) :
    ∃ i taken k, TurnsDown p i taken k q ∧ i + taken.toList.length + k = 1 := by
  obtain ⟨l, found, checked, -, -, isFound, isBad⟩ := round
  have used := (used_of_checked b isBad).trans (checked.used_discard b l)
  obtain rfl : (found.usable b l).2 = checked := congrArg Prod.snd isBad
  cases found_of_candidate b isFound with
  | @idle _ rest first =>
    refine ⟨1, none, 0, ⟨?_, ?_, rfl, nofun, rfl, rfl⟩, rfl⟩
    · simp [first]
    · rw [first]
      rfl
  | opened noneIdle room connected =>
    exact ⟨0, none, 1, ⟨Nat.zero_le _, rfl, rfl, nofun, rfl, rfl⟩, rfl⟩
  | @overdue oldest rest noneIdle full isHeld late =>
    refine ⟨0, some oldest, 0, ⟨Nat.zero_le _, rfl, isHeld, ?_, rfl, rfl⟩, rfl⟩
    intro l there
    obtain rfl := Option.mem_some.mp there
    have overtakes : p.Overtakes oldest (p.seize b oldest rest).2 :=
      ⟨⟨noneIdle, full, by simp [isHeld], late⟩, List.mem_cons_self,
        ((p.environment.record (.reclaimed oldest.connection)).used_reset b
          oldest.connection).journal⟩
    exact overtakes.later (List.subset_cons_self _ _) used.toLater

/-- What the rounds of a search turn down, one in each. -/
theorem turnsDown_rounds (orderly : p.Orderly [] held) (rounds : Rounds b r n p q) :
    ∃ i taken k, TurnsDown p i taken k q ∧ i + taken.toList.length + k = n := by
  induction rounds with
  | none => exact ⟨0, none, 0, .refl _, rfl⟩
  | more first others ih =>
    obtain ⟨i, taken, k, turnsDown, one⟩ := turnsDown_round first
    obtain ⟨j, taken', m, turnsDown', several⟩ := ih (orderly.round b first)
    -- a later round finds room and takes no lease from its holder
    obtain rfl := turnsDown'.taken_eq_none (room_of_round orderly first)
    refine ⟨i + j, taken, k + m,
      turnsDown.trans turnsDown' (revoked_rounds others) (later_rounds b others), ?_⟩
    rw [← several, Option.toList_none, List.length_nil]
    omega

/-! ### Searches that fail -/

/-- A connection could not be opened. The number that was meant for it is still the next one. -/
def OpensInVain (b : Backend σ) (r : Request) (cause : BackendError) (q : Pool σ) : Prop :=
  ∃ e e' : Environment σ,
    e.connect b q.nextConnection q.source.endpoint r.credentials = (.error cause, e') ∧
      q.environment = e'.record (.failed r.name (.connect cause))

/-- A search that may not even begin goes through no round. -/
theorem noRound_of_shutOut (rounds : Rounds b r n p q)
    (shutOut : p.shutDown = true ∨ p.isCancelled r.token = true) : n = 0 := by
  cases rounds with
  | none => rfl
  | more first =>
    obtain ⟨_, _, _, serving, wanted, -, -⟩ := first
    rw [serving, wanted] at shutOut
    simp at shutOut

/-- What a search that fails turned down before, and why it failed. -/
structure Fails (b : Backend σ) (r : Request) (p : Pool σ) (i : Nat) (taken : Option Lease)
    (k : Nat) (cause : PoolError) (q : Pool σ) : Prop extends TurnsDown p i taken k q where
  closed : cause = .closed → p.shutDown = true
  shutOut : p.shutDown = true ∨ p.isCancelled r.token = true → i + taken.toList.length + k = 0
  inVain : ∀ c, cause = .connect c → OpensInVain b r c q

theorem fails_seek (orderly : p.Orderly [] held) {waited : Bool} {spare discarded : Nat}
    {cause : PoolError} (failed : (seek b r waited spare discarded p).1 = .failed cause) :
    ∃ i taken k, Fails b r p i taken k cause (seek b r waited spare discarded p).2 := by
  obtain ⟨n, q, rounds, ending⟩ := rounds_seek b r waited spare discarded p
  obtain ⟨i, taken, k, turnsDown, each⟩ := turnsDown_rounds orderly rounds
  have terms := terms_rounds b rounds
  refine ⟨i, taken, k, ?_⟩
  generalize seek b r waited spare discarded p = out at failed ending
  have nothing (shutOut : p.shutDown = true ∨ p.isCancelled r.token = true) :
      i + taken.toList.length + k = 0 :=
    each.trans (noRound_of_shutOut rounds shutOut)
  -- after its rounds a search that fails only notes that, or tries in vain to open a connection
  have noted (t : Pool σ) (event : Event) (other : ∀ n, event.opening? n = none) :
      t.environment.Later (t.record event).environment := (t.used_note other).toLater
  rcases ending with ⟨-, ending⟩ | ⟨-, rfl⟩
  · cases ending with
    | closed shut =>
      obtain rfl := Acquired.failed.inj failed
      exact ⟨turnsDown.outside (noted q _ fun _ => rfl),
        fun _ => (shutDown_of_terms terms).symm.trans shut, nothing, nofun⟩
    | interrupted =>
      obtain rfl := Acquired.failed.inj failed
      exact ⟨turnsDown.outside (noted q _ fun _ => rfl), nofun, nothing, nofun⟩
    | @refused cause _ _ _ found =>
      obtain rfl := Acquired.failed.inj failed
      have later := later_of_found b found
      cases found_of_candidate b found with
      | @unopened e _ _ _ connected =>
        refine ⟨(turnsDown.outside later).outside (noted _ _ fun _ => rfl), nofun, nothing,
          fun c same => ?_⟩
        obtain rfl := PoolError.connect.inj same
        exact ⟨_, e, connected, rfl⟩
    | waiting | granted => cases failed
  · obtain rfl := Acquired.failed.inj failed
    exact ⟨turnsDown.outside (noted q _ fun _ => rfl), nofun, nothing, nofun⟩

end Pool

namespace Site

variable {σ : Type} {b : Backend σ} {allowed : Site σ → Action σ → Prop} {s t u : Site σ}
  {a : Action σ} {x : Search} {i k : Nat} {taken : Option Lease} {cause : PoolError}

/-- What an acquire that fails takes away, from when its search starts to its end: the first few of
the idle connections, perhaps the longest-held lease, and as many connections as it opened. All of
these are disposed of and counted. The others lie idle or are held in the same order, and whoever
holds a lease that was not taken away holds it as before. -/
structure Forfeits (t : Site σ) (i : Nat) (taken : Option Lease) (k : Nat) (u : Site σ) :
    Prop where
  idle : u.pool.idle = t.pool.idle.drop i
  active : t.pool.active = taken.toList ++ u.pool.active
  /-- A lease was taken from its holder only if it was overdue. -/
  overtakes : ∀ l ∈ taken, t.pool.Overtakes l u.pool
  nextConnection : u.pool.nextConnection = t.pool.nextConnection + k
  opened : u.opened = t.opened ++ List.range' t.pool.nextConnection k
  disposed : ∀ n ∈ (t.pool.idle.take i ++ taken.toList).map Lease.connection ++
    List.range' t.pool.nextConnection k, n ∈ u.disposed
  /-- Requests and their times are counted as before, and so is everything else but for this. -/
  statistics : u.pool.statistics = t.pool.statistics.blamed
    ((t.pool.idle.take i ++ taken.toList).length + k)
    (taken.toList.map fun l => l.heldFor t.pool.now)
  handles : u.handles = t.handles
  valid : ∀ name l, t.handle? name = some l → l ∉ taken → (u.pool.IsValid l ↔ t.pool.IsValid l)

/-- As many connections were opened as the acquire opened in vain. -/
theorem Forfeits.length_opened (forfeits : t.Forfeits i taken k u) :
    u.opened.length = t.opened.length + k := by
  rw [forfeits.opened, List.length_append, List.length_range']

/-- A lease that was taken away is counted. -/
theorem Forfeits.claimedOverdue (forfeits : t.Forfeits i taken k u) :
    u.pool.statistics.claimedOverdue =
      t.pool.statistics.claimedOverdue + taken.toList.length := by
  rw [forfeits.statistics, Statistics.blamed, List.length_map]

/-- What a search turns down is all that is missing, and it is disposed of. -/
theorem forfeits_of_turnsDown (orderly : t.pool.Orderly [] t.leases)
    (orderly' : u.pool.Orderly [] u.leases) (agrees : t.places.Agrees) (agrees' : u.places.Agrees)
    (handles : u.handles = t.handles) (turnsDown : Pool.TurnsDown t.pool i taken k u.pool) :
    t.Forfeits i taken k u := by
  have opened : u.opened = t.opened ++ List.range' t.pool.nextConnection k :=
    agrees.opened_eq_append agrees' turnsDown.nextConnection
  have left {l : Lease} (there : l ∈ u.pool.leases) : l ∈ t.pool.leases :=
    turnsDown.perm_leases.mem_iff.mpr (List.mem_append_right _ there)
  have count : (t.pool.idle.take i ++ taken.toList).length = i + taken.toList.length := by
    rw [List.length_append, List.length_take_of_le turnsDown.among]
  refine {
    idle := turnsDown.idle
    active := turnsDown.active
    overtakes := turnsDown.overtakes
    nextConnection := turnsDown.nextConnection
    opened := opened
    disposed := fun n gone => ?disposed
    statistics := count ▸ turnsDown.statistics
    handles := handles
    valid := fun name l found kept => ?valid }
  case disposed =>
    -- a connection that was opened and is in no lease any more has been disposed of
    rcases List.mem_append.mp gone with turnedDown | isNew
    · obtain ⟨l, there, rfl⟩ := List.mem_map.mp turnedDown
      have before : l ∈ t.pool.leases :=
        turnsDown.perm_leases.mem_iff.mpr (List.mem_append_left _ there)
      have known : l.connection ∈ t.opened := agrees.known _ (mem_places.mpr ⟨l, before, rfl⟩)
      refine disposed_of_absent agrees' (opened ▸ List.mem_append_left _ known) fun l' still => ?_
      exact turnsDown.apart orderly there still
    · -- whatever is left has a smaller number
      refine disposed_of_absent agrees' (opened ▸ List.mem_append_right _ isNew) fun l still => ?_
      have old : l.connection < t.pool.nextConnection :=
        orderly.sound.distinct.connection_lt l (left still)
      exact Nat.ne_of_lt (Nat.lt_of_lt_of_le old (List.mem_range'_1.mp isNew).1)
  case valid =>
    -- the valid leases of holders are those in `active`, and only `taken` left that list
    have isHeld : l ∈ t.leases := mem_leases found
    have isHeld' : l ∈ u.leases := by
      rw [leases, handles]
      exact isHeld
    have others : l ∈ t.pool.active ↔ l ∈ u.pool.active := by
      rw [turnsDown.active, List.mem_append, Option.mem_toList]
      exact or_iff_right kept
    exact (orderly'.sound.valid_iff_active isHeld').trans
      (others.symm.trans (orderly.sound.valid_iff_active isHeld).symm)

/-- A search that begins leaves the handles alone. -/
theorem handles_of_enters (entered : s.enters a = some (x, t)) : t.handles = s.handles := by
  have launched? {name : String} {credentials : Credentials} {token : Option Nat}
      (same : s.launch? name credentials token = some (x, t)) : t.handles = s.handles := by
    unfold launch? at same
    split at same
    · cases same
    · obtain ⟨-, rfl⟩ := Prod.mk.inj (Option.some.inj same)
      rfl
  cases a with
  | get => exact launched? entered
  | acquire => exact launched? entered
  | proceed =>
    obtain ⟨credentials, -, same⟩ := Option.map_eq_some_iff.mp entered
    obtain ⟨-, rfl⟩ := Prod.mk.inj same
    rfl
  | resume w =>
    simp only [enters] at entered
    split at entered
    · obtain ⟨-, rfl⟩ := Prod.mk.inj (Option.some.inj entered)
      rfl
    · cases entered
  | _ => cases entered

/-- An acquire that fails loses nothing silently. Compared with when it last began to search, the
first few of the idle connections are gone, perhaps the longest-held lease, which was overdue, and
whatever it opened: all of them disposed of and counted, one by one. Nothing is gone at all if it
failed because the pool was shut down, or because its token was cancelled before. If it could not
open a connection, then that took no number. -/
theorem Reachable.forfeits_of_failed (reach : Reachable b allowed s)
    (entered : s.enters a = some (x, t)) (failed : (s.act b a).1 = .failed cause) :
    let u := (s.act b a).2
    s.pool.Starts t.pool ∧
      ∃ i taken k, t.Forfeits i taken k u ∧
        (cause = .closed ∨ cause = .interrupted ∧ t.pool.isCancelled x.request.token = true →
          i = 0 ∧ taken = none ∧ k = 0) ∧
        ∀ c, cause = .connect c → Pool.OpensInVain b x.request c u.pool := by
  intro u
  obtain ⟨starts, -, whole⟩ := act_of_enters (b := b) entered
  have handles := handles_of_enters entered
  have orderly : t.pool.Orderly [] t.leases := by
    rw [leases, handles]
    exact starts.orderly reach.orderly.pool
  have orderly' : u.Orderly := reach.orderly.act a
  have agrees : t.places.Agrees := reach.agrees.moves starts.moves
  have agrees' : u.places.Agrees := reach.agrees.moves (moves_act reach.orderly a)
  rw [whole] at failed
  obtain ⟨i, taken, k, fails⟩ :=
    Pool.fails_seek (b := b) orderly (afterAcquire_eq_failed_iff.mp failed)
  have pool : u.pool = (Pool.seek b x.request x.waited x.spare x.discarded t.pool).2 := by
    rw [← pool_afterAcquire, ← whole]
  have handles' : u.handles = t.handles := by
    change (s.act b a).2.handles = t.handles
    rw [whole]
    generalize Pool.seek b x.request x.waited x.spare x.discarded t.pool = out at failed
    obtain ⟨acquired, q⟩ := out
    obtain rfl := afterAcquire_eq_failed_iff.mp failed
    rfl
  rw [← pool] at fails
  refine ⟨starts, i, taken, k,
    forfeits_of_turnsDown orderly orderly'.pool agrees agrees' handles' fails.toTurnsDown,
    fun shutOut => ?_, fails.inVain⟩
  have nothing : i + taken.toList.length + k = 0 := by
    refine fails.shutOut ?_
    rcases shutOut with isClosed | ⟨-, cancelled⟩
    · exact .inl (fails.closed isClosed)
    · exact .inr cancelled
  have noneTaken : taken.toList = [] := List.eq_nil_of_length_eq_zero (by omega)
  exact ⟨by omega, Option.toList_eq_nil_iff.mp noneTaken, by omega⟩

/-- An acquire takes a broken connection from its holder, who is late, opens one that is broken as
well, and cannot open another. -/
theorem forfeits_of_failed_overdue :
    let broken : Scripted → Scripted := fun c =>
      { c.adjust 1 fun conduct => { conduct with closed := true } with
        script := [.succeed fun conduct => { conduct with closed := true }, .fail .closed] }
    let s := (new ⟨"db", {}⟩ { maxActive := 1 } {}).run Scripted.backend
      [.get "a", .elapse 21_000_000_000, .backend broken]
    let asked := s.launch "b" s.pool.source.credentials none
    let out := s.act Scripted.backend (.get "b")
    (s.enters (.get "b") = some asked ∧ out.1 = .failed (.connect .closed)) ∧
      ∃ i l, asked.2.Forfeits i (some l) 1 out.2 ∧ s.handle? "a" = some l ∧
        Pool.OpensInVain Scripted.backend asked.1.request .closed out.2.pool := by
  intro broken s asked out
  have reach : Reachable Scripted.backend (fun _ _ => True) s := reachable_run ..
  -- in one piece, so that the sites are evaluated once
  obtain ⟨free, fails, before, after, claims, claims', active⟩ :
      ¬ s.IsTaken "b" ∧
        (Pool.seek Scripted.backend asked.1.request asked.1.waited asked.1.spare asked.1.discarded
          asked.2.pool).1 = .failed (.connect .closed) ∧
        asked.2.opened = [1] ∧ out.2.opened = [1, 2] ∧
        asked.2.pool.statistics.claimedOverdue = 0 ∧
        out.2.pool.statistics.claimedOverdue = 1 ∧
        asked.2.pool.active.head? = s.handle? "a" := by
    decide +kernel
  have entered : s.enters (.get "b") = some asked := if_neg free
  have failed : out.1 = .failed (.connect .closed) := by
    change (s.act Scripted.backend (.get "b")).1 = _
    rw [(act_of_enters entered).2.2]
    exact afterAcquire_eq_failed_iff.mpr fails
  obtain ⟨-, i, taken, k, forfeits, -, inVain⟩ := reach.forfeits_of_failed entered failed
  refine ⟨⟨entered, failed⟩, ?_⟩
  have many : out.2.opened.length = asked.2.opened.length + k := forfeits.length_opened
  obtain rfl : k = 1 := by
    rw [before, after] at many
    exact (Nat.add_left_cancel many).symm
  have claimed : out.2.pool.statistics.claimedOverdue =
      asked.2.pool.statistics.claimedOverdue + taken.toList.length := forfeits.claimedOverdue
  rw [claims, claims'] at claimed
  cases taken with
  | none => cases claimed
  | some l =>
    refine ⟨i, l, forfeits, ?_, inVain _ rfl⟩
    rw [← active]
    exact (forfeits.overtakes l rfl).overdue.oldest

end Site

end LeasePool
