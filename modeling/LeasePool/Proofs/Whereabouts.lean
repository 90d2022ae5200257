import LeasePool.Proofs.Places
import LeasePool.Proofs.Provenance

/-!
# Where every connection is

Whatever a pool does, it does by moves of one connection at a time. So at every reachable site every
connection that was ever opened is in exactly one place: one active lease has it, or one idle lease,
or the pool has disposed of it. Of a connection that the pool has disposed of nothing is asked any
more.

## Main definitions

* `Pool.places`: where the connections of a pool are, with some leases in the hand.
* `Site.Accounted`: every connection that was opened is in exactly one place.
* `Site.Gone`: the pool is done with a connection, and remains so.

## Main results

* `Pool.moves_seek`, `Pool.moves_release`, `Pool.moves_closeAll`, `Site.moves_act`: operations and
  actions are moves.
* `Site.Reachable.agrees`: the journal agrees with where the connections are.
* `Site.Reachable.accounted`: every connection is accounted for, and what is disposed of remains so.
-/

namespace LeasePool

namespace Pool

variable {σ : Type} {b : Backend σ} {p q : Pool σ} {r : Request} {l : Lease} {held : List Lease}

open Places

/-- Where the connections of a pool are, with some leases in the hand. -/
def places (p : Pool σ) (hand : List Lease) : Places σ where
  hand := hand.map Lease.connection
  idle := p.idle.map Lease.connection
  active := p.active.map Lease.connection
  next := p.nextConnection
  environment := p.environment

/-! ### Searching -/

/-- To note what concerns no connection is no move. -/
theorem moves_record {hand : List Lease} {event : Event}
    (neutral : ∀ n s, Standing.note n s event = s) (noOpening : event.opened? = none) :
    Moves (p.places hand) ((p.record event).places hand) := by
  refine .single (.pause (fun n => neutral n _) ?_)
  refine (Environment.opened_record _ _).trans ?_
  rw [noOpening, Option.toList_none, List.append_nil]
  rfl

theorem Starts.moves (starts : p.Starts q) : Moves (p.places []) (q.places []) := by
  cases starts with
  | begun name => exact moves_record (fun _ _ => rfl) rfl
  | woken w =>
    have noted : Moves (p.places []) ((p.record (.resumed w.request.name)).places []) :=
      moves_record (fun _ _ => rfl) rfl
    exact noted

theorem moves_found {c : Credentials} {out : Except BackendError (Option Lease) × Pool σ}
    (found : Found b c p out) : Moves (p.places []) (out.2.places (candidates out.1)) := by
  cases found with
  | @idle l rest first =>
    refine .single (.take l.connection [] (rest.map Lease.connection) ?_)
    simp [places, first]
  | opened _ _ connected =>
    exact .single (.connect (Environment.standing_connect b connected)
      (Environment.opened_connect b connected))
  | unopened _ _ refused =>
    exact .single (.pause (Environment.standing_connect b refused)
      (Environment.opened_refused b refused))
  | @overdue oldest rest _ _ isHeld =>
    -- the holder loses the connection, which is then reset
    obtain ⟨made, -, called⟩ :=
      (p.environment.record (.reclaimed oldest.connection)).called_reset b oldest.connection
    have retrieved : Move (p.places []) _ :=
      .retrieve oldest.connection [] (rest.map Lease.connection) (by simp [places, isHeld])
        (.reclaimed)
    exact .tail (.single retrieved) (.call (by simp) called)
  | nothing => exact .refl

theorem moves_candidate {c : Credentials} {out : Except BackendError (Option Lease)}
    (found : p.candidate b c = (out, q)) : Moves (p.places []) (q.places (candidates out)) :=
  moves_found (found_of_candidate b found)

theorem moves_of_checked {good : Bool} (checked : p.usable b l = (good, q)) :
    Moves (p.places [l]) (q.places [l]) := by
  obtain ⟨made, -, called⟩ := p.environment.called_usable b l p.settings p.expected p.revoked
  obtain rfl : (p.usable b l).2 = q := congrArg Prod.snd checked
  exact .single (.call (by simp [places]) called)

theorem moves_destroy (b : Backend σ) (p : Pool σ) (l : Lease) :
    Moves (p.places [l]) ((p.destroy b l).places []) := by
  obtain ⟨made, disposes, called⟩ := p.environment.called_dispose b l.connection
  exact .single (.dispose rfl disposes called)

theorem moves_discard (b : Backend σ) (p : Pool σ) (l : Lease) :
    Moves (p.places [l]) ((p.discard b l).places []) := by
  have noted : Moves (p.places [l]) ((p.record (.discarded l.connection)).places [l]) :=
    moves_record (fun _ _ => rfl) rfl
  exact noted.trans (moves_destroy b (p.record (.discarded l.connection)) l)

theorem moves_handOut (b : Backend σ) (p : Pool σ) (r : Request) (l : Lease) :
    Moves (p.places [l]) ((p.handOut b r l).2.places []) := by
  obtain ⟨made, -, called⟩ := p.environment.called_reset b l.connection
  have reset : Move (p.places [l])
      { p.places [l] with environment := (p.environment.reset b l.connection).2 } :=
    .call (by simp [places]) called
  have handed : (p.handOut b r l).2.places [] =
      { p.places [l] with
        hand := [], active := p.active.map Lease.connection ++ [l.connection]
        environment := (p.environment.reset b l.connection).2.record
          (.handedOut r.name l.connection) } := by
    simp [places, handOut, Lease.checkOut]
  rw [handed]
  exact .tail (.single reset) (.handOut rfl)

theorem moves_round (round : Round b r p q) : Moves (p.places []) (q.places []) := by
  obtain ⟨l, taken, checked, -, -, found, bad⟩ := round
  exact ((moves_candidate found).trans (moves_of_checked bad)).trans (moves_discard b checked l)

theorem moves_rounds {n : Nat} (rounds : Rounds b r n p q) : Moves (p.places []) (q.places []) :=
  rounds.keeps b (P := fun t => Moves (p.places []) (t.places []))
    (fun _ _ round before => before.trans (moves_round round)) .refl

theorem moves_ending {waited : Bool} {discarded : Nat} {out : Acquired × Pool σ}
    (ending : Ending b r waited discarded p out) : Moves (p.places []) (out.2.places []) := by
  cases ending with
  | closed => exact moves_record (fun _ _ => rfl) rfl
  | interrupted => exact moves_record (fun _ _ => rfl) rfl
  | refused _ _ found => exact (moves_candidate found).trans (moves_record (fun _ _ => rfl) rfl)
  | @waiting q _ _ found =>
    have noted : Moves (q.places []) ((q.record (.parked r.name)).places []) :=
      moves_record (fun _ _ => rfl) rfl
    exact (moves_candidate found).trans noted
  | granted l taken checked _ _ found good =>
    have inHand := (moves_candidate found).trans (moves_of_checked good)
    exact inHand.trans (moves_handOut b checked r l)

/-- A search is moves. -/
theorem moves_seek (b : Backend σ) (r : Request) (waited : Bool) (spare discarded : Nat)
    (p : Pool σ) :
    Moves (p.places []) ((seek b r waited spare discarded p).2.places []) := by
  obtain ⟨n, q, rounds, ending⟩ := rounds_seek b r waited spare discarded p
  refine (moves_rounds rounds).trans ?_
  rcases ending with ⟨-, ending⟩ | ⟨-, failed⟩
  · exact moves_ending ending
  · rw [failed]
    exact moves_record (fun _ _ => rfl) rfl

/-! ### Handing back and closing everything -/

theorem places_notifyOne (p : Pool σ) (hand : List Lease) :
    p.notifyOne.places hand = p.places hand := by
  unfold notifyOne
  split <;> rfl

theorem moves_takeBack (b : Backend σ) (p : Pool σ) (l : Lease) :
    Moves (p.places [l]) ((p.takeBack b l).places []) := by
  obtain ⟨made, restores, called⟩ := p.environment.called_restore b l.connection
  unfold takeBack
  split
  · have reset : Moves (p.places [l])
        ({ p with environment := (restore b p.environment l.connection).2 }.places [l]) :=
      .single (.call (by simp [places]) called)
    split
    · rename_i e restored
      rw [restored] at restores called reset
      -- the connection was reset, so nothing is pending on it
      have settles : (e.calls l.connection).head?.any Call.settles = true := by
        rw [Environment.calls_called called]
        exact restores.settles _
      have laid : ({ p with environment := e }.shelve l).places [] =
          { { p with environment := e }.places [l] with
            hand := [], idle := p.idle.map Lease.connection ++ [l.connection] } := by
        simp [places, shelve, renew, revoke, Lease.renewed]
      rw [laid]
      exact reset.tail (.lay rfl settles)
    · rename_i e restored
      rw [restored] at reset
      exact reset.trans (moves_destroy b _ l)
  · exact moves_destroy b p l

/-- Handing back a lease is moves. -/
theorem moves_release (b : Backend σ) (orderly : p.Orderly [] held) (isHeld : l ∈ held) :
    Moves (p.places []) ((p.release b l).places []) := by
  by_cases valid : p.IsValid l
  · have active : l ∈ p.active := orderly.sound.active_of_held l isHeld valid
    obtain ⟨before, after, whole, rest⟩ := split_dropActive orderly.sound active
    have retrieved : Moves (p.places []) (((p.dropActive l).noteReturn l).places [l]) := by
      have move : Move (p.places []) _ :=
        .retrieve l.connection (before.map Lease.connection) (after.map Lease.connection)
          (by simp [places, whole]) (.returned)
      refine .single ?_
      rw [← List.map_append, ← rest] at move
      exact move
    rw [release_of_valid b valid, places_notifyOne]
    exact retrieved.trans (moves_takeBack b _ l)
  · rw [release_of_revoked b valid, dropActive_of_revoked orderly.sound valid]
    exact moves_record (fun _ _ => rfl) rfl

/-- To withdraw active leases one after the other, the youngest first, is moves. -/
theorem moves_foldl_withdraw (b : Backend σ) (ls : List Lease) (p : Pool σ) (idle : List Nat) :
    Moves ⟨[], idle, ls.reverse.map Lease.connection, p.nextConnection, p.environment⟩
      ⟨[], idle, [], p.nextConnection, (ls.foldl (withdraw b) p).environment⟩ := by
  induction ls generalizing p with
  | nil => exact .refl
  | cons l ls ih =>
    obtain ⟨made, disposes, called⟩ :=
      (p.environment.record (.withdrawn l.connection)).called_dispose b l.connection
    have retrieved : Move
        ⟨[], idle, (l :: ls).reverse.map Lease.connection, p.nextConnection, p.environment⟩ _ :=
      .retrieve l.connection (ls.reverse.map Lease.connection) [] (by simp)
        (.withdrawn)
    have disposed := Relation.ReflTransGen.tail (.single retrieved) (.dispose rfl disposes called)
    rw [List.append_nil] at disposed
    exact disposed.trans (ih (p.withdraw b l))

theorem moves_foldl_destroy (b : Backend σ) (ls : List Lease) (p : Pool σ) :
    Moves ⟨[], ls.reverse.map Lease.connection, [], p.nextConnection, p.environment⟩
      ⟨[], [], [], p.nextConnection, (ls.foldl (destroy b) p).environment⟩ := by
  induction ls generalizing p with
  | nil => exact .refl
  | cons l ls ih =>
    obtain ⟨made, disposes, called⟩ := p.environment.called_dispose b l.connection
    have taken : Move
        ⟨[], (l :: ls).reverse.map Lease.connection, [], p.nextConnection, p.environment⟩ _ :=
      .take l.connection (ls.reverse.map Lease.connection) [] (by simp)
    have disposed := Relation.ReflTransGen.tail (.single taken) (.dispose rfl disposes called)
    rw [List.append_nil] at disposed
    exact disposed.trans (ih (p.destroy b l))

/-- Closing everything is moves. -/
theorem moves_closeAll (b : Backend σ) (p : Pool σ) :
    Moves (p.places []) ((p.closeAll b).places []) := by
  have custody : (p.closeAll b).custody = _ := custody_clear b p
  have empty : (p.closeAll b).places [] =
      ⟨[], [], [], p.nextConnection, (p.clear b).environment⟩ := by
    have idle : (p.closeAll b).idle = [] := congrArg Custody.idle custody
    have active : (p.closeAll b).active = [] := congrArg Custody.active custody
    have next : (p.closeAll b).nextConnection = p.nextConnection :=
      congrArg Custody.nextConnection custody
    simp only [places, idle, active, next, List.map_nil]
    rfl
  have withdrawn := moves_foldl_withdraw b p.active.reverse p.vacated (p.idle.map Lease.connection)
  have destroyed := moves_foldl_destroy b p.idle.reverse
    (p.active.reverse.foldl (withdraw b) p.vacated)
  have next : (p.active.reverse.foldl (withdraw b) p.vacated).nextConnection = p.nextConnection :=
    congrArg Custody.nextConnection (custody_foldl_withdraw b p.active.reverse p.vacated)
  rw [List.reverse_reverse] at withdrawn destroyed
  rw [next] at destroyed
  rw [empty]
  exact withdrawn.trans destroyed

end Pool

namespace Site

variable {σ : Type} {b : Backend σ} {allowed : Site σ → Action σ → Prop} {s t : Site σ}

open Places

/-- Where the connections of a site's pool are. -/
def places (s : Site σ) : Places σ := s.pool.places []

/-- Whatever happens at an orderly site is moves. -/
theorem moves_act (orderly : s.Orderly) (a : Action σ) : Moves s.places (s.act b a).2.places := by
  have step := step_act b s a
  generalize s.act b a = result at step
  cases step with
  | rest | lookUp | notifyAll | rouse => exact .refl
  | outside _ e _ touches =>
    have paused (same : e.events = s.pool.environment.events) :
        Moves s.places { s.places with environment := e } := by
      refine .single (.pause (fun n => ?_) ?_)
      · exact congrArg (List.foldr (fun event st => Standing.note n st event) {}) same
      · exact congrArg (fun events => (events.filterMap Event.opened?).reverse) same
    rcases touches with same | ⟨name, l, -, found, rfl | ⟨valid, made, called⟩⟩
    · exact paused same
    · exact paused rfl
    · -- whoever may use a connection holds an active lease
      have active : l ∈ s.pool.active := orderly.active_of_found found valid
      exact .single (.call (List.mem_append_right _ (List.mem_map_of_mem active)) called)
  | begin r lookups =>
    rw [places, places, pool_afterAcquire]
    exact (Pool.Starts.begun r.name).moves.trans (Pool.moves_seek b r false _ 0 _)
  | resume w =>
    rw [places, places, pool_afterAcquire]
    exact (Pool.Starts.woken w).moves.trans (Pool.moves_seek b w.request true _ w.discarded _)
  | release name l found => exact Pool.moves_release b orderly.pool (mem_leases found)
  | close source settings shutDown =>
    exact Pool.moves_closeAll b { s.pool with source, settings, shutDown }

/-! ### Along a run -/

theorem agrees_new (source : DataSource) (settings : Settings) (backend : σ) :
    (new source settings backend).places.Agrees where
  nodup := List.nodup_nil
  opened := rfl
  next := rfl
  known _ there := absurd there List.not_mem_nil
  inHand _ there := absurd there List.not_mem_nil
  idle _ there := absurd there List.not_mem_nil
  active _ there := absurd there List.not_mem_nil
  nowhere _ isOpened := absurd isOpened List.not_mem_nil
  unknown _ _ := rfl

/-- At every reachable site the journal agrees with where the connections are. -/
theorem Reachable.agrees (reach : Reachable b allowed s) : s.places.Agrees := by
  apply reach.keepsOrderly (P := fun t => t.places.Agrees) agrees_new
  intro t a _ orderly agrees
  exact agrees.moves (moves_act orderly a)

/-- From an orderly site a run leads to an orderly site, by moves. -/
theorem Leads.moves (leads : Leads b allowed s t) (orderly : s.Orderly) :
    t.Orderly ∧ Moves s.places t.places := by
  apply leads.keeps (P := fun u => u.Orderly ∧ Moves s.places u.places)
  · intro u a _ ⟨orderly, moves⟩
    exact ⟨orderly.act a, moves.trans (moves_act orderly a)⟩
  · exact ⟨orderly, .refl⟩

theorem mem_places {n : Nat} :
    n ∈ s.places.all ↔ ∃ l ∈ s.pool.idle ++ s.pool.active, l.connection = n := by
  simp only [places, Pool.places, Places.all, List.map_nil, List.nil_append, ← List.map_append,
    List.mem_map]

/-! ### The account of connections -/

/-- The connections that were opened, in order. -/
def opened (s : Site σ) : List Nat := s.pool.environment.opened

/-- The connections with which the pool is done. -/
def disposed (s : Site σ) : List Nat := s.pool.environment.disposed

/-- The calls on a connection so far, on whosever behalf, the latest first. -/
def calls (s : Site σ) (n : Nat) : List Call := s.pool.environment.calls n

/-- Every connection that was opened is in exactly one place. -/
structure Accounted (s : Site σ) : Prop where
  /-- Connections are numbered one after the other as they are opened. -/
  numbered : s.opened = List.range' 1 s.opened.length
  /-- One active lease has the connection, or one idle lease, or it was disposed of. -/
  place : ∀ n ∈ s.opened,
    (s.pool.active.map Lease.connection).count n + (s.pool.idle.map Lease.connection).count n +
      s.disposed.count n = 1
  known : ∀ l ∈ s.pool.idle ++ s.pool.active, l.connection ∈ s.opened
  total : s.opened.length = s.pool.status.active + s.pool.status.idle + s.disposed.length

theorem accounted_of_agrees (agrees : s.places.Agrees) : s.Accounted := by
  have among : s.opened.Perm (s.pool.idle.map Lease.connection ++
      s.pool.active.map Lease.connection ++ s.disposed) := agrees.perm_opened rfl
  have once : s.opened.Nodup := by
    rw [opened, show s.pool.environment.opened = _ from agrees.opened]
    exact List.nodup_range'
  refine ⟨agrees.opened, fun n isOpened => ?_, fun l there => ?_, ?_⟩
  · have counted := among.count_eq n
    rw [List.count_eq_one_of_mem once isOpened, List.count_append, List.count_append] at counted
    omega
  · exact agrees.known _ (mem_places.mpr ⟨l, there, rfl⟩)
  · have counted := among.length_eq
    simp only [List.length_append, List.length_map] at counted
    simp only [Pool.status]
    omega

/-- The pool is done with a connection only after it saw it closed, or closed it. -/
theorem disposes_of_disposed (agrees : s.places.Agrees) (agrees' : t.places.Agrees)
    (moves : Moves s.places t.places) {n : Nat} (disposed : n ∈ t.disposed)
    (isNew : n ∉ s.disposed) :
    ∃ made earlier, Disposes made ∧ s.calls n <:+ earlier ∧ t.calls n = made ++ earlier := by
  obtain ⟨opened, isDisposed⟩ := Environment.mem_disposed.mp disposed
  obtain ⟨positive, isOld⟩ := agrees'.mem_opened_iff.mp opened
  refine moves.course.left n isOld (fun there => agrees'.not_isDisposed there isDisposed) ?_
  by_contra nowhere
  obtain ⟨absent, isOldBefore⟩ := not_or.mp nowhere
  have openedBefore := agrees.mem_opened_iff.mpr ⟨positive, Nat.lt_of_not_le isOldBefore⟩
  exact isNew (Environment.mem_disposed.mpr ⟨openedBefore, agrees.nowhere n openedBefore absent⟩)

/-- The pool is done with a connection and remains so: it is in no lease again, and nothing is asked
of it. -/
structure Gone (n : Nat) (s t : Site σ) : Prop where
  disposed : n ∈ t.disposed
  calls : t.calls n = s.calls n
  nowhere : ∀ l ∈ t.pool.idle ++ t.pool.active, l.connection ≠ n

theorem gone_of_disposed (agrees : s.places.Agrees) (agrees' : t.places.Agrees)
    (moves : Moves s.places t.places) {n : Nat} (disposed : n ∈ s.disposed) : Gone n s t := by
  obtain ⟨opened, isDisposed⟩ := Environment.mem_disposed.mp disposed
  obtain ⟨positive, isOld⟩ := agrees.mem_opened_iff.mp opened
  have absent : n ∉ s.places.all := fun there => agrees.not_isDisposed there isDisposed
  have course := moves.course
  have same := course.elsewhere n isOld absent
  refine ⟨Environment.mem_disposed.mpr ⟨?_, ?_⟩, congrArg Standing.calls same,
    fun l there isN => ?_⟩
  · exact agrees'.mem_opened_iff.mpr ⟨positive, Nat.lt_of_lt_of_le isOld course.next_le⟩
  · exact same.symm ▸ isDisposed
  · rcases course.all n (mem_places.mpr ⟨l, there, isN⟩) with there | isNew
    · exact absent there
    · exact Nat.not_lt_of_le isNew isOld

/-- The pool remains done with a connection wherever a run leads, and nobody gets it there. -/
theorem gone_of_leads (orderly : s.Orderly) (agrees : s.places.Agrees) {n : Nat}
    (disposed : n ∈ s.disposed) (leads : Leads b allowed s t) :
    Gone n s t ∧ ∀ a, n ∉ (t.act b a).1.leased? := by
  obtain ⟨orderly', moves⟩ := leads.moves orderly
  refine ⟨gone_of_disposed agrees (agrees.moves moves) moves disposed, fun a leased => ?_⟩
  -- who got the connection would hold an active lease of it
  have moves' := moves.trans (moves_act (b := b) orderly' a)
  obtain ⟨l, active, same⟩ := active_of_leased leased
  have gone := gone_of_disposed agrees (agrees.moves moves') moves' disposed
  exact gone.nowhere l (List.mem_append_right _ active) same

/-- What was opened and is in no lease was disposed of. -/
theorem disposed_of_absent (agrees : s.places.Agrees) {n : Nat} (opened : n ∈ s.opened)
    (absent : ∀ l ∈ s.pool.idle ++ s.pool.active, l.connection ≠ n) : n ∈ s.disposed := by
  refine Environment.mem_disposed.mpr ⟨opened, agrees.nowhere n opened fun there => ?_⟩
  obtain ⟨l, there, same⟩ := mem_places.mp there
  exact absent l there same

/-- A connection that was in a lease and is in none any more was disposed of. -/
theorem disposed_of_gone {l : Lease} (agrees : s.places.Agrees) (agrees' : t.places.Agrees)
    (moves : Moves s.places t.places) (there : l ∈ s.pool.idle ++ s.pool.active)
    (gone : ∀ l' ∈ t.pool.idle ++ t.pool.active, l'.connection ≠ l.connection) :
    l.connection ∈ t.disposed := by
  have opened := agrees.known l.connection (mem_places.mpr ⟨l, there, rfl⟩)
  obtain ⟨positive, isOld⟩ := agrees.mem_opened_iff.mp opened
  refine disposed_of_absent agrees' ?_ gone
  exact agrees'.mem_opened_iff.mpr ⟨positive, Nat.lt_of_lt_of_le isOld moves.course.next_le⟩

/-- At every reachable site every connection that was ever opened is in exactly one place. It is
disposed of only when the pool sees it closed or closes it. From then on it is in no lease, nobody
gets it, and nothing is asked of it. -/
theorem Reachable.accounted (reach : Reachable b allowed s) :
    s.Accounted ∧
      (∀ a, let t := (s.act b a).2
        ∀ n ∈ t.disposed, n ∉ s.disposed → ∃ made earlier,
          Disposes made ∧ s.calls n <:+ earlier ∧ t.calls n = made ++ earlier) ∧
      ∀ n ∈ s.disposed, ∀ t, Leads b (fun _ _ => True) s t →
        Gone n s t ∧ ∀ a, n ∉ (t.act b a).1.leased? := by
  have agrees := reach.agrees
  refine ⟨accounted_of_agrees agrees, ?_, ?_⟩
  · intro a t n disposed isNew
    have moves := moves_act (b := b) reach.orderly a
    exact disposes_of_disposed agrees (agrees.moves moves) moves disposed isNew
  · intro n disposed t leads
    exact gone_of_leads reach.orderly agrees disposed leads

/-- A connection is handed back, and closed with everything; then another is opened. -/
theorem accounted_closed :
    let s := (new ⟨"db", {}⟩ { maxActive := 1 } {}).run Scripted.backend [.get "a", .release "a"]
    let t := (s.act Scripted.backend .closeAll).2
    let u := t.run Scripted.backend [.get "b"]
    1 ∉ s.disposed ∧ 1 ∈ t.disposed ∧
      (∃ made earlier, Disposes made ∧ s.calls 1 <:+ earlier ∧ t.calls 1 = made ++ earlier) ∧
      (Gone 1 t u ∧ ∀ a, 1 ∉ (u.act Scripted.backend a).1.leased?) ∧
      u.opened = [1, 2] ∧ u.Accounted := by
  intro s t u
  have there : 1 ∉ s.disposed ∧ 1 ∈ t.disposed ∧ u.opened = [1, 2] := by decide +kernel
  obtain ⟨isNew, disposed, opened⟩ := there
  have before : Reachable Scripted.backend (fun _ _ => True) s :=
    ⟨_, _, _, Leads.refl.run _ fun _ _ _ => trivial⟩
  have closed : Reachable Scripted.backend (fun _ _ => True) t :=
    ⟨_, _, _, .act .closeAll (Leads.refl.run _ fun _ _ _ => trivial) trivial⟩
  have leads : Leads Scripted.backend (fun _ _ => True) t u := Leads.refl.run _ fun _ _ _ => trivial
  have after : Reachable Scripted.backend (fun _ _ => True) u := by
    obtain ⟨source, settings, backend, first⟩ := closed
    exact ⟨source, settings, backend, first.trans leads⟩
  exact ⟨isNew, disposed, before.accounted.2.1 .closeAll 1 disposed isNew,
    closed.accounted.2.2 1 disposed u leads, opened, after.accounted.1⟩

end Site

end LeasePool
