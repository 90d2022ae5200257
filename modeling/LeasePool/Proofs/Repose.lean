import LeasePool.Proofs.Revocation
import LeasePool.Proofs.Stamps

/-!
# Idle connections

A connection comes to lie idle in one way only: the holder of a valid lease hands it back, there is
room, the connection says that it is not closed, and it is reset. Otherwise it is disposed of. While
it lies idle nobody touches it: holders only reach connections that are held, and a search takes a
connection off the idle list before it does anything with it.

## Main definitions

* `Pool.Takes`: a connection that is handed back is to lie idle.
* `Site.LaysDown`: the last holder of a connection hands it back, and it comes to lie idle.
* `Site.Untouched`: nothing was asked of a connection, and it was not handed out.
* `Site.Rests`: a connection lies idle as its last holder left it.
* `Site.GivesBack`: what becomes of the connection of a valid lease that is handed back.

## Main results

* `Pool.takeBack_of_takes`, `Pool.idle_takeBack_of_not_takes`: what becomes of a connection that is
  handed back.
* `Pool.standing_seek`: a search does nothing to the connections that it leaves on the idle list.
* `Site.idle_act`: what lies idle after an action lay there untouched before, or was laid down just
  now.
* `Site.Reachable.reposed`: every idle connection lies as its last holder left it, and exactly the
  connections that are fit for it come to lie idle.
-/

namespace LeasePool

/-- A connection is restored if it is not closed, and either nothing can be pending on it or it is
rolled back. -/
theorem restores_ok_iff {made : List Call} :
    Restores made (.ok ()) ↔
      made = [⟨.pool, .autoCommit, .ok true⟩, ⟨.pool, .isClosed, false⟩] ∨
        made = [⟨.pool, .rollback, .ok ()⟩, ⟨.pool, .autoCommit, .ok false⟩,
          ⟨.pool, .isClosed, false⟩] := by
  constructor
  · intro restores
    cases restores with
    | reset resets =>
      cases resets with
      | unneeded => exact .inl rfl
      | rolledBack => exact .inr rfl
  · rintro (rfl | rfl)
    · exact .reset .unneeded
    · exact .reset (.rolledBack (.ok ()))

namespace Pool

variable {σ : Type} {b : Backend σ} {p q : Pool σ} {r : Request} {l : Lease} {held : List Lease}

/-! ### Handing back -/

/-- A connection that is handed back is to lie idle: there is room, it is not closed, and it can be
reset. -/
structure Takes (b : Backend σ) (p : Pool σ) (l : Lease) : Prop where
  room : p.idle.length < p.settings.maxIdle
  notClosed : (p.environment.ask b .pool l.connection .isClosed).1 = false
  resets : ((p.environment.ask b .pool l.connection .isClosed).2.reset b l.connection).1 = .ok ()

theorem restore_eq_ok_iff (b : Backend σ) (e : Environment σ) (n : Nat) :
    (restore b e n).1 = .ok () ↔ (e.ask b .pool n .isClosed).1 = false ∧
      ((e.ask b .pool n .isClosed).2.reset b n).1 = .ok () := by
  unfold restore
  split
  · rename_i e' asked
    simp [asked]
  · rename_i e' asked
    simp [asked]

/-- A connection that is to lie idle is reset and laid behind the others. -/
theorem takeBack_of_takes (takes : p.Takes b l) (stamp : l.fingerprint = p.expected) :
    p.takeBack b l =
      { p with environment := (restore b p.environment l.connection).2 }.shelve l := by
  have restored := (restore_eq_ok_iff b p.environment l.connection).mpr ⟨takes.notClosed, takes.resets⟩
  rw [takeBack, if_pos ⟨takes.room, stamp⟩]
  generalize restore b p.environment l.connection = result at restored
  obtain ⟨answer, e⟩ := result
  obtain rfl : answer = .ok () := restored
  rfl

/-- Any other connection that is handed back leaves the idle ones as they were. -/
theorem idle_takeBack_of_not_takes (isUnfit : ¬ p.Takes b l) : (p.takeBack b l).idle = p.idle := by
  unfold takeBack
  split
  · rename_i room
    split
    · rename_i e restored
      have ok : (restore b p.environment l.connection).1 = .ok () := congrArg Prod.fst restored
      obtain ⟨notClosed, resets⟩ := (restore_eq_ok_iff b p.environment l.connection).mp ok
      exact absurd ⟨room.1, notClosed, resets⟩ isUnfit
    · rfl
  · rfl

/-! ### Searching -/

/-- The end of a search does nothing to the connections that lie idle after it. -/
theorem standing_ending {waited : Bool} {discarded : Nat} {out : Acquired × Pool σ}
    (agrees : (p.places []).Agrees) (ending : Ending b r waited discarded p out) :
    ∀ l ∈ out.2.idle,
      out.2.environment.standing l.connection = p.environment.standing l.connection := by
  intro l idle
  cases ending with
  | closed | interrupted => rfl
  | refused _ _ found | waiting _ _ found =>
    exact standing_found (found_of_candidate b found) (by simp [candidates])
  | granted candidate taken checked _ _ found good =>
    obtain ⟨made, last, result, e, -, -, called, handedOut⟩ := called_of_granted r good
    obtain rfl : (taken.usable b candidate).2 = checked := congrArg Prod.snd good
    -- calls are made on the candidate, and that has left the idle list
    have apart := apart_of_candidate agrees found (List.mem_append_left _ idle)
    have atFind := standing_found (found_of_candidate b found) (m := l.connection)
      (by simpa [candidates] using apart)
    rw [handedOut, Environment.standing_record]
    exact (if_neg apart.symm).trans ((Environment.standing_called_of_ne called apart).trans atFind)

/-- A search does nothing to the connections that it leaves on the idle list. -/
theorem standing_seek (agrees : (p.places []).Agrees) (r : Request) (waited : Bool)
    (spare discarded : Nat) :
    ∀ l ∈ (seek b r waited spare discarded p).2.idle,
      (seek b r waited spare discarded p).2.environment.standing l.connection =
        p.environment.standing l.connection := by
  obtain ⟨n, q, rounds, ending⟩ := rounds_seek b r waited spare discarded p
  have kept := standing_rounds agrees rounds
  intro l idle
  rcases ending with ⟨-, ending⟩ | ⟨-, failed⟩
  · have atLast : l ∈ q.idle := (idle_ending b ending).subset idle
    have same := standing_ending (agrees.moves (moves_rounds rounds)) ending l idle
    exact same.trans (kept l (List.mem_append_left _ atLast))
  · rw [failed] at idle ⊢
    exact kept l (List.mem_append_left _ idle)

/-! ### Handing back at a pool -/

/-- The pool once a valid lease is handed back, before anything is asked of its connection. -/
def handedBack (p : Pool σ) (l : Lease) : Pool σ := (p.dropActive l).noteReturn l

theorem idle_release (b : Backend σ) (valid : p.IsValid l) :
    (p.release b l).idle = ((p.handedBack l).takeBack b l).idle := by
  rw [release_of_valid b valid]
  exact congrArg Custody.idle (custody_notifyOne _)

/-- To hand back a lease does nothing to other connections, and to none if the lease is over. -/
theorem standing_release (b : Backend σ) (p : Pool σ) {n : Nat}
    (other : p.IsValid l → n ≠ l.connection) :
    (p.release b l).environment.standing n = p.environment.standing n := by
  by_cases valid : p.IsValid l
  · obtain ⟨made, called⟩ := called_takeBack b (p.handedBack l) l
    rw [release_of_valid b valid, environment_notifyOne]
    exact (Environment.standing_called_of_ne called (other valid)).trans
      (Event.Parts.returned.note_of_ne _ (other valid))
  · rw [release_of_revoked b valid]
    rfl

/-- The calls with which a connection that comes to lie idle is reset. -/
theorem calls_release_of_takes (valid : p.IsValid l) (takes : (p.handedBack l).Takes b l)
    (stamp : l.fingerprint = p.expected) :
    ∃ made, Restores made (.ok ()) ∧
      (p.release b l).environment.calls l.connection = made ++ p.environment.calls l.connection := by
  have restored := (restore_eq_ok_iff b (p.handedBack l).environment l.connection).mpr
    ⟨takes.notClosed, takes.resets⟩
  obtain ⟨made, restores, called⟩ :=
    (p.handedBack l).environment.called_restore b l.connection
  rw [restored] at restores
  refine ⟨made, restores, ?_⟩
  rw [release_of_valid b valid, environment_notifyOne]
  rw [show ((p.dropActive l).noteReturn l).takeBack b l = _ from takeBack_of_takes takes stamp]
  exact (Environment.calls_called called).trans
    (congrArg (made ++ ·) (Event.Parts.returned.calls_record p.environment l.connection))

end Pool

namespace Site

variable {σ : Type} {b : Backend σ} {allowed : Site σ → Action σ → Prop} {s t : Site σ}
  {a : Action σ} {name : String} {h l : Lease} {made : List Call}

/-! ### Laying down and lying idle -/

/-- The last to whom a connection was handed out hands it back while the lease is valid. The
connection says that it is not closed, and either every statement on it is a transaction of its own
or it is rolled back. Then it lies idle. -/
structure LaysDown (b : Backend σ) (s : Site σ) (name : String) (h l : Lease) (made : List Call) :
    Prop where
  found : s.handle? name = some h
  valid : s.pool.IsValid h
  connection : l.connection = h.connection
  lent : s.pool.lastHandOut h.connection = some ⟨h.lastUsedAt, .handedOut name h.connection⟩
  reset : made = [⟨.pool, .autoCommit, .ok true⟩, ⟨.pool, .isClosed, false⟩] ∨
    made = [⟨.pool, .rollback, .ok ()⟩, ⟨.pool, .autoCommit, .ok false⟩, ⟨.pool, .isClosed, false⟩]
  calls : (s.act b (.release name)).2.calls l.connection = made ++ s.calls l.connection
  idle : l ∈ (s.act b (.release name)).2.pool.idle

/-- From one site to another nothing was asked of a connection, on nobody's behalf, and it was not
handed out. -/
structure Untouched (n : Nat) (s t : Site σ) : Prop where
  calls : t.calls n = s.calls n
  lastHandOut : t.pool.lastHandOut n = s.pool.lastHandOut n

theorem Untouched.trans {n : Nat} {u : Site σ} (first : Untouched n s t)
    (second : Untouched n t u) : Untouched n s u :=
  ⟨second.calls.trans first.calls, second.lastHandOut.trans first.lastHandOut⟩

/-- A connection lies idle as its last holder left it. -/
inductive Rests (b : Backend σ) (allowed : Site σ → Action σ → Prop) (l : Lease) (s : Site σ) : Prop
  | since (t : Site σ) (name : String) (h : Lease) (made : List Call)
      (reach : Reachable b allowed t) (may : allowed t (.release name))
      (laysDown : t.LaysDown b name h l made) (leads : Leads b allowed (t.act b (.release name)).2 s)
      (untouched : Untouched l.connection (t.act b (.release name)).2 s)

theorem pool_act_release (found : s.handle? name = some h) :
    (s.act b (.release name)).2.pool = s.pool.release b h := by
  simp only [act, withHandle, found]

/-- A valid lease that is handed back lays its connection down behind the others, if that is fit for
it. -/
theorem laysDown_of_takes (orderly : s.Orderly) (stamped : s.pool.Stamped)
    (remembers : s.Remembers) (found : s.handle? name = some h) (valid : s.pool.IsValid h)
    (takes : (s.pool.handedBack h).Takes b h) :
    (s.act b (.release name)).2.pool.idle = s.pool.idle ++ [h.renewed s.pool.nextKey] ∧
      ∃ made, s.LaysDown b name h (h.renewed s.pool.nextKey) made := by
  have stamp : h.fingerprint = s.pool.expected :=
    stamped.of_held orderly.pool.sound (mem_leases found) valid
  have released : (s.act b (.release name)).2.pool = s.pool.release b h := pool_act_release found
  have idle : (s.act b (.release name)).2.pool.idle =
      s.pool.idle ++ [h.renewed s.pool.nextKey] := by
    rw [released, Pool.idle_release b valid, Pool.takeBack_of_takes takes stamp]
    rfl
  obtain ⟨made, restores, calls⟩ := Pool.calls_release_of_takes valid takes stamp
  refine ⟨idle, made, found, valid, rfl, ?_, restores_ok_iff.mp restores, ?_, ?_⟩
  · exact remembers.lent name h (mem_handles_of_found found) valid
  · rw [Site.calls, released]
    exact calls
  · rw [idle]
    exact List.mem_append_right _ List.mem_cons_self

/-- A valid lease that is handed back without its connection being fit to lie idle leaves the idle
ones as they were. -/
theorem idle_of_not_takes (found : s.handle? name = some h) (valid : s.pool.IsValid h)
    (isUnfit : ¬ (s.pool.handedBack h).Takes b h) :
    (s.act b (.release name)).2.pool.idle = s.pool.idle := by
  rw [pool_act_release found, Pool.idle_release b valid]
  exact Pool.idle_takeBack_of_not_takes isUnfit

/-- What lies idle when a search ends lay there before it, untouched. -/
theorem untouched_of_search {p : Pool σ} {r : Request} {waited : Bool} {spare discarded : Nat}
    (agrees : s.places.Agrees) (starts : s.pool.Starts p) (orderly' : t.Orderly)
    (after : t.pool = (Pool.seek b r waited spare discarded p).2) :
    ∀ l ∈ t.pool.idle, l ∈ s.pool.idle ∧ Untouched l.connection s t := by
  intro l idle
  have sound := orderly'.pool.sound
  rw [after] at sound idle
  have before := (Pool.idle_seek b r waited spare discarded p).subset idle
  have standing := Pool.standing_seek (agrees.moves starts.moves) r waited spare discarded l idle
  refine ⟨starts.idle ▸ before, ?_, ?_⟩
  · rw [calls, after]
    exact congrArg Standing.calls (standing.trans (starts.standing _))
  · rw [after]
    -- whatever the search hands out is held after it, and so does not lie idle
    refine (Pool.lastHandOut_seek fun l' granted => ?_).trans (starts.lastHandOut _)
    have active := ((Pool.dealt_seek b r waited spare discarded p).granted l' granted).1
    exact (sound.connection_ne_of_idle idle active).symm

/-- What lies idle after an action lay there untouched, or was laid down just now. -/
theorem idle_act (orderly : s.Orderly) (agrees : s.places.Agrees) (stamped : s.pool.Stamped)
    (remembers : s.Remembers) (a : Action σ) :
    ∀ l ∈ (s.act b a).2.pool.idle,
      l ∈ s.pool.idle ∧ Untouched l.connection s (s.act b a).2 ∨
        ∃ name h made, a = .release name ∧ s.LaysDown b name h l made := by
  have orderly' : (s.act b a).2.Orderly := orderly.act a
  have step := step_act b s a
  intro l idle
  generalize acted : s.act b a = result at *
  cases step with
  | rest | lookUp | notifyAll | rouse => exact .inl ⟨idle, rfl, rfl⟩
  | outside _ e used touches =>
    refine .inl ⟨idle, ?_, Pool.lastHandOut_congr (decisions_of_touches used touches) _⟩
    rcases touches with same | ⟨name, h, -, found, rfl | ⟨valid, made, called⟩⟩
    · have none : Environment.Called l.connection [] s.pool.environment e := same
      exact Environment.calls_called none
    · rfl
    · -- only the holder of an active lease can do something with its connection
      have active : h ∈ s.pool.active := orderly.active_of_found found valid
      have other := orderly.pool.sound.connection_ne_of_idle idle active
      exact congrArg Standing.calls (Environment.standing_called_of_ne called other)
  | begin r lookups =>
    exact .inl (untouched_of_search agrees (.begun r.name) orderly' (pool_afterAcquire ..) l idle)
  | resume w =>
    exact .inl (untouched_of_search agrees (.woken w) orderly' (pool_afterAcquire ..) l idle)
  | release name h found =>
    -- whoever lay idle before is not the one that is handed back
    have left (before : l ∈ s.pool.idle) :
        l ∈ s.pool.idle ∧ Untouched l.connection s (s.act b (.release name)).2 := by
      refine ⟨before, ?_, ?_⟩
      · rw [calls, pool_act_release found]
        refine congrArg Standing.calls (Pool.standing_release b s.pool fun valid => ?_)
        have active : h ∈ s.pool.active := orderly.active_of_found found valid
        exact orderly.pool.sound.connection_ne_of_idle before active
      · rw [pool_act_release found]
        exact Pool.lastHandOut_release b s.pool h _
    rw [← acted] at idle ⊢
    by_cases valid : s.pool.IsValid h
    · by_cases takes : (s.pool.handedBack h).Takes b h
      · obtain ⟨laid, made, laysDown⟩ :=
          laysDown_of_takes orderly stamped remembers found valid takes
        rw [laid] at idle
        rcases List.mem_append.mp idle with before | isNew
        · exact .inl (left before)
        · obtain rfl := List.mem_singleton.mp isNew
          exact .inr ⟨name, h, made, rfl, laysDown⟩
      · rw [idle_of_not_takes found valid takes] at idle
        exact .inl (left idle)
    · rw [pool_act_release found, Pool.release_of_revoked b valid] at idle
      exact .inl (left idle)
  | close source settings shutDown =>
    have none : (Pool.closeAll b { s.pool with source, settings, shutDown }).leases = [] :=
      Pool.leases_closeAll b _
    have there : l ∈ (Pool.closeAll b { s.pool with source, settings, shutDown }).leases :=
      List.mem_append_left _ idle
    rw [none] at there
    cases there

/-- A valid lease is handed back: either its connection is fit to lie idle and is laid behind the
others, or it is disposed of and they remain as they were. -/
inductive GivesBack (b : Backend σ) (s : Site σ) (l : Lease) (t : Site σ) : Prop
  | laid (takes : (s.pool.handedBack l).Takes b l)
      (idle : t.pool.idle = s.pool.idle ++ [l.renewed s.pool.nextKey])
      (kept : l.connection ∉ t.disposed)
  | disposed (isUnfit : ¬ (s.pool.handedBack l).Takes b l) (idle : t.pool.idle = s.pool.idle)
      (gone : l.connection ∈ t.disposed)
      (closes : ∃ made earlier, Disposes made ∧ s.calls l.connection <:+ earlier ∧
        t.calls l.connection = made ++ earlier)

theorem givesBack_act (orderly : s.Orderly) (agrees : s.places.Agrees) (stamped : s.pool.Stamped)
    (remembers : s.Remembers) (found : s.handle? name = some l) (valid : s.pool.IsValid l) :
    s.GivesBack b l (s.act b (.release name)).2 := by
  have moves := moves_act (b := b) orderly (.release name)
  have agrees' := agrees.moves moves
  have active : l ∈ s.pool.active := orderly.active_of_found found valid
  by_cases takes : (s.pool.handedBack l).Takes b l
  · obtain ⟨idle, -⟩ := laysDown_of_takes orderly stamped remembers found valid takes
    refine .laid takes idle fun isDisposed => ?_
    have there : l.renewed s.pool.nextKey ∈ (s.act b (.release name)).2.pool.idle :=
      idle ▸ List.mem_append_right _ List.mem_cons_self
    -- nothing that lies idle is disposed of
    refine agrees'.not_isDisposed ?_ (Environment.mem_disposed.mp isDisposed).2
    exact List.mem_append_left _ (List.mem_map.mpr ⟨_, there, rfl⟩)
  · have idle := idle_of_not_takes found valid takes
    have gone : l.connection ∈ (s.act b (.release name)).2.disposed := by
      refine disposed_of_gone agrees agrees' moves (List.mem_append_right _ active) ?_
      intro l' there same
      -- the lease was the only one of its connection
      rw [idle, pool_act_release found, Pool.active_release] at there
      have only := (Pool.perm_dropActive orderly.pool.sound active).map Lease.connection
      have nodup := only.nodup_iff.mp orderly.pool.sound.active_connections
      rcases List.mem_append.mp there with isIdle | isActive
      · exact orderly.pool.sound.connection_ne_of_idle isIdle active same
      · exact (List.nodup_cons.mp nodup).1 (same ▸ List.mem_map_of_mem isActive)
    have still : l.connection ∉ s.disposed := by
      intro isDisposed
      refine agrees.not_isDisposed ?_ (Environment.mem_disposed.mp isDisposed).2
      exact List.mem_append_right _ (List.mem_map_of_mem active)
    exact .disposed takes idle gone (disposes_of_disposed agrees agrees' moves gone still)

/-! ### Along a run -/

/-- What lies idle goes on to lie as its last holder left it, or was just laid down. -/
theorem rests_act (reach : Reachable b allowed s) (may : allowed s a)
    (rests : ∀ l ∈ s.pool.idle, s.Rests b allowed l) :
    ∀ l ∈ (s.act b a).2.pool.idle, (s.act b a).2.Rests b allowed l := by
  intro l idle
  rcases idle_act reach.orderly reach.agrees reach.stamped reach.remembers a l idle with
    ⟨before, untouched⟩ | ⟨name, h, made, rfl, laysDown⟩
  · obtain ⟨t, name, h, made, reach, mayRelease, laysDown, leads, since⟩ := rests l before
    exact ⟨t, name, h, made, reach, mayRelease, laysDown, leads.act a may, since.trans untouched⟩
  · exact ⟨s, name, h, made, reach, may, laysDown, .refl, rfl, rfl⟩

/-- Whatever lies idle lies as its last holder left it: he handed it back while his lease was valid,
it said that it was not closed and was reset, and nobody has touched it since. And every valid lease
that is handed back lays its connection to the idle ones if there is room, the connection is not
closed and it can be reset; else the connection is disposed of. -/
theorem Reachable.reposed (reach : Reachable b allowed s) :
    (∀ l ∈ s.pool.idle, s.Rests b allowed l) ∧
      ∀ name l, s.handle? name = some l → s.pool.IsValid l →
        s.GivesBack b l (s.act b (.release name)).2 := by
  constructor
  · obtain ⟨source, settings, backend, leads⟩ := reach
    have both : Reachable b allowed s ∧ ∀ l ∈ s.pool.idle, s.Rests b allowed l := by
      -- what a step does is known of reachable sites only, so both go along the run
      apply leads.keeps (P := fun t => Reachable b allowed t ∧ ∀ l ∈ t.pool.idle, t.Rests b allowed l)
      · intro t a may ⟨reach, rests⟩
        exact ⟨reach.step a may, rests_act reach may rests⟩
      · exact ⟨⟨source, settings, backend, .refl⟩, fun _ there => absurd there List.not_mem_nil⟩
    exact both.2
  · intro name l found valid
    exact givesBack_act reach.orderly reach.agrees reach.stamped reach.remembers found valid

/-- A connection with a transaction under way is handed back, and lies idle after it is rolled
back. -/
theorem reposed_rolledBack :
    let s := (new ⟨"db", {}⟩ {} {}).run Scripted.backend
      [.get "a", .perform "a" (.execute "BEGIN"), .get "b", .release "a"]
    s.pool.idle.map Lease.connection = [1] ∧ (s.handle? "b").map Lease.connection = some 2 ∧
      (∀ l ∈ s.pool.idle, s.Rests Scripted.backend (fun _ _ => True) l) ∧
      ∀ name l, s.handle? name = some l → s.pool.IsValid l →
        s.GivesBack Scripted.backend l (s.act Scripted.backend (.release name)).2 := by
  intro s
  have reach : Reachable Scripted.backend (fun _ _ => True) s := reachable_run ..
  -- in one piece, so that the site is evaluated once
  obtain ⟨idle, lent⟩ :
      s.pool.idle.map Lease.connection = [1] ∧ (s.handle? "b").map Lease.connection = some 2 := by
    decide +kernel
  exact ⟨idle, lent, reach.reposed⟩

end Site

end LeasePool
