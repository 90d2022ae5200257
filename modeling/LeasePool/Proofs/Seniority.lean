import LeasePool.Proofs.Bookkeeping
import LeasePool.Proofs.Deeds
import LeasePool.Proofs.Moments

/-!
# The longest-held lease comes first

Leases are handed out one after the other and join the list of those that are held at its end, so
the list is always in the order in which they were handed out. Hence an acquire needs to look at the
first of them only. If that is not overdue then none is, and the acquire waits; if it is, then no
other lease has been held longer.

## Main definitions

* `Pool.InOrder`: the leases that are held are in the order in which they were handed out.
* `Pool.Crowded`: an acquire can only wait.

## Main results

* `Pool.InOrder.heldFor_le`: of leases in order none has been held longer than the first.
* `Site.Reachable.senior_first`: an acquire waits only if it must, and takes from its holder only the
  connection that has been held longest.
-/

namespace LeasePool

open Ledger

namespace Pool

variable {σ : Type} {b : Backend σ} {p q : Pool σ} {r : Request} {l : Lease} {held : List Lease}

/-- The leases that are held are in the order in which they were handed out. -/
structure InOrder (p : Pool σ) : Prop where
  handedOut : ∀ l ∈ p.active, ∃ t ≤ p.now, l.checkedOutAt = some t
  order : p.active.Pairwise fun l l' =>
    ∀ t t', l.checkedOutAt = some t → l'.checkedOutAt = some t' → t ≤ t'

namespace InOrder

/-- Leases may leave the list, and time may pass. -/
theorem of_sublist (inOrder : p.InOrder) (fewer : q.active.Sublist p.active)
    (later : p.now ≤ q.now) : q.InOrder where
  handedOut l active := by
    obtain ⟨t, past, out⟩ := inOrder.handedOut l (fewer.subset active)
    exact ⟨t, Nat.le_trans past later, out⟩
  order := inOrder.order.sublist fewer

/-- A lease that is handed out now comes last. -/
theorem concat {kept : List Lease} (inOrder : p.InOrder) (fewer : kept.Sublist p.active)
    (later : p.now ≤ q.now) (active : q.active = kept ++ [l])
    (out : l.checkedOutAt = some q.now) : q.InOrder where
  handedOut l' there := by
    rw [active, List.mem_append, List.mem_singleton] at there
    rcases there with before | rfl
    · obtain ⟨t, past, out⟩ := inOrder.handedOut l' (fewer.subset before)
      exact ⟨t, Nat.le_trans past later, out⟩
    · exact ⟨q.now, Nat.le_refl _, out⟩
  order := by
    rw [active, List.pairwise_append]
    refine ⟨inOrder.order.sublist fewer, List.pairwise_singleton _ _, ?_⟩
    intro l' before l'' last t t' out' out''
    obtain rfl := List.mem_singleton.mp last
    obtain ⟨t₀, past, same⟩ := inOrder.handedOut l' (fewer.subset before)
    obtain rfl : t₀ = t := Option.some.inj (same.symm.trans out')
    obtain rfl : q.now = t' := Option.some.inj (out.symm.trans out'')
    exact Nat.le_trans past later

/-- Of leases in order none has been held longer than the first. -/
theorem heldFor_le (inOrder : p.InOrder) (oldest : p.active.head? = some l) (now : Nat) :
    ∀ l' ∈ p.active, l'.heldFor now ≤ l.heldFor now := by
  obtain ⟨rest, whole⟩ := List.head?_eq_some_iff.mp oldest
  intro l' active
  obtain ⟨t', -, out'⟩ := inOrder.handedOut l' active
  obtain ⟨t, -, out⟩ := inOrder.handedOut l (whole ▸ List.mem_cons_self)
  have ordered := inOrder.order
  rw [whole] at active ordered
  rcases List.mem_cons.mp active with rfl | later
  · exact Nat.le_refl _
  · have earlier := (List.pairwise_cons.mp ordered).1 l' later t t' out out'
    simp only [Lease.heldFor, out, out']
    omega

end InOrder

/-- A search hands out a lease at the instant at which it ends. -/
theorem checkedOutAt_seek {waited : Bool} {spare discarded : Nat}
    (granted : (seek b r waited spare discarded p).1 = .granted l) :
    l.checkedOutAt = some (seek b r waited spare discarded p).2.now := by
  obtain ⟨n, q, -, ending⟩ := rounds_seek b r waited spare discarded p
  generalize seek b r waited spare discarded p = ended at granted ending
  rcases ending with ⟨-, ending⟩ | ⟨-, rfl⟩
  · cases ending with
    | granted candidate taken checked =>
      obtain rfl := Acquired.granted.inj granted
      rfl
    | closed | interrupted | refused | waiting => cases granted
  · cases granted

/-- A search keeps the leases in order: it takes the first from its holder, if any, and the one that
it hands out comes last. -/
theorem InOrder.seek (inOrder : p.InOrder) (orderly : p.Orderly [] held)
    (agrees : (p.places []).Agrees) (r : Request) (waited : Bool) (spare discarded : Nat) :
    (Pool.seek b r waited spare discarded p).2.InOrder := by
  obtain ⟨kept, active, spares⟩ := spares_seek (b := b) orderly agrees r waited spare discarded
  have later := (later_seek b r waited spare discarded p).clock_le
  have fewer : kept.Sublist p.active := by
    rcases spares.order with rfl | ⟨l, whole, -⟩
    · exact .refl _
    · rw [whole]
      exact List.sublist_cons_self _ _
  cases came : (Pool.seek b r waited spare discarded p).1 with
  | granted l =>
    rw [came] at active
    exact inOrder.concat fewer later active (checkedOutAt_seek came)
  | failed | waiting =>
    rw [came] at active
    have same : (Pool.seek b r waited spare discarded p).2.active = kept :=
      active.trans (List.append_nil _)
    exact inOrder.of_sublist (same ▸ fewer) later

/-- An acquire can only wait: nothing lies idle, there is no room, and no lease is overdue. -/
structure Crowded (p : Pool σ) : Prop where
  noneIdle : p.idle = []
  full : p.settings.maxActive ≤ p.active.length
  inTime : ∀ l ∈ p.active, l.heldFor p.now ≤ p.settings.maxCheckoutTime.nanos

theorem InOrder.crowded_of_nothing (inOrder : p.InOrder) {c : Credentials}
    (found : p.candidate b c = (.ok none, q)) : p.Crowded := by
  cases found_of_candidate b found with
  | nothing noneIdle full inTime =>
    refine ⟨noneIdle, full, fun l active => ?_⟩
    obtain ⟨oldest, rest, whole⟩ := List.exists_cons_of_ne_nil (List.ne_nil_of_mem active)
    have first : p.active.head? = some oldest := by rw [whole]; rfl
    exact Nat.le_trans (inOrder.heldFor_le first p.now l active) (inTime oldest first)

/-- That a lease was taken from its holder is a decision of the pool. -/
theorem reclaims_decisions (p : Pool σ) :
    reclaims p.decisions = reclaims p.environment.journal := by
  unfold decisions Environment.decisions reclaims
  rw [List.filter_filter]
  refine List.filter_congr fun entry _ => ?_
  cases entry.event <;> rfl

theorem reclaims_deeds (p : Pool σ) : reclaims p.deeds = reclaims p.environment.journal := by
  unfold deeds Environment.deeds reclaims
  rw [List.filter_filter]
  refine List.filter_congr fun entry _ => ?_
  cases entry.event <;> rfl

end Pool

namespace Site

variable {σ : Type} {b : Backend σ} {allowed : Site σ → Action σ → Prop} {s t : Site σ}

theorem inOrder_new (source : DataSource) (settings : Settings) (backend : σ) :
    (new source settings backend).pool.InOrder :=
  ⟨fun _ there => absurd there List.not_mem_nil, List.Pairwise.nil⟩

theorem inOrder_act (orderly : s.Orderly) (agrees : s.places.Agrees) (inOrder : s.pool.InOrder)
    (a : Action σ) : (s.act b a).2.pool.InOrder := by
  have later := (later_act (b := b) s a).clock_le
  have step := step_act b s a
  generalize s.act b a = result at step later
  have searched {p : Pool σ} (starts : s.pool.Starts p) (r : Request) (waited : Bool)
      (spare discarded : Nat) : (Pool.seek b r waited spare discarded p).2.InOrder := by
    have there : p.InOrder := inOrder.of_sublist (starts.active ▸ .refl _) starts.now.ge
    exact there.seek (starts.orderly orderly.pool) (agrees.moves starts.moves) r waited spare
      discarded
  cases step with
  | rest | outside | lookUp | notifyAll | rouse => exact inOrder.of_sublist (.refl _) later
  | begin r =>
    rw [pool_afterAcquire]
    exact searched (.begun r.name) r false _ 0
  | resume w =>
    rw [pool_afterAcquire]
    exact searched (.woken w) w.request true _ w.discarded
  | release name l =>
    refine inOrder.of_sublist ?_ later
    change (s.pool.release b l).active.Sublist s.pool.active
    rw [Pool.active_release]
    exact List.eraseP_sublist
  | close source settings shutDown =>
    refine inOrder.of_sublist ?_ later
    have empty := Pool.leases_closeAll b { s.pool with source, settings, shutDown }
    rw [(List.append_eq_nil_iff.mp empty).2]
    exact List.nil_sublist _

theorem Reachable.inOrder (reach : Reachable b allowed s) : s.pool.InOrder := by
  have both : s.places.Agrees ∧ s.pool.InOrder := by
    apply reach.keepsOrderly (P := fun t => t.places.Agrees ∧ t.pool.InOrder)
    · exact fun source settings backend =>
        ⟨agrees_new source settings backend, inOrder_new source settings backend⟩
    · exact fun t a _ orderly ⟨agrees, inOrder⟩ =>
        ⟨agrees.moves (moves_act orderly a), inOrder_act orderly agrees inOrder a⟩
  exact both.2

/-- A lease is taken from its holder: nothing lies idle, there is no room, the lease is overdue, and
none has been held longer. -/
structure TakesSenior (s : Site σ) (a : Action σ) (l : Lease) (t : Site σ) : Prop where
  asks : ∃ credentials, s.credentials? a = some credentials
  overdue : s.pool.Overdue l
  senior : ∀ l' ∈ s.pool.active, l'.heldFor s.pool.now ≤ l.heldFor s.pool.now
  noted : reclaims t.pool.environment.journal =
    ⟨s.pool.now, .reclaimed l.connection⟩ :: reclaims s.pool.environment.journal

/-- A search takes a lease from its holder only if that is overdue and none has been held longer. -/
theorem senior_of_search {a : Action σ} {p : Pool σ} {r : Request} {waited : Bool}
    {spare discarded : Nat} (orderly : s.Orderly) (inOrder : s.pool.InOrder)
    (starts : s.pool.Starts p)
    (after : t.pool = (Pool.seek b r waited spare discarded p).2)
    (asked : s.credentials? a = some r.credentials) :
    reclaims t.pool.environment.journal = reclaims s.pool.environment.journal ∨
      ∃ l, s.TakesSenior a l t := by
  obtain ⟨_, search⟩ :=
    Pool.searched_seek (b := b) (starts.orderly orderly.pool) r waited spare discarded
  obtain ⟨made, searched⟩ := starts.searched search
  have journal := congrArg reclaims searched.deeds
  rw [reclaims_append, Pool.reclaims_deeds, Pool.reclaims_deeds, ← after] at journal
  rcases searched.reclaimed with none | ⟨l, overdue, once⟩
  · rw [none] at journal
    exact .inl journal
  · rw [once] at journal
    exact .inr ⟨l, ⟨_, asked⟩, overdue, inOrder.heldFor_le overdue.oldest _, journal⟩

/-- Where all decisions that are made are of another kind, no lease is taken from its holder. -/
theorem reclaims_of_decisions (since : List Entry)
    (decisions : t.pool.decisions = since ++ s.pool.decisions)
    (other : ∀ entry ∈ since, entry.event.isReclaimed = false) :
    reclaims t.pool.environment.journal = reclaims s.pool.environment.journal := by
  have none : reclaims since = [] :=
    List.filter_eq_nil_iff.mpr fun entry there => ne_true_of_eq_false (other entry there)
  rw [← Pool.reclaims_decisions, decisions, reclaims_append, none, Pool.reclaims_decisions]
  rfl

theorem senior_act (orderly : s.Orderly) (inOrder : s.pool.InOrder) (a : Action σ) :
    reclaims (s.act b a).2.pool.environment.journal = reclaims s.pool.environment.journal ∨
      ∃ l, s.TakesSenior a l (s.act b a).2 := by
  have step := step_act b s a
  generalize s.act b a = result at step
  cases step with
  | rest | lookUp | notifyAll | rouse => exact .inl rfl
  | outside _ e used touches =>
    exact .inl (reclaims_of_decisions [] (decisions_of_touches used touches) nofun)
  | begin r lookups _ _ _ wanted =>
    exact senior_of_search orderly inOrder (.begun r.name) (pool_afterAcquire ..) wanted
  | resume w => exact senior_of_search orderly inOrder (.woken w) (pool_afterAcquire ..) rfl
  | release name l =>
    refine .inl (reclaims_of_decisions [_] (s.pool.decisions_release b l) ?_)
    intro entry there
    obtain rfl := List.mem_singleton.mp there
    split <;> rfl
  | close source settings shutDown =>
    obtain ⟨since, entries, events⟩ :=
      Pool.decisions_closeAll b { s.pool with source, settings, shutDown }
    refine .inl (reclaims_of_decisions since entries fun entry there => ?_)
    have told := List.mem_map_of_mem (f := Entry.event) there
    rw [events] at told
    obtain ⟨l, -, same⟩ := List.mem_map.mp told
    rw [← same]
    rfl

/-- An acquire waits only where it can do nothing else. -/
theorem crowded_of_waiting (orderly : s.Orderly) (inOrder : s.pool.InOrder) {a : Action σ}
    (waits : (s.act b a).1 = .waiting) : (s.act b a).2.pool.Crowded := by
  obtain ⟨x, t, entered⟩ := enters_of_waiting waits
  obtain ⟨starts, -, whole⟩ := act_of_enters (b := b) entered
  rw [whole] at waits
  obtain ⟨nothing, parked⟩ := Pool.seek_of_waiting (starts.orderly orderly.pool)
    (afterAcquire_eq_waiting_iff.mp waits)
  have there : t.pool.InOrder := inOrder.of_sublist (starts.active ▸ .refl _) starts.now.ge
  obtain ⟨noneIdle, full, inTime⟩ := there.crowded_of_nothing nothing
  rw [whole, pool_afterAcquire, parked]
  exact ⟨noneIdle, full, inTime⟩

/-- At every reachable site the leases that are held are in the order in which they were handed out.
An acquire waits only when nothing lies idle, there is no room, and no lease is overdue. And only an
acquire takes a lease from its holder, when nothing lies idle and there is no room; the lease is
overdue, and none has been held longer. -/
theorem Reachable.senior_first (reach : Reachable b allowed s) :
    s.pool.InOrder ∧ ∀ a,
      ((s.act b a).1 = .waiting → (s.act b a).2.pool.Crowded) ∧
      (reclaims (s.act b a).2.pool.environment.journal = reclaims s.pool.environment.journal ∨
        ∃ l, s.TakesSenior a l (s.act b a).2) := by
  have orderly := reach.orderly
  have inOrder := reach.inOrder
  exact ⟨inOrder, fun a => ⟨crowded_of_waiting orderly inOrder, senior_act orderly inOrder a⟩⟩

/-- Of two leases the older one is overdue and is taken from its holder. The next acquire finds none
that is, and waits. -/
theorem senior_first_of_two :
    let s := (new ⟨"db", {}⟩ { maxActive := 2 } {}).run Scripted.backend
      [.get "a", .elapse 5_000_000_000, .get "b", .elapse 16_000_000_000]
    let t := (s.act Scripted.backend (.get "c")).2
    s.pool.InOrder ∧ (∃ l, s.TakesSenior (.get "c") l t) ∧ t.pool.InOrder ∧
      (t.act Scripted.backend (.get "d")).1 = .waiting ∧
      (t.act Scripted.backend (.get "d")).2.pool.Crowded := by
  intro s t
  have reach : Reachable Scripted.backend (fun _ _ => True) s :=
    ⟨_, _, _, Leads.refl.run _ fun _ _ _ => trivial⟩
  let asked := t.launch "d" t.pool.source.credentials none
  -- in one piece, so that the sites are evaluated once
  obtain ⟨after, before, free, parks⟩ :
      (reclaims t.pool.environment.journal).length = 1 ∧
        (reclaims s.pool.environment.journal).length = 0 ∧ ¬ t.IsTaken "d" ∧
        (Pool.seek Scripted.backend asked.1.request asked.1.waited asked.1.spare asked.1.discarded
          asked.2.pool).1 = .waiting := by
    decide +kernel
  have entered : t.enters (.get "d") = some asked := if_neg free
  have waits : (t.act Scripted.backend (.get "d")).1 = .waiting := by
    rw [(act_of_enters entered).2.2]
    exact afterAcquire_eq_waiting_iff.mpr parks
  obtain ⟨inOrder, acts⟩ := reach.senior_first
  obtain ⟨inOrder', acts'⟩ := (reach.step (.get "c") trivial).senior_first
  refine ⟨inOrder, (acts (.get "c")).2.resolve_left fun same => ?_, inOrder', waits,
    (acts' (.get "d")).1 waits⟩
  have lengths := congrArg List.length same
  rw [after, before] at lengths
  cases lengths

end Site

end LeasePool
