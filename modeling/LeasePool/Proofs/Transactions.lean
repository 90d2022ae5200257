import LeasePool.Proofs.Whereabouts

/-!
# What a holder leaves behind

A holder may leave a transaction open on its connection. Before the connection comes to another
holder the pool resets it: when it is handed back or taken away, after a probe, and again when it is
handed out. A connection that cannot be reset does not go on the idle list, and does not pass a
probe. But an acquire that takes an overdue connection from its holder goes on whether or not the
reset succeeds, and hands it out whether or not the next one does. Only there can a transaction pass
from one holder to another.

## Main definitions

* `Environment.HandsOver`: an overdue connection goes from its holder to another, and neither reset
  succeeds.

## Main results

* `Pool.standing_rounds`: a search leaves alone the connections that remain in the pool.
* `Site.Reachable.settled_unless_overdue`: nothing is pending on a connection that is handed out,
  unless it is handed over in that way.
-/

namespace LeasePool

/-- An acquire takes a connection from its holder for being overdue and hands it out, with no probe
in between, although neither the reset when it is taken nor the one when it is handed out
succeeds. -/
inductive Environment.HandsOver {σ : Type} (n : Nat) (e e' : Environment σ) : Prop
  | intro (name : String) (earlier : List Event) {first last : List Call}
      {cause cause' : BackendError} (atReclaim : Resets first (.error cause))
      (atHandOut : Resets last (.error cause')) (suffix : e.events <:+ earlier)
      (events : e'.events = .handedOut name n ::
        ((last ++ ⟨.pool, .isClosed, false⟩ :: first).map (Call.event n) ++
          .reclaimed n :: earlier))
      (calls : e'.calls n = last ++ ⟨.pool, .isClosed, false⟩ :: (first ++ e.calls n))

/-- It does not matter what happened to other connections before. -/
theorem Environment.HandsOver.of_later {σ : Type} {n : Nat} {e e' e'' : Environment σ}
    (later : e.events <:+ e'.events) (same : e'.calls n = e.calls n)
    (handsOver : e'.HandsOver n e'') : e.HandsOver n e'' := by
  obtain ⟨name, earlier, atReclaim, atHandOut, suffix, events, calls⟩ := handsOver
  exact ⟨name, earlier, atReclaim, atHandOut, later.trans suffix, events, same ▸ calls⟩

namespace Pool

variable {σ : Type} {b : Backend σ} {p q taken checked : Pool σ} {r : Request} {l : Lease} {m : Nat}

open Places

/-! ### What a search leaves alone -/

/-- To find a candidate does nothing to any other connection. -/
theorem standing_found {c : Credentials} {out : Except BackendError (Option Lease) × Pool σ}
    (found : Found b c p out) (other : m ∉ (candidates out.1).map Lease.connection) :
    out.2.environment.standing m = p.environment.standing m := by
  cases found with
  | idle | nothing => rfl
  | opened _ _ connected => exact Environment.standing_connect b connected m
  | unopened _ _ refused => exact Environment.standing_connect b refused m
  | @overdue oldest =>
    have apart : m ≠ oldest.connection := by
      simpa [candidates, seize, renew, Lease.renewed] using other
    obtain ⟨made, -, called⟩ :=
      (p.environment.record (.reclaimed oldest.connection)).called_reset b oldest.connection
    exact (Environment.standing_called_of_ne called apart).trans
      (Event.Parts.reclaimed.note_of_ne _ apart)

/-- The connection of a candidate is no longer in the pool. -/
theorem apart_of_candidate {c : Credentials} {l' : Lease} (agrees : (p.places []).Agrees)
    (found : p.candidate b c = (.ok (some l'), q)) (there : l ∈ q.leases) :
    l.connection ≠ l'.connection := by
  intro same
  have inHand : (q.places [l']).Agrees := agrees.moves (moves_candidate found)
  have nodup := inHand.nodup
  rw [Places.all, places, List.map_cons, List.map_nil, List.singleton_append] at nodup
  have remains : l ∈ q.idle ++ q.active := there
  have among := List.mem_map_of_mem (f := Lease.connection) remains
  rw [List.map_append, same] at among
  exact (List.nodup_cons.mp nodup).1 among

/-- A round does nothing to the connections that remain in the pool. -/
theorem standing_round (agrees : (p.places []).Agrees) (round : Round b r p q) :
    ∀ l ∈ q.leases, q.environment.standing l.connection = p.environment.standing l.connection := by
  obtain ⟨bad, taken, checked, -, -, found, isBad⟩ := round
  intro l there
  obtain ⟨made, -, called⟩ :=
    taken.environment.called_usable b bad taken.settings taken.expected taken.revoked
  obtain rfl : (taken.usable b bad).2 = checked := congrArg Prod.snd isBad
  have apart : l.connection ≠ bad.connection := apart_of_candidate agrees found there
  have atFind : taken.environment.standing l.connection = p.environment.standing l.connection := by
    exact standing_found (found_of_candidate b found) (by simpa [candidates] using apart)
  have atCheck : (taken.usable b bad).2.environment.standing l.connection =
      taken.environment.standing l.connection := Environment.standing_called_of_ne called apart
  obtain ⟨made', -, called'⟩ :=
    ((taken.usable b bad).2.environment.record (.discarded bad.connection)).called_dispose b
      bad.connection
  exact ((Environment.standing_called_of_ne called' apart).trans atCheck).trans atFind

theorem standing_rounds {n : Nat} (agrees : (p.places []).Agrees) (rounds : Rounds b r n p q) :
    ∀ l ∈ q.leases, q.environment.standing l.connection = p.environment.standing l.connection := by
  induction rounds with
  | none => exact fun _ _ => rfl
  | more first others ih =>
    intro l there
    exact (ih (agrees.moves (moves_round first)) l there).trans
      (standing_round agrees first l ((fewer_rounds others).leases there))

/-! ### What is pending on a candidate -/

/-- Nothing is pending on a candidate, unless it was taken from its holder and could not be
reset. -/
theorem settled_of_candidate (agrees : (q.places []).Agrees)
    (found : q.candidate b r.credentials = (.ok (some l), taken)) :
    Settled (taken.environment.calls l.connection) ∨
      ∃ oldest ∈ q.active, oldest.connection = l.connection ∧ ∃ first cause,
        Resets first (.error cause) ∧
        Environment.Called l.connection first
          (q.environment.record (.reclaimed l.connection)) taken.environment := by
  cases found_of_candidate b found with
  | idle first =>
    have idle : l.connection ∈ (q.places []).idle := by simp [places, first]
    exact .inl (agrees.idle _ idle).settled
  | opened _ _ connected =>
    -- nothing was done with a new connection
    have isNew : q.nextConnection ∉ q.environment.opened :=
      fun there => Nat.lt_irrefl _ (agrees.mem_opened_iff.mp there).2
    have standing := (Environment.standing_connect b connected q.nextConnection).trans
      (agrees.unknown _ isNew)
    left
    change Settled (Environment.standing _ q.nextConnection).calls
    rw [standing]
    exact trivial
  | @overdue oldest rest _ _ isHeld =>
    obtain ⟨first, resets, called⟩ :=
      (q.environment.record (.reclaimed oldest.connection)).called_reset b oldest.connection
    generalize ((q.environment.record (.reclaimed oldest.connection)).reset b
      oldest.connection).1 = result at resets
    cases result with
    | ok =>
      left
      refine settled_of_head ?_
      change ((Environment.calls _ oldest.connection).head?.any Call.settles) = true
      rw [show (q.seize b oldest rest).2.environment.calls oldest.connection = _ from
        Environment.calls_called called]
      exact resets.settles _
    | error cause => exact .inr ⟨oldest, by simp [isHeld], rfl, first, cause, resets, called⟩

/-- A candidate that passes its check is handed out after one more reset. -/
theorem called_of_granted (r : Request) (good : taken.usable b l = (true, checked)) :
    ∃ made last result e, Checks made true ∧ Resets last result ∧
      Environment.Called l.connection (last ++ made) taken.environment e ∧
      (checked.handOut b r l).2.environment = e.record (.handedOut r.name l.connection) := by
  obtain ⟨made, checks, atCheck⟩ :=
    taken.environment.called_usable b l taken.settings taken.expected taken.revoked
  have isGood : (taken.usable b l).1 = true := congrArg Prod.fst good
  obtain rfl : (taken.usable b l).2 = checked := congrArg Prod.snd good
  rw [show (l.usable b _ _ _ _).1 = true from isGood] at checks
  obtain ⟨last, resets, atHandOut⟩ :=
    (taken.usable b l).2.environment.called_reset b l.connection
  exact ⟨made, last, _, _, checks, resets, atCheck.trans atHandOut, rfl⟩

/-- Nothing is pending on a candidate that is handed out, unless it was taken from its holder, could
not be reset then, was not probed, and could not be reset in the end. -/
theorem settled_of_granted (agrees : (q.places []).Agrees)
    (found : q.candidate b r.credentials = (.ok (some l), taken))
    (good : taken.usable b l = (true, checked)) :
    Settled ((checked.handOut b r l).2.environment.calls l.connection) ∨
      (∃ oldest ∈ q.active, oldest.connection = l.connection) ∧
        q.environment.HandsOver l.connection (checked.handOut b r l).2.environment := by
  obtain ⟨made, last, result, e, checks, resets, called, handedOut⟩ := called_of_granted r good
  have calls : e.calls l.connection = last ++ (made ++ taken.environment.calls l.connection) := by
    rw [Environment.calls_called called, List.append_assoc]
  rw [handedOut, Environment.calls_handedOut, calls]
  rcases checks.settles (taken.environment.calls l.connection) with rfl | probed
  · rcases settled_of_candidate agrees found with settled | ⟨oldest, active, same, first, cause,
      atReclaim, seized⟩
    · exact .inl (resets.settled (.inr ⟨rfl, settled⟩))
    · cases result with
      | ok => exact .inl (settled_of_head (resets.settles _))
      | error cause' =>
        refine .inr ⟨⟨oldest, active, same⟩, r.name, q.environment.events, atReclaim, resets,
          List.suffix_refl _, ?_, ?_⟩
        · have events : e.events =
              (last ++ ⟨.pool, .isClosed, false⟩ :: first).map (Call.event l.connection) ++
                .reclaimed l.connection :: q.environment.events := by
            have whole := seized.trans called
            rwa [List.append_assoc, List.singleton_append] at whole
          exact congrArg (Event.handedOut r.name l.connection :: ·) events
        · rw [Environment.calls_handedOut, calls, Environment.calls_called seized,
            Event.Parts.reclaimed.calls_record]
          rfl
  · exact .inl (resets.settled (settled_of_head probed))

/-- Nothing is pending on a connection that a search hands out, unless it hands over an overdue one
that cannot be reset. -/
theorem settled_seek {waited : Bool} {spare discarded : Nat} (agrees : (p.places []).Agrees)
    (granted : (seek b r waited spare discarded p).1 = .granted l) :
    let e := (seek b r waited spare discarded p).2.environment
    (∃ earlier, e.events = .handedOut r.name l.connection :: earlier) ∧
      (Settled (e.calls l.connection) ∨
        (∃ l' ∈ p.active, l'.connection = l.connection) ∧
          p.environment.HandsOver l.connection e) := by
  obtain ⟨n, q, rounds, ending⟩ := rounds_seek b r waited spare discarded p
  have atLast : (q.places []).Agrees := agrees.moves (moves_rounds rounds)
  have kept := standing_rounds agrees rounds
  generalize seek b r waited spare discarded p = ended at granted ending
  rcases ending with ⟨-, ending⟩ | ⟨-, rfl⟩
  · cases ending with
    | closed | interrupted | refused | waiting => cases granted
    | granted candidate taken checked _ _ found good =>
      obtain rfl := Acquired.granted.inj granted
      refine ⟨⟨_, rfl⟩, (settled_of_granted atLast found good).imp_right ?_⟩
      rintro ⟨⟨oldest, active, same⟩, handsOver⟩
      have standing := same ▸ kept oldest (List.mem_append_right _ active)
      have held : (p.environment.standing candidate.connection).held = true := by
        rw [← standing, ← same]
        exact atLast.active _ (List.mem_map_of_mem active)
      refine ⟨?_, handsOver.of_later ((later_rounds b rounds).journal.map _)
        (congrArg Standing.calls standing)⟩
      -- the holder had the connection all along, so it did not lie idle
      rcases List.mem_append.mp ((fewer_rounds rounds).leases (List.mem_append_right _ active)) with
        idle | activeBefore
      · have unheld := (agrees.idle _ (List.mem_map_of_mem idle)).1
        rw [same] at unheld
        exact absurd (held.symm.trans unheld) nofun
      · exact ⟨oldest, activeBefore, same⟩
  · cases granted

end Pool

namespace Site

variable {σ : Type} {b : Backend σ} {allowed : Site σ → Action σ → Prop} {s : Site σ} {n : Nat}

/-- An acquire that gets a connection hands it out at the very end, with nothing pending on it:
whatever a holder did with it before, and whatever was run to probe it, the pool has since learned
that nothing is. The only exception is an overdue connection that the acquire itself takes from its
holder and hands over although it cannot be reset. -/
theorem Reachable.settled_unless_overdue (reach : Reachable b allowed s) (a : Action σ)
    (leased : n ∈ (s.act b a).1.leased?) :
    let t := (s.act b a).2
    (∃ name earlier, t.pool.environment.events = .handedOut name n :: earlier) ∧
      ((∀ later c earlier, t.calls n = later ++ c :: earlier → c.unsettles = true →
          ∃ c' ∈ later, c'.settles = true) ∨
        (∃ l ∈ s.pool.active, l.connection = n) ∧
          s.pool.environment.HandsOver n t.pool.environment) := by
  obtain ⟨p, r, waited, spare, discarded, l, starts, granted, rfl, after⟩ :=
    search_of_leased leased
  intro t
  obtain ⟨⟨earlier, events⟩, settled⟩ :=
    Pool.settled_seek (reach.agrees.moves starts.moves) granted
  rw [← after] at events settled
  refine ⟨⟨r.name, earlier, events⟩, settled.imp settled_iff.mp ?_⟩
  rintro ⟨holder, handsOver⟩
  exact ⟨starts.active ▸ holder,
    handsOver.of_later starts.suffix (congrArg Standing.calls (starts.standing _))⟩

/-- A statement of one holder is undone before the connection is taken from it for another. -/
theorem settled_unless_overdue_undone :
    let s := (new ⟨"db", {}⟩ { maxActive := 1 } {}).run Scripted.backend
      [.get "a", .perform "a" (.execute "BEGIN"), .elapse 21_000_000_000]
    let t := (s.act Scripted.backend (.get "b")).2
    1 ∈ (s.act Scripted.backend (.get "b")).1.leased? ∧
      (∃ name earlier, t.pool.environment.events = .handedOut name 1 :: earlier) ∧
      ((∀ later c earlier, t.calls 1 = later ++ c :: earlier → c.unsettles = true →
          ∃ c' ∈ later, c'.settles = true) ∨
        (∃ l ∈ s.pool.active, l.connection = 1) ∧
          s.pool.environment.HandsOver 1 t.pool.environment) := by
  intro s t
  have leased : 1 ∈ (s.act Scripted.backend (.get "b")).1.leased? := by decide +kernel
  have reach : Reachable Scripted.backend (fun _ _ => True) s :=
    ⟨_, _, _, Leads.refl.run _ fun _ _ _ => trivial⟩
  exact ⟨leased, reach.settled_unless_overdue (.get "b") leased⟩

/-- A statement of one holder is still pending when its overdue connection comes to another, because
the connection cannot be rolled back. -/
theorem pending_when_handed_over :
    let stuck : Action Scripted :=
      .backend fun state => state.adjust 1 fun c => { c with rollbackError := some .closed }
    let s := (new ⟨"db", {}⟩ { maxActive := 1 } {}).run Scripted.backend
      [.get "a", .perform "a" (.execute "BEGIN"), stuck, .elapse 21_000_000_000]
    let t := (s.act Scripted.backend (.get "b")).2
    Reachable Scripted.backend (fun _ _ => True) s ∧
      1 ∈ (s.act Scripted.backend (.get "b")).1.leased? ∧
      ∃ later c earlier, t.calls 1 = later ++ c :: earlier ∧
        c.party = .holder ∧ c.operation = .execute "BEGIN" ∧ ∀ c' ∈ later, c'.settles = false := by
  intro stuck s t
  -- the latest are the calls of two resets, and the question in between whether it is closed
  have there : 1 ∈ (s.act Scripted.backend (.get "b")).1.leased? ∧
      (∃ c ∈ ((t.calls 1).drop 5).head?, c.party = .holder ∧ c.operation = .execute "BEGIN") ∧
      ∀ c ∈ (t.calls 1).take 5, c.settles = false := by
    decide +kernel
  obtain ⟨leased, ⟨c, first, party, operation⟩, unsettled⟩ := there
  obtain ⟨earlier, split⟩ := List.head?_eq_some_iff.mp first
  refine ⟨⟨_, _, _, Leads.refl.run _ fun _ _ _ => trivial⟩, leased, (t.calls 1).take 5, c, earlier,
    ?_, party, operation, unsettled⟩
  rw [← split, List.take_append_drop]

end Site

end LeasePool
