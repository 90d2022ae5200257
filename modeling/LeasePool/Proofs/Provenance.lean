import LeasePool.Proofs.Possession

/-!
# To what a connection was opened

A pool stamps the fingerprint of its data source on every connection that it opens or hands out. The
stamp is true when the connection was opened to that data source with the credentials that belong to
it. An acquire brings its credentials along: it may have looked them up before they were changed, or
wait while they are changed. When it then opens a connection it does so with the old credentials,
and the new fingerprint is stamped on it.

## Main definitions

* `Pool.Opened`: what a search with some credentials adds to the openings that the journal tells of.
* `Pool.Stems`: a lease of a connection that the pool had, or of a new one.
* `Pool.Stamped`: the pool expects the fingerprint of its data source and stamps it on every lease.
* `Pool.Truthful`: every connection was opened to the data source, with its credentials.
* `Pool.Starts`: a pool when a search starts.
* `Site.Origin`: whence a connection stems that the pool has after an action.
* `Site.LeasesStale`: an acquire gets a new connection with credentials that are not current.

## Main results

* `Site.origin_act`: whatever connection the pool has stems from before, or was opened just now.
* `Site.truthful_unless_stale`: as long as no acquire leases a stale connection, all stamps are
  true; when one does, the stamp of that connection is false.
-/

namespace LeasePool

namespace Pool

variable {σ : Type} {b : Backend σ} {p q t : Pool σ} {c : Credentials} {r : Request} {l : Lease}
  {held : List Lease}

/-! ### What a search opens -/

/-- Nothing was opened yet under the numbers of future connections. -/
def Unopened (p : Pool σ) : Prop := ∀ n, p.nextConnection ≤ n → p.environment.openings n = []

/-- From one pool to the other, connections were opened to the data source with some credentials,
each once, and nothing else was opened. -/
structure Opened (c : Credentials) (p q : Pool σ) : Prop where
  next_le : p.nextConnection ≤ q.nextConnection
  before : ∀ n < p.nextConnection, q.environment.openings n = p.environment.openings n
  since : ∀ n, p.nextConnection ≤ n → n < q.nextConnection →
    q.environment.openings n = [⟨p.source.endpoint, c⟩]
  unopened : q.Unopened

theorem Opened.refl (unopened : p.Unopened) : Opened c p p where
  next_le := Nat.le_refl _
  before _ _ := rfl
  since _ later earlier := absurd earlier (Nat.not_lt_of_le later)
  unopened := unopened

/-- Using connections opens none. -/
theorem Opened.used (opened : Opened c p q) (used : q.environment.Used t.environment)
    (next : t.nextConnection = q.nextConnection) : Opened c p t where
  next_le := next ▸ opened.next_le
  before n earlier := (used.openings n).trans (opened.before n earlier)
  since n later earlier := (used.openings n).trans (opened.since n later (next ▸ earlier))
  unopened n later := (used.openings n).trans (opened.unopened n (next ▸ later))

theorem Opened.found {out : Except BackendError (Option Lease) × Pool σ} (opened : Opened c p q)
    (source : q.source = p.source) (found : Found b c q out) : Opened c p out.2 := by
  cases found with
  | idle => exact opened.used (.refl _) rfl
  | overdue => exact opened.used (q.used_seize b _ _) rfl
  | nothing => exact opened
  | unopened _ _ refused =>
    have same := Environment.openings_refused b refused
    exact ⟨opened.next_le, fun n earlier => (same n).trans (opened.before n earlier),
      fun n later earlier => (same n).trans (opened.since n later earlier),
      fun n later => (same n).trans (opened.unopened n later)⟩
  | opened _ _ connected =>
    have openings := Environment.openings_connect b connected
    -- the connection has the next number, under which nothing was opened before
    refine ⟨Nat.le_succ_of_le opened.next_le, fun n earlier => ?_, fun n later earlier => ?_,
      fun n later => ?_⟩
    · have other : q.nextConnection ≠ n :=
        Nat.ne_of_gt (Nat.lt_of_lt_of_le earlier opened.next_le)
      rw [openings, if_neg other]
      exact opened.before n earlier
    · by_cases same : q.nextConnection = n
      · rw [openings, if_pos same, opened.unopened n (Nat.le_of_eq same), source]
      · rw [openings, if_neg same]
        exact opened.since n later (by simp only at earlier; omega)
    · have other : q.nextConnection ≠ n := Nat.ne_of_lt later
      rw [openings, if_neg other]
      exact opened.unopened n (Nat.le_of_lt later)

theorem Opened.candidate {out : Except BackendError (Option Lease)} (opened : Opened c p q)
    (source : q.source = p.source) (found : q.candidate b c = (out, t)) : Opened c p t :=
  opened.found source (found_of_candidate b found)

theorem Opened.checked {good : Bool} (opened : Opened c p q)
    (checked : q.usable b l = (good, t)) : Opened c p t := by
  obtain rfl : (q.usable b l).2 = t := congrArg Prod.snd checked
  exact opened.used (q.used_usable b l) rfl

theorem Opened.round (opened : Opened r.credentials p q) (source : q.source = p.source)
    (round : Round b r q t) : Opened r.credentials p t := by
  obtain ⟨l, taken, checked, -, -, found, bad⟩ := round
  exact ((opened.candidate source found).checked bad).used (checked.used_discard b l) rfl

theorem opened_seek (b : Backend σ) (unopened : p.Unopened) (r : Request) (waited : Bool)
    (spare discarded : Nat) : Opened r.credentials p (seek b r waited spare discarded p).2 := by
  obtain ⟨n, q, rounds, ending⟩ := rounds_seek b r waited spare discarded p
  have source := source_of_terms (terms_rounds b rounds)
  have atLast : q.source = p.source ∧ Opened r.credentials p q := by
    apply rounds.keeps b (P := fun t => t.source = p.source ∧ Opened r.credentials p t)
    · intro t t' round ⟨same, opened⟩
      exact ⟨(source_of_terms (terms_round b round)).trans same, opened.round same round⟩
    · exact ⟨rfl, .refl unopened⟩
  obtain ⟨-, opened⟩ := atLast
  -- however the search ends, the last that is told of it is no opening
  have noted {t : Pool σ} (opened : Opened r.credentials p t) (event : Event)
      (other : ∀ n, event.opening? n = none) : Opened r.credentials p (t.record event) :=
    opened.used (t.used_note other) rfl
  generalize seek b r waited spare discarded p = ended at ending
  rcases ending with ⟨-, ending⟩ | ⟨-, rfl⟩
  · cases ending with
    | closed => exact noted opened _ fun _ => rfl
    | interrupted => exact noted opened _ fun _ => rfl
    | refused _ _ found => exact noted (opened.candidate source found) _ fun _ => rfl
    | waiting _ _ found =>
      have parked := noted (opened.candidate source found) (.parked r.name) fun _ => rfl
      exact ⟨parked.next_le, parked.before, parked.since, parked.unopened⟩
    | granted l taken checked _ _ found good =>
      exact ((opened.candidate source found).checked good).used (checked.used_handOut b r l) rfl
  · exact noted opened _ fun _ => rfl

/-! ### Whose connection a lease is -/

/-- The leases of a pool. -/
def leases (p : Pool σ) : List Lease := p.idle ++ p.active

/-- A lease of a connection that the pool had, or of a new one. -/
def Stems (p : Pool σ) (l : Lease) : Prop :=
  p.nextConnection ≤ l.connection ∨ ∃ l' ∈ p.leases, l'.connection = l.connection

/-- A pool with no other leases than another, and no fewer connections opened. -/
structure Fewer (p q : Pool σ) : Prop where
  leases : q.leases ⊆ p.leases
  next_le : p.nextConnection ≤ q.nextConnection

theorem Fewer.trans (first : Fewer p q) (second : Fewer q t) : Fewer p t :=
  ⟨List.Subset.trans second.leases first.leases, Nat.le_trans first.next_le second.next_le⟩

theorem Fewer.stems (fewer : Fewer p q) (stems : q.Stems l) : p.Stems l := by
  rcases stems with new | ⟨l', there, same⟩
  · exact .inl (Nat.le_trans fewer.next_le new)
  · exact .inr ⟨l', fewer.leases there, same⟩

/-- A candidate comes from the leases of the pool, or its connection is new. -/
theorem fewer_of_found {out : Except BackendError (Option Lease) × Pool σ}
    (found : Found b c p out) : Fewer p out.2 ∧ ∀ l ∈ candidates out.1, p.Stems l := by
  cases found with
  | idle first =>
    refine ⟨⟨fun l there => ?_, Nat.le_refl _⟩, fun l there => ?_⟩
    · simp only [leases, first, List.cons_append] at there ⊢
      exact List.mem_cons_of_mem _ there
    · obtain rfl := List.mem_singleton.mp there
      exact .inr ⟨l, by simp [leases, first], rfl⟩
  | opened =>
    refine ⟨⟨List.Subset.refl _, Nat.le_succ _⟩, fun l there => ?_⟩
    obtain rfl := List.mem_singleton.mp there
    exact .inl (Nat.le_refl _)
  | @overdue oldest _ _ _ isHeld =>
    refine ⟨⟨fun l there => ?_, Nat.le_refl _⟩, fun l there => ?_⟩
    · simp only [leases, isHeld, seize, renew, revoke, List.mem_append] at there ⊢
      exact there.imp_right (List.mem_cons_of_mem _)
    · obtain rfl := List.mem_singleton.mp there
      exact .inr ⟨oldest, by simp [leases, isHeld], rfl⟩
  | unopened | nothing => exact ⟨⟨List.Subset.refl _, Nat.le_refl _⟩, by simp [candidates]⟩

theorem fewer_candidate {out : Except BackendError (Option Lease)}
    (found : p.candidate b c = (out, q)) : Fewer p q ∧ ∀ l ∈ candidates out, p.Stems l :=
  fewer_of_found (found_of_candidate b found)

theorem fewer_of_checked {good : Bool} (checked : p.usable b l = (good, q)) : Fewer p q := by
  obtain rfl : (p.usable b l).2 = q := congrArg Prod.snd checked
  exact ⟨List.Subset.refl _, Nat.le_refl _⟩

theorem fewer_discard (b : Backend σ) (p : Pool σ) (l : Lease) : Fewer p (p.discard b l) :=
  ⟨List.Subset.refl _, Nat.le_refl _⟩

theorem fewer_round (round : Round b r p q) : Fewer p q := by
  obtain ⟨l, taken, checked, -, -, found, bad⟩ := round
  have inHand := (fewer_candidate found).1.trans (fewer_of_checked bad)
  exact inHand.trans (fewer_discard b checked l)

theorem fewer_rounds {n : Nat} (rounds : Rounds b r n p q) : Fewer p q :=
  rounds.keeps b (P := fun t => Fewer p t)
    (fun _ _ round before => before.trans (fewer_round round)) ⟨List.Subset.refl _, Nat.le_refl _⟩

/-- What becomes of the leases in a search: it may close some, and the one that it grants stems from
the pool and has the expected stamp. -/
structure Dealt (p : Pool σ) (out : Acquired × Pool σ) : Prop where
  others : ∀ l ∈ out.2.leases, l ∈ p.leases ∨ out.1 = .granted l
  granted : ∀ l, out.1 = .granted l →
    l ∈ out.2.active ∧ l.fingerprint = p.expected ∧ p.Stems l

theorem dealt_seek (b : Backend σ) (r : Request) (waited : Bool) (spare discarded : Nat)
    (p : Pool σ) : Dealt p (seek b r waited spare discarded p) := by
  obtain ⟨n, q, rounds, ending⟩ := rounds_seek b r waited spare discarded p
  have atLast : Fewer p q := fewer_rounds rounds
  have expected : q.expected = p.expected := expected_of_terms (terms_rounds b rounds)
  generalize seek b r waited spare discarded p = ended at ending
  rcases ending with ⟨-, ending⟩ | ⟨-, rfl⟩
  · cases ending with
    | closed => exact ⟨fun l there => .inl (atLast.leases there), by simp [fail]⟩
    | interrupted => exact ⟨fun l there => .inl (atLast.leases there), by simp [fail]⟩
    | refused _ _ found =>
      have fewer := atLast.trans (fewer_candidate found).1
      exact ⟨fun l there => .inl (fewer.leases there), by simp [fail]⟩
    | waiting _ _ found =>
      have fewer := atLast.trans (fewer_candidate found).1
      exact ⟨fun l there => .inl (fewer.leases there), by simp⟩
    | granted candidate taken checked _ _ found good =>
      have fewer := (atLast.trans (fewer_candidate found).1).trans (fewer_of_checked good)
      have stems := atLast.stems ((fewer_candidate found).2 candidate List.mem_cons_self)
      have terms := (terms_of_checked b good).trans (terms_of_found b found)
      have sameExpected : checked.expected = p.expected := (expected_of_terms terms).trans expected
      refine ⟨fun l there => ?_, fun l granted => ?_⟩
      · simp only [leases, handOut, List.mem_append, List.mem_singleton] at there
        rcases there with idle | active | rfl
        · exact .inl (fewer.leases (List.mem_append_left _ idle))
        · exact .inl (fewer.leases (List.mem_append_right _ active))
        · exact .inr rfl
      · obtain rfl := Acquired.granted.inj granted
        exact ⟨by simp [handOut], sameExpected, stems⟩
  · exact ⟨fun l there => .inl (atLast.leases there), by simp [fail]⟩

/-- Handing back a lease gives its connection another, or closes it. -/
theorem leases_release (b : Backend σ) (orderly : p.Orderly [] held)
    (isHeld : l ∈ held) : ∀ l' ∈ (p.release b l).leases, ∃ l'' ∈ p.leases,
      l''.connection = l'.connection ∧ l''.fingerprint = l'.fingerprint := by
  -- a lease that is still there is the same as before
  have kept : ∀ l' ∈ (p.dropActive l).leases, l' ∈ p.leases := by
    intro l' there
    rcases List.mem_append.mp there with idle | active
    · exact List.mem_append_left _ idle
    · exact List.mem_append_right _ (List.mem_of_mem_eraseP active)
  intro l' there
  by_cases valid : p.IsValid l
  · have active : l ∈ p.leases :=
      List.mem_append_right _ (orderly.sound.active_of_held l isHeld valid)
    -- the only one that is new has the connection and the stamp of the one handed back
    have noted : (((p.dropActive l).noteReturn l).takeBack b l).leases ⊆
        (p.dropActive l).leases ++ [l.renewed p.nextKey] := by
      unfold takeBack
      split
      · split
        · intro other there
          simpa [leases, shelve, renew, revoke, noteReturn, record, dropActive, or_assoc,
            or_comm, or_left_comm] using there
        · exact List.subset_append_left _ _
      · exact List.subset_append_left _ _
    have same : (p.release b l).leases = (((p.dropActive l).noteReturn l).takeBack b l).leases := by
      rw [release_of_valid b valid]
      unfold notifyOne
      split <;> rfl
    rw [same] at there
    rcases List.mem_append.mp (noted there) with other | renewed
    · exact ⟨l', kept l' other, rfl, rfl⟩
    · obtain rfl := List.mem_singleton.mp renewed
      exact ⟨l, active, rfl, rfl⟩
  · rw [release_of_revoked b valid] at there
    exact ⟨l', kept l' there, rfl, rfl⟩

/-! ### Stamps -/

/-- The pool expects the fingerprint of its data source, every lease has it, and nothing was opened
under the numbers of future connections. -/
structure Stamped (p : Pool σ) : Prop where
  expected : p.expected = p.source.fingerprint
  stamped : ∀ l ∈ p.leases, l.fingerprint = p.expected
  unopened : p.Unopened

/-- Every connection was opened to the data source with its credentials, and once only. -/
def Truthful (p : Pool σ) : Prop :=
  ∀ l ∈ p.leases, p.environment.openings l.connection = [p.source]

theorem Unopened.used (unopened : p.Unopened) (used : p.environment.Used q.environment)
    (next : q.nextConnection = p.nextConnection) : q.Unopened :=
  fun n later => (used.openings n).trans (unopened n (next ▸ later))

theorem Stamped.used (stamped : p.Stamped) (used : p.environment.Used q.environment)
    (terms : q.terms = p.terms) (leases : q.leases = p.leases)
    (next : q.nextConnection = p.nextConnection) : q.Stamped where
  expected := by
    rw [expected_of_terms terms, source_of_terms terms]
    exact stamped.expected
  stamped := by
    rw [leases, expected_of_terms terms]
    exact stamped.stamped
  unopened := stamped.unopened.used used next

/-- A lease that a caller holds has the expected fingerprint until it is revoked. -/
theorem Stamped.of_held {hand leases : List Lease} (stamped : p.Stamped)
    (sound : p.custody.Sound hand leases) (isHeld : l ∈ leases) (valid : p.IsValid l) :
    l.fingerprint = p.expected := by
  have active : l ∈ p.active := sound.active_of_held l isHeld valid
  exact stamped.stamped l (List.mem_append_right _ active)

theorem Stamped.seek (stamped : p.Stamped) (r : Request) (waited : Bool) (spare discarded : Nat) :
    (Pool.seek b r waited spare discarded p).2.Stamped := by
  have terms := terms_seek b r waited spare discarded p
  have dealt := dealt_seek b r waited spare discarded p
  have opened := opened_seek b stamped.unopened r waited spare discarded
  generalize Pool.seek b r waited spare discarded p = out at *
  have expected : out.2.expected = p.expected := expected_of_terms terms
  refine ⟨?_, fun l there => ?_, opened.unopened⟩
  · rw [expected, source_of_terms terms]
    exact stamped.expected
  · rw [expected]
    rcases dealt.others l there with before | granted
    · exact stamped.stamped l before
    · exact (dealt.granted l granted).2.1

/-- After a search the pool has connections that it had before, and perhaps a new one, opened with
the credentials of the search that gets it. -/
theorem openings_seek (b : Backend σ) (unopened : p.Unopened) (orderly : p.Orderly [] held)
    (r : Request) (waited : Bool) (spare discarded : Nat) :
    let out := Pool.seek b r waited spare discarded p
    ∀ l ∈ out.2.leases,
      (∃ l' ∈ p.leases, l'.connection = l.connection ∧
          out.2.environment.openings l.connection = p.environment.openings l.connection) ∨
        out.1 = .granted l ∧ p.nextConnection ≤ l.connection ∧
          out.2.environment.openings l.connection = [⟨p.source.endpoint, r.credentials⟩] := by
  intro out l there
  have dealt := dealt_seek b r waited spare discarded p
  have opened := opened_seek b unopened r waited spare discarded
  have after := orderly.seek b r waited spare discarded
  have known : l.connection < out.2.nextConnection := after.sound.distinct.connection_lt l there
  -- what was opened before the search had its number before it
  by_cases new : p.nextConnection ≤ l.connection
  · rcases dealt.others l there with before | granted
    · have old : l.connection < p.nextConnection :=
        orderly.sound.distinct.connection_lt l before
      exact absurd new (Nat.not_le_of_lt old)
    · exact .inr ⟨granted, new, opened.since _ new known⟩
  · have same := opened.before _ (Nat.lt_of_not_le new)
    rcases dealt.others l there with before | granted
    · exact .inl ⟨l, before, rfl, same⟩
    · -- the connection was there before, under another lease
      obtain ⟨l', before, connection⟩ := (dealt.granted l granted).2.2.resolve_left new
      exact .inl ⟨l', before, connection, same⟩

/-- A pool when a search starts: an acquire has begun, or has stopped waiting. -/
inductive Starts (p : Pool σ) : Pool σ → Prop
  | begun (name : String) : Starts p (p.record (.begun name))
  | woken (w : Waiter) : Starts p (p.wake w)

namespace Starts

theorem used (starts : p.Starts q) : p.environment.Used q.environment := by
  cases starts with
  | begun => exact p.used_note fun _ => rfl
  | woken w => exact p.used_wake w

theorem leases (starts : p.Starts q) : q.leases = p.leases := by
  cases starts <;> rfl

theorem terms (starts : p.Starts q) : q.terms = p.terms := by
  cases starts <;> rfl

theorem source (starts : p.Starts q) : q.source = p.source := by
  cases starts <;> rfl

theorem nextConnection (starts : p.Starts q) : q.nextConnection = p.nextConnection := by
  cases starts <;> rfl

theorem idle (starts : p.Starts q) : q.idle = p.idle := by
  cases starts <;> rfl

theorem active (starts : p.Starts q) : q.active = p.active := by
  cases starts <;> rfl

theorem suffix (starts : p.Starts q) : p.environment.events <:+ q.environment.events := by
  cases starts <;> exact List.suffix_cons _ _

theorem standing (starts : p.Starts q) (n : Nat) :
    q.environment.standing n = p.environment.standing n := by
  cases starts <;> rfl

theorem orderly (starts : p.Starts q) (orderly : p.Orderly [] held) : q.Orderly [] held := by
  cases starts with
  | begun => exact orderly.record
  | woken => exact orderly.wake

theorem stamped (starts : p.Starts q) (stamped : p.Stamped) : q.Stamped := by
  cases starts with
  | begun name => exact stamped.used (Starts.begun name).used rfl rfl rfl
  | woken w => exact stamped.used (Starts.woken w).used rfl rfl rfl

end Starts

theorem nextConnection_release (b : Backend σ) (p : Pool σ) (l : Lease) :
    (p.release b l).nextConnection = p.nextConnection := by
  by_cases valid : p.IsValid l
  · have taken : (((p.dropActive l).noteReturn l).takeBack b l).nextConnection =
        p.nextConnection := by
      unfold takeBack
      split
      · split <;> rfl
      · rfl
    rw [release_of_valid b valid]
    unfold notifyOne
    split <;> exact taken
  · rw [release_of_revoked b valid]
    rfl

theorem Stamped.release (stamped : p.Stamped) (orderly : p.Orderly [] held) (isHeld : l ∈ held) :
    (p.release b l).Stamped := by
  have terms := terms_release b p l
  have expected : (p.release b l).expected = p.expected := expected_of_terms terms
  refine ⟨?_, fun l' there => ?_, ?_⟩
  · rw [expected, source_of_terms terms]
    exact stamped.expected
  · obtain ⟨l'', before, -, fingerprint⟩ := leases_release b orderly isHeld l' there
    rw [expected, ← fingerprint]
    exact stamped.stamped l'' before
  · exact stamped.unopened.used (used_release b p l) (nextConnection_release b p l)

theorem leases_closeAll (b : Backend σ) (p : Pool σ) : (p.closeAll b).leases = [] := by
  have custody : (p.closeAll b).custody = _ := custody_clear b p
  have idle : (p.closeAll b).idle = [] := congrArg Custody.idle custody
  have active : (p.closeAll b).active = [] := congrArg Custody.active custody
  rw [leases, idle, active]
  rfl

/-- Closing everything leaves no stamp, and brings the expectation up to date. -/
theorem Unopened.closeAll (unopened : p.Unopened) (b : Backend σ) : (p.closeAll b).Stamped := by
  have terms := terms_clear b p
  have custody := custody_clear b p
  refine ⟨?_, ?_, ?_⟩
  · have source : (p.closeAll b).source = p.source := congrArg Terms.source terms
    have expected : (p.closeAll b).expected = p.source.fingerprint := congrArg Terms.expected terms
    rw [expected, source]
  · rw [leases_closeAll]
    exact fun l there => absurd there List.not_mem_nil
  · exact unopened.used (used_clear b p) (congrArg Custody.nextConnection custody)

end Pool

namespace Site

variable {σ : Type} {b : Backend σ} {s : Site σ}

/-- An acquire gets a connection that was not there before, with credentials that are not those of
the data source. -/
def LeasesStale (b : Backend σ) (s : Site σ) (a : Action σ) : Prop :=
  ∃ n ∈ (s.act b a).1.leased?, s.pool.nextConnection ≤ n ∧
    s.credentials? a ≠ some s.pool.source.credentials

theorem leased_afterAcquire {name : String} {acquired : Acquired × Pool σ} {l : Lease}
    (granted : acquired.1 = .granted l) :
    l.connection ∈ (s.afterAcquire name acquired).1.leased? := by
  obtain ⟨_, q⟩ := acquired
  cases granted
  rfl

theorem granted_of_leased {name : String} {acquired : Acquired × Pool σ} {n : Nat}
    (leased : n ∈ (s.afterAcquire name acquired).1.leased?) :
    ∃ l, acquired.1 = .granted l ∧ l.connection = n := by
  obtain ⟨outcome, q⟩ := acquired
  cases outcome with
  | granted l => exact ⟨l, rfl, Option.some.inj leased⟩
  | failed | waiting => cases leased

/-- Whoever gets a connection gets it from a search. -/
theorem search_of_leased {a : Action σ} {n : Nat} (leased : n ∈ (s.act b a).1.leased?) :
    ∃ p r waited spare discarded l, s.pool.Starts p ∧
      (Pool.seek b r waited spare discarded p).1 = .granted l ∧ l.connection = n ∧
      (s.act b a).2.pool = (Pool.seek b r waited spare discarded p).2 := by
  have step := step_act b s a
  generalize s.act b a = result at step leased
  cases step with
  | rest leaves | outside leaves => simp [leaves] at leased
  | lookUp | notifyAll | rouse | release | close => cases leased
  | begin r lookups =>
    obtain ⟨l, granted, same⟩ := granted_of_leased leased
    exact ⟨_, _, _, _, _, l, .begun r.name, granted, same, pool_afterAcquire ..⟩
  | resume w =>
    obtain ⟨l, granted, same⟩ := granted_of_leased leased
    exact ⟨_, _, _, _, _, l, .woken w, granted, same, pool_afterAcquire ..⟩

/-- Who gets a connection holds an active lease of it. -/
theorem active_of_leased {a : Action σ} {n : Nat} (leased : n ∈ (s.act b a).1.leased?) :
    ∃ l ∈ (s.act b a).2.pool.active, l.connection = n := by
  obtain ⟨p, r, waited, spare, discarded, l, -, granted, same, after⟩ := search_of_leased leased
  rw [after]
  exact ⟨l, ((Pool.dealt_seek b r waited spare discarded p).granted l granted).1, same⟩

theorem stamped_new (source : DataSource) (settings : Settings) (backend : σ) :
    (new source settings backend).pool.Stamped :=
  ⟨rfl, fun _ there => absurd there List.not_mem_nil, fun _ _ => rfl⟩

theorem stamped_act (orderly : s.Orderly) (stamped : s.pool.Stamped) (a : Action σ) :
    (s.act b a).2.pool.Stamped := by
  have step := step_act b s a
  generalize s.act b a = result at step
  cases step with
  | rest => exact stamped
  | outside _ e used => exact stamped.used used rfl rfl rfl
  | lookUp => exact stamped
  | notifyAll => exact ⟨stamped.expected, stamped.stamped, stamped.unopened⟩
  | rouse => exact ⟨stamped.expected, stamped.stamped, stamped.unopened⟩
  | begin r lookups =>
    rw [pool_afterAcquire]
    exact ((Pool.Starts.begun r.name).stamped stamped).seek r false _ 0
  | resume w =>
    rw [pool_afterAcquire]
    exact ((Pool.Starts.woken w).stamped stamped).seek w.request true _ w.discarded
  | release name l found => exact stamped.release orderly.pool (mem_leases found)
  | close source settings shutDown =>
    have unopened : Pool.Unopened { s.pool with source, settings, shutDown } := stamped.unopened
    exact unopened.closeAll b

theorem Reachable.stamped {allowed : Site σ → Action σ → Prop} (reach : Reachable b allowed s) :
    s.pool.Stamped :=
  reach.keepsOrderly stamped_new fun _ a _ orderly stamped => stamped_act orderly stamped a

/-- Whence a connection stems that the pool has after an action: it had the connection before, under
the same lease or another, or an acquire got it, newly opened to the data source. -/
inductive Origin (s : Site σ) (a : Action σ) (out : Outcome × Site σ) (n : Nat) : Prop
  | kept (l : Lease) (before : l ∈ s.pool.leases) (same : l.connection = n)
      (openings : out.2.pool.environment.openings n = s.pool.environment.openings n)
  | fresh (c : Credentials) (leased : n ∈ out.1.leased?) (new : s.pool.nextConnection ≤ n)
      (asked : s.credentials? a = some c)
      (openings : out.2.pool.environment.openings n = [⟨s.pool.source.endpoint, c⟩])

/-- Where a search ends, the connections stem from before or from the search. -/
theorem origin_of_search {a : Action σ} {p : Pool σ} {r : Request} {waited : Bool}
    {spare discarded : Nat} {out : Outcome × Site σ} (orderly : s.Orderly)
    (stamped : s.pool.Stamped) (starts : s.pool.Starts p)
    (after : out.2.pool = (Pool.seek b r waited spare discarded p).2)
    (leased : ∀ l, (Pool.seek b r waited spare discarded p).1 = .granted l →
      l.connection ∈ out.1.leased?)
    (asked : s.credentials? a = some r.credentials) :
    ∀ l ∈ out.2.pool.leases,
      out.2.pool.source = s.pool.source ∧ Origin s a out l.connection := by
  intro l there
  rw [after] at there ⊢
  refine ⟨(Pool.source_of_terms (Pool.terms_seek b r waited spare discarded p)).trans
    starts.source, ?_⟩
  rcases Pool.openings_seek b (starts.stamped stamped).unopened (starts.orderly orderly.pool) r
    waited spare discarded l there with ⟨l', before, same, openings⟩ | ⟨granted, new, openings⟩
  · refine .kept l' (starts.leases ▸ before) same ?_
    rw [after]
    exact openings.trans (starts.used.openings _)
  · refine .fresh r.credentials (leased l granted) (starts.nextConnection ▸ new) asked ?_
    rw [after, openings, starts.source]

/-- As long as the pool has any connection its data source does not change, and whatever connection
it has stems from before or was opened to that. -/
theorem origin_act (orderly : s.Orderly) (stamped : s.pool.Stamped) (a : Action σ) :
    ∀ l ∈ (s.act b a).2.pool.leases,
      (s.act b a).2.pool.source = s.pool.source ∧ Origin s a (s.act b a) l.connection := by
  have step := step_act b s a
  generalize s.act b a = result at step
  cases step with
  | rest | lookUp | notifyAll | rouse => exact fun l there => ⟨rfl, .kept l there rfl rfl⟩
  | outside _ e used => exact fun l there => ⟨rfl, .kept l there rfl (used.openings _)⟩
  | begin r lookups _ _ _ wanted =>
    exact origin_of_search orderly stamped (.begun r.name) (pool_afterAcquire ..)
      (fun _ granted => leased_afterAcquire granted) wanted
  | resume w =>
    exact origin_of_search orderly stamped (.woken w) (pool_afterAcquire ..)
      (fun _ granted => leased_afterAcquire granted) rfl
  | release name l' found =>
    intro l there
    obtain ⟨l'', before, same, -⟩ := Pool.leases_release b orderly.pool (mem_leases found) l there
    exact ⟨Pool.source_of_terms (Pool.terms_release b s.pool l'),
      .kept l'' before same ((Pool.used_release b s.pool l').openings _)⟩
  | close =>
    intro l there
    rw [Pool.leases_closeAll] at there
    exact absurd there List.not_mem_nil

/-- Every action leaves the stamps true, unless an acquire leases a stale connection. -/
theorem truthful_act (orderly : s.Orderly) (stamped : s.pool.Stamped)
    (truthful : s.pool.Truthful) (a : Action σ) (current : ¬ s.LeasesStale b a) :
    (s.act b a).2.pool.Truthful := by
  intro l there
  obtain ⟨source, origin⟩ := origin_act orderly stamped a l there
  rw [source]
  cases origin with
  | kept l' before same openings =>
    rw [openings, ← same]
    exact truthful l' before
  | fresh c leased new asked openings =>
    have own : s.credentials? a = some s.pool.source.credentials := by
      by_contra other
      exact current ⟨_, leased, new, other⟩
    obtain rfl := Option.some.inj (asked.symm.trans own)
    exact openings

/-- An acquire that leases a stale connection gets one that was opened with its own credentials,
under the stamp of the data source. -/
theorem stale_act (orderly : s.Orderly) (stamped : s.pool.Stamped) (a : Action σ)
    (stale : s.LeasesStale b a) :
    (s.act b a).2.pool.source = s.pool.source ∧
      ∃ l ∈ (s.act b a).2.pool.active, ∃ c, s.credentials? a = some c ∧
        c ≠ s.pool.source.credentials ∧
        (s.act b a).2.pool.environment.openings l.connection = [⟨s.pool.source.endpoint, c⟩] ∧
        l.fingerprint = s.pool.source.fingerprint := by
  obtain ⟨n, leased, new, other⟩ := stale
  obtain ⟨l, active, rfl⟩ := active_of_leased leased
  have there : l ∈ (s.act b a).2.pool.leases := List.mem_append_right _ active
  have stampedAfter : (s.act b a).2.pool.Stamped := stamped_act orderly stamped a
  obtain ⟨source, origin⟩ := origin_act orderly stamped a l there
  have fingerprint : l.fingerprint = s.pool.source.fingerprint := by
    rw [stampedAfter.stamped l there, stampedAfter.expected, source]
  refine ⟨source, l, active, ?_⟩
  cases origin with
  | kept l' before same =>
    have old : l'.connection < s.pool.nextConnection :=
      orderly.pool.sound.distinct.connection_lt l' before
    exact absurd (same ▸ new) (Nat.not_le_of_lt old)
  | fresh c _ _ asked openings =>
    exact ⟨c, asked, fun same => other (asked.trans (congrArg some same)), openings, fingerprint⟩

theorem Reachable.truthful (reach : Reachable b (fun t a => ¬ t.LeasesStale b a) s) :
    s.pool.Truthful := by
  have both : s.pool.Stamped ∧ s.pool.Truthful := by
    apply reach.keepsOrderly (P := fun t => t.pool.Stamped ∧ t.pool.Truthful)
    · intro source settings backend
      exact ⟨stamped_new source settings backend, fun _ there => absurd there List.not_mem_nil⟩
    · intro t a current orderly ⟨stamped, truthful⟩
      exact ⟨stamped_act orderly stamped a, truthful_act orderly stamped truthful a current⟩
  exact both.2

/-! ### How credentials go stale -/

/-- Whoever asks for a connection does so with the credentials of the data source. -/
structure Current (s : Site σ) : Prop where
  waiters : ∀ w ∈ s.waiters, w.request.credentials = s.pool.source.credentials
  lookups : ∀ entry ∈ s.lookups, entry.2 = s.pool.source.credentials

/-- Callers bring no credentials of their own, and the credentials of the data source are changed
only while nobody asks for a connection. -/
def Considerate (s : Site σ) : Action σ → Prop
  | .acquire _ credentials _ => credentials = s.pool.source.credentials
  | .change c =>
    (c.source s.pool.source).credentials = s.pool.source.credentials ∨
      s.waiters = [] ∧ s.lookups = []
  | _ => True

variable {a : Action σ}

theorem Current.asked (current : s.Current) (considerate : s.Considerate a) {c : Credentials}
    (begins : ∀ w, a ≠ .resume w) (wanted : s.credentials? a = some c) :
    c = s.pool.source.credentials := by
  cases a with
  | get => exact (Option.some.inj wanted).symm
  | acquire => exact (Option.some.inj wanted).symm.trans considerate
  | proceed name =>
    obtain ⟨before, after, split, -⟩ := List.lookup_eq_some_iff.mp wanted
    exact current.lookups (name, c) (by simp [split])
  | resume w => exact absurd rfl (begins w)
  | _ => cases wanted

theorem Current.not_stale (current : s.Current) (considerate : s.Considerate a) :
    ¬ s.LeasesStale b a := by
  rintro ⟨n, leased, -, other⟩
  have step := step_act b s a
  generalize s.act b a = result at step leased
  cases step with
  | rest leaves | outside leaves => simp [leaves] at leased
  | lookUp | notifyAll | rouse | release | close => cases leased
  | begin r _ _ _ begins wanted =>
    exact other (wanted.trans (congrArg some (current.asked considerate begins wanted)))
  | resume w waits => exact other (congrArg some (current.waiters w waits))

/-- Where an acquire with the credentials of the data source gets as far as it gets, whoever asks
for a connection still does so with them. -/
theorem Current.afterAcquire {r : Request} {acquired : Acquired × Pool σ} (current : s.Current)
    (own : r.credentials = s.pool.source.credentials)
    (source : acquired.2.source = s.pool.source)
    (requests : acquired.2.waiters.map Waiter.request =
      s.waiters.map Waiter.request ++ if acquired.1 = .waiting then [r] else []) :
    (s.afterAcquire r.name acquired).2.Current := by
  have lookups : (s.afterAcquire r.name acquired).2.lookups = s.lookups := by
    unfold Site.afterAcquire
    split <;> rfl
  constructor
  · intro w waits
    rw [Site.waiters, pool_afterAcquire] at waits
    rw [pool_afterAcquire, source]
    -- whoever waits now waited before, or is the one who asked
    have asked : w.request ∈ acquired.2.waiters.map Waiter.request := List.mem_map_of_mem waits
    rw [requests] at asked
    rcases List.mem_append.mp asked with before | new
    · obtain ⟨w', waits', same⟩ := List.mem_map.mp before
      rw [← same]
      exact current.waiters w' waits'
    · split at new
      · obtain same := List.mem_singleton.mp new
        rw [same]
        exact own
      · cases new
  · rw [lookups, pool_afterAcquire, source]
    exact current.lookups

theorem Current.act (current : s.Current) (considerate : s.Considerate a) :
    (s.act b a).2.Current := by
  have step := step_act b s a
  generalize s.act b a = result at step
  cases step with
  | rest | outside => exact ⟨current.waiters, current.lookups⟩
  | lookUp name =>
    refine ⟨current.waiters, fun entry there => ?_⟩
    rcases List.mem_cons.mp there with rfl | before
    · rfl
    · exact current.lookups entry before
  | notifyAll =>
    refine ⟨fun w waits => current.waiters w ?_, current.lookups⟩
    rwa [Site.waiters, Pool.waiters_notifyAll] at waits
  | rouse w roused =>
    refine ⟨fun w' waits => current.waiters w' ?_, current.lookups⟩
    exact (Pool.perm_waiters_rouse roused).mem_iff.mp waits
  | begin r lookups fewer _ begins wanted =>
    have own := current.asked considerate begins wanted
    have fewerAsk : Current { s with lookups } :=
      ⟨current.waiters, fun entry there => current.lookups entry (fewer.subset there)⟩
    exact fewerAsk.afterAcquire own (Pool.source_of_terms (Pool.terms_seek b r false _ 0 _))
      (Pool.waiters_seek b r false _ 0 _)
  | resume w waits =>
    have own := current.waiters w waits
    have fewerAsk : Current { s with pool := s.pool.wake w } := by
      refine ⟨fun w' waits' => current.waiters w' ?_, current.lookups⟩
      simp only [Site.waiters, Pool.waiters, Pool.wake, List.mem_append] at waits' ⊢
      exact waits'.imp List.mem_of_mem_erase (.imp List.mem_of_mem_erase List.mem_of_mem_erase)
    rw [← afterAcquire_pool s (s.pool.wake w)]
    exact fewerAsk.afterAcquire own
      (Pool.source_of_terms (Pool.terms_seek b w.request true _ w.discarded _))
      (Pool.waiters_seek b w.request true _ w.discarded _)
  | release name l =>
    have source := Pool.source_of_terms (Pool.terms_release b s.pool l)
    constructor
    · intro w waits
      rw [Site.waiters, Pool.waiters_release] at waits
      exact (current.waiters w waits).trans (congrArg DataSource.credentials source).symm
    · intro entry there
      exact (current.lookups entry there).trans (congrArg DataSource.credentials source).symm
  | close source settings shutDown whence =>
    have after : (Pool.closeAll b { s.pool with source, settings, shutDown }).source = source :=
      congrArg Pool.Terms.source (Pool.terms_clear b { s.pool with source, settings, shutDown })
    have sameWaiters : (Pool.closeAll b { s.pool with source, settings, shutDown }).waiters =
        s.pool.waiters := Pool.waiters_closeAll b _
    -- nobody is there to hold other credentials than the new ones
    have undisturbed : source.credentials = s.pool.source.credentials ∨
        s.waiters = [] ∧ s.lookups = [] := by
      rcases whence with rfl | ⟨c, rfl, rfl⟩
      · exact .inl rfl
      · exact considerate
    constructor
    · intro w waits
      have waited : w ∈ s.waiters := by rwa [Site.waiters, sameWaiters] at waits
      rw [after]
      rcases undisturbed with same | ⟨nobody, -⟩
      · exact same ▸ current.waiters w waited
      · rw [nobody] at waited
        cases waited
    · intro entry there
      rw [after]
      have thereBefore : entry ∈ s.lookups := there
      rcases undisturbed with same | ⟨-, nobody⟩
      · exact same ▸ current.lookups entry thereBefore
      · rw [nobody] at thereBefore
        cases thereBefore

/-- While callers are considerate no stamp is false. -/
theorem Reachable.truthful_of_considerate (reach : Reachable b Considerate s) :
    s.pool.Truthful := by
  have all : s.pool.Stamped ∧ s.pool.Truthful ∧ s.Current := by
    apply reach.keepsOrderly (P := fun t => t.pool.Stamped ∧ t.pool.Truthful ∧ t.Current)
    · intro source settings backend
      exact ⟨stamped_new source settings backend, fun _ there => absurd there List.not_mem_nil,
        fun _ waits => absurd waits List.not_mem_nil, fun _ there => absurd there List.not_mem_nil⟩
    · intro t a considerate orderly ⟨stamped, truthful, current⟩
      exact ⟨stamped_act orderly stamped a,
        truthful_act orderly stamped truthful a (current.not_stale considerate),
        current.act considerate⟩
  exact all.2.1

/-! ### Where stamps are true -/

/-- As long as no acquire leases a stale connection, every connection was opened to the data source
with its credentials, once, and has the stamp of just that; considerate callers lease none. An
acquire that leases a stale connection leaves one active that was opened with other credentials,
under the same stamp. -/
theorem truthful_unless_stale (b : Backend σ) :
    (∀ s, Reachable b (fun t a => ¬ t.LeasesStale b a) s ∨ Reachable b Considerate s →
      ∀ l ∈ s.pool.idle ++ s.pool.active,
        s.pool.environment.openings l.connection = [s.pool.source] ∧
          l.fingerprint = .of s.pool.source.endpoint s.pool.source.credentials) ∧
    ∀ s a, Reachable b (fun _ _ => True) s → s.LeasesStale b a →
      let t := (s.act b a).2
      ∃ l ∈ t.pool.active, ∃ c ≠ t.pool.source.credentials,
        t.pool.environment.openings l.connection = [⟨t.pool.source.endpoint, c⟩] ∧
          l.fingerprint = .of t.pool.source.endpoint t.pool.source.credentials := by
  constructor
  · intro s reach l there
    have both : s.pool.Stamped ∧ s.pool.Truthful := by
      rcases reach with current | considerate
      · exact ⟨current.stamped, current.truthful⟩
      · exact ⟨considerate.stamped, considerate.truthful_of_considerate⟩
    obtain ⟨stamped, truthful⟩ := both
    exact ⟨truthful l there, (stamped.stamped l there).trans stamped.expected⟩
  · intro s a reach stale t
    obtain ⟨source, l, active, c, -, other, openings, fingerprint⟩ :=
      stale_act reach.orderly reach.stamped a stale
    have same : t.pool.source = s.pool.source := source
    rw [same]
    exact ⟨l, active, c, other, openings, fingerprint⟩

/-- Credentials are changed between two acquires, and then while one waits. -/
theorem truthful_unless_stale_changed :
    let changed : Action Scripted := .change (.credentials ⟨some "new", none⟩)
    let waiter : Waiter := ⟨⟨"b", {}, none, 0⟩, 0, 0, some 20_000_000_000⟩
    let between := (new ⟨"db", {}⟩ { maxActive := 1 } {}).run Scripted.backend
      [.get "a", changed, .get "b"]
    let meanwhile := (new ⟨"db", {}⟩ { maxActive := 1 } {}).run Scripted.backend
      [.get "a", .get "b", changed]
    (∀ l ∈ between.pool.idle ++ between.pool.active,
      between.pool.environment.openings l.connection = [between.pool.source] ∧
        l.fingerprint = .of between.pool.source.endpoint between.pool.source.credentials) ∧
    let t := (meanwhile.act Scripted.backend (.resume waiter)).2
    ∃ l ∈ t.pool.active, ∃ c ≠ t.pool.source.credentials,
      t.pool.environment.openings l.connection = [⟨t.pool.source.endpoint, c⟩] ∧
        l.fingerprint = .of t.pool.source.endpoint t.pool.source.credentials := by
  intro changed waiter between meanwhile
  constructor
  · -- one who looks up the credentials and asks in one piece does so with the current ones
    have current (s : Site Scripted) (name : String) :
        ¬ s.LeasesStale Scripted.backend (.get name) :=
      fun ⟨_, _, _, other⟩ => other rfl
    have noLease (s : Site Scripted) : ¬ s.LeasesStale Scripted.backend changed :=
      fun ⟨_, leased, _⟩ => by cases leased
    have reach : Reachable Scripted.backend (fun t a => ¬ t.LeasesStale Scripted.backend a)
        between := by
      refine ⟨_, _, _, Leads.refl.run _ fun u a there => ?_⟩
      simp only [List.mem_cons, List.not_mem_nil, or_false] at there
      rcases there with rfl | rfl | rfl
      · exact current u "a"
      · exact noLease u
      · exact current u "b"
    exact (truthful_unless_stale Scripted.backend).1 between (.inl reach)
  · have reach : Reachable Scripted.backend (fun _ _ => True) meanwhile :=
      ⟨_, _, _, Leads.refl.run _ fun _ _ _ => trivial⟩
    have stale : 2 ∈ (meanwhile.act Scripted.backend (.resume waiter)).1.leased? ∧
        meanwhile.pool.nextConnection ≤ 2 ∧
        meanwhile.credentials? (.resume waiter) ≠ some meanwhile.pool.source.credentials := by
      decide +kernel
    exact (truthful_unless_stale Scripted.backend).2 meanwhile (.resume waiter) reach ⟨2, stale⟩

/-- Although nobody brings credentials of its own, a connection that was opened with the old
credentials has the stamp of the new ones. -/
theorem stamped_falsely :
    let s := (new ⟨"db", {}⟩ { maxActive := 1 } {}).run Scripted.backend
      [.get "a", .get "b", .change (.credentials ⟨some "new", none⟩),
        .resume ⟨⟨"b", {}, none, 0⟩, 0, 0, some 20_000_000_000⟩]
    Reachable Scripted.backend (fun _ a => ∀ name c token, a ≠ .acquire name c token) s ∧
      s.pool.source = ⟨"db", ⟨some "new", none⟩⟩ ∧
      ∃ l ∈ s.pool.active, s.pool.environment.openings l.connection = [⟨"db", {}⟩] ∧
        l.fingerprint ≠ .of "db" {} := by
  refine ⟨⟨_, _, _, Leads.refl.run _ fun _ a there name c token => ?_⟩, ?_⟩
  · rintro rfl
    simp at there
  · decide +kernel

end Site

end LeasePool
