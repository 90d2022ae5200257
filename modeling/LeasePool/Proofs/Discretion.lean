import LeasePool.Backend.Scripted
import LeasePool.Proofs.Likeness
import LeasePool.Proofs.Provenance
import LeasePool.Scenario

/-!
# Passwords make no difference

Two sites are twins when they differ in passwords and in the fingerprints that are made of them. The
same action comes to the same at twin sites, and leaves them twins: whatever is compared with the
expected fingerprint either has it at both or is over. So two runs of the same actions show the same
at every step, and call on their backends alike. The same holds of scenarios, in which those who
wait run in an order that is not told from outside.

Only what shows a fingerprint, and the data source itself, tells passwords apart.

## Main definitions

* `Action.Alike`, `Move.Alike`: the same action or move, but for a password.
* `Site.Alike`, `Site.Twins`: sites that differ in passwords and fingerprints.
* `Site.Abreast`: two runs of the same actions, side by side.
* `Site.ShowsLike`: what two sites show is the same.
* `Observation.masked`: what can be observed of a move, without fingerprints and passwords.
* `Scenario.Alike`: scenarios at twin sites.

## Main results

* `Site.Twins.act`: the same action comes to the same at twin sites, and leaves them twins.
* `Scenario.Alike.playAll`: the same moves are observed to come to the same.
* `Backend.Alike.same_but_for_passwords`: two runs that differ in passwords differ in nothing else.
-/

namespace LeasePool

variable {σ τ : Type} {R : σ → τ → Prop} {b : Backend σ} {b' : Backend τ}

/-- The same action, but for a password, and for what it does to backends in related states. -/
inductive Action.Alike (R : σ → τ → Prop) : Action σ → Action τ → Prop
  | get (name : String) : Alike R (.get name) (.get name)
  | lookUp (name : String) : Alike R (.lookUp name) (.lookUp name)
  | proceed (name : String) : Alike R (.proceed name) (.proceed name)
  | acquire (name : String) {c c' : Credentials} (token : Option Nat)
      (same : c.masked = c'.masked) : Alike R (.acquire name c token) (.acquire name c' token)
  | release (name : String) : Alike R (.release name) (.release name)
  | validate (name : String) : Alike R (.validate name) (.validate name)
  | perform (name : String) (operation : Operation) :
      Alike R (.perform name operation) (.perform name operation)
  | borrow (name : String) (operations : List Operation) :
      Alike R (.borrow name operations) (.borrow name operations)
  | mark (token : Nat) : Alike R (.mark token) (.mark token)
  | notifyAll : Alike R .notifyAll .notifyAll
  | change {c c' : Change} (same : c.masked = c'.masked) : Alike R (.change c) (.change c')
  | closeAll : Alike R .closeAll .closeAll
  | shutdown : Alike R .shutdown .shutdown
  | elapse (nanos : Nat) : Alike R (.elapse nanos) (.elapse nanos)
  | backend {happen : σ → σ} {happen' : τ → τ}
      (keeps : ∀ {state state'}, R state state' → R (happen state) (happen' state')) :
      Alike R (.backend happen) (.backend happen')

namespace Site

variable {s : Site σ} {s' : Site τ} {l l' : Lease} {w w' : Waiter}

/-- Sites that differ in passwords, and in the fingerprints of handles. -/
structure Alike (R : σ → τ → Prop) (s : Site σ) (s' : Site τ) : Prop where
  pool : s.pool.Alike R s'.pool
  handles : s.handles.map (Prod.map id Lease.unstamped) =
    s'.handles.map (Prod.map id Lease.unstamped)
  lookups : s.lookups.map (Prod.map id Credentials.masked) =
    s'.lookups.map (Prod.map id Credentials.masked)

/-- The same action at two sites. One who waits is the same at both when only a password tells them
apart; that one waits at both or at neither. -/
inductive Likewise (R : σ → τ → Prop) (s : Site σ) (s' : Site τ) : Action σ → Action τ → Prop
  | plain {a : Action σ} {a' : Action τ} (alike : a.Alike R a') : Likewise R s s' a a'
  | rouse {w w' : Waiter} (same : w.masked = w'.masked)
      (among : w ∈ s.pool.parked ↔ w' ∈ s'.pool.parked) : Likewise R s s' (.rouse w) (.rouse w')
  | resume {w w' : Waiter} (same : w.masked = w'.masked)
      (among : w ∈ s.waiters ↔ w' ∈ s'.waiters) : Likewise R s s' (.resume w) (.resume w')

/-- The same outcome, at sites that are alike. -/
inductive Answer (R : σ → τ → Prop) : Outcome × Site σ → Outcome × Site τ → Prop
  | intro (outcome : Outcome) {t : Site σ} {t' : Site τ} (alike : t.Alike R t') :
      Answer R (outcome, t) (outcome, t')

/-- What is looked up in a list of pairs can be changed afterwards. -/
theorem lookup_map {α β : Type} (f : α → β) (entries : List (String × α)) (name : String) :
    (entries.map (Prod.map id f)).lookup name = (entries.lookup name).map f := by
  induction entries with
  | nil => rfl
  | cons entry entries ih =>
    rw [List.map_cons, List.lookup_cons, List.lookup_cons, ih]
    simp only [Prod.map_fst, id_eq, Prod.map_snd]
    split <;> rfl

theorem map_others {α β : Type} (f : α → β) (entries : List (String × α)) (name : String) :
    (entries.filter fun entry => entry.1 ≠ name).map (Prod.map id f) =
      (entries.map (Prod.map id f)).filter fun entry => entry.1 ≠ name := by
  rw [List.filter_map]
  rfl

namespace Alike

theorem outside {q : Pool σ} {q' : Pool τ} (alike : s.Alike R s') (pool : q.Alike R q') :
    { s with pool := q }.Alike R { s' with pool := q' } :=
  { alike with pool := pool }

theorem names (alike : s.Alike R s') : s.names = s'.names := by
  have handles := congrArg (List.map Prod.fst) alike.handles
  have lookups := congrArg (List.map Prod.fst) alike.lookups
  rw [List.map_map, List.map_map] at handles lookups
  unfold Site.names
  exact congrArg₂ _ (congrArg₂ _ handles alike.pool.names) lookups

theorem isTaken (alike : s.Alike R s') (name : String) : s.IsTaken name ↔ s'.IsTaken name := by
  rw [IsTaken, IsTaken, alike.names]

/-- Handles of one name are there at both or at neither. -/
theorem handle? (alike : s.Alike R s') (name : String) :
    (s.handle? name).map Lease.unstamped = (s'.handle? name).map Lease.unstamped := by
  unfold Site.handle?
  rw [← lookup_map, ← lookup_map, alike.handles]

/-- What is done with a handle comes to the same, if it does so with the leases behind it. -/
theorem withHandle (alike : s.Alike R s') (name : String) {use : Lease → Outcome × Site σ}
    {use' : Lease → Outcome × Site τ}
    (used : ∀ l l', s.handle? name = some l → s'.handle? name = some l' →
      l.unstamped = l'.unstamped → Answer R (use l) (use' l')) :
    Answer R (s.withHandle name use) (s'.withHandle name use') := by
  unfold Site.withHandle
  rcases both_of_map_eq (alike.handle? name) with
    ⟨mine, theirs⟩ | ⟨l, l', mine, theirs, same⟩
  · rw [mine, theirs]
    exact .intro .absent alike
  · rw [mine, theirs]
    exact used l l' mine theirs same

/-- An acquire comes to the same when its search comes to the same end. -/
theorem afterAcquire (alike : s.Alike R s') (name : String) {ended : Acquired × Pool σ}
    {ended' : Acquired × Pool τ} (same : Pool.Alike.End R ended ended') :
    Answer R (s.afterAcquire name ended) (s'.afterAcquire name ended') := by
  cases same with
  | granted same pool =>
    unfold Site.afterAcquire
    dsimp only
    rw [Lease.connection_of_unstamped same]
    exact .intro _ { alike.outside pool with
      handles := by simp only [List.map_cons, Prod.map_apply, id_eq, same, alike.handles] }
  | failed cause pool => exact .intro _ (alike.outside pool)
  | waiting pool => exact .intro _ (alike.outside pool)

section

variable (react : Backend.Alike R b b')
include react

theorem start (alike : s.Alike R s') (name : String) {c c' : Credentials} (token : Option Nat)
    (same : c.masked = c'.masked) :
    Answer R (s.start b name c token) (s'.start b' name c' token) := by
  have who : Request.masked ⟨name, c, token, s.pool.now⟩ =
      Request.masked ⟨name, c', token, s'.pool.now⟩ := by
    simp only [Request.masked, same, alike.pool.now]
  exact alike.afterAcquire name (alike.pool.acquire react who)

theorem begin (alike : s.Alike R s') (name : String) {c c' : Credentials} (token : Option Nat)
    (same : c.masked = c'.masked) :
    Answer R (s.begin b name c token) (s'.begin b' name c' token) := by
  unfold Site.begin
  by_cases taken : s.IsTaken name
  · rw [if_pos taken, if_pos ((alike.isTaken name).mp taken)]
    exact .intro .taken alike
  · rw [if_neg taken, if_neg (mt (alike.isTaken name).mpr taken)]
    exact alike.start react name token same

end

end Alike

/-- Sites that are alike, both of them orderly, where every lease of the pools has the fingerprint
that is expected there. -/
structure Twins (R : σ → τ → Prop) (s : Site σ) (s' : Site τ) : Prop extends Alike R s s' where
  orderly : s.Orderly
  orderly' : s'.Orderly
  stamped : s.pool.Stamped
  stamped' : s'.pool.Stamped

namespace Twins

/-- New pools for data sources that differ in their passwords are at twin sites. -/
theorem new {source source' : DataSource} {state : σ} {state' : τ}
    (same : source.masked = source'.masked) (settings : Settings) (related : R state state') :
    Twins R (new source settings state) (new source' settings state') where
  pool := Pool.alike_new same settings related
  handles := rfl
  lookups := rfl
  orderly := orderly_new source settings state
  orderly' := orderly_new source' settings state'
  stamped := stamped_new source settings state
  stamped' := stamped_new source' settings state'

/-- Valid leases behind handles of one name have the expected fingerprints. -/
theorem matching (twins : Twins R s s') {name : String} (found : s.handle? name = some l)
    (found' : s'.handle? name = some l') (same : l.unstamped = l'.unstamped)
    (valid : s.pool.IsValid l) :
    l.fingerprint = s.pool.expected ↔ l'.fingerprint = s'.pool.expected :=
  iff_of_true (twins.stamped.of_held twins.orderly.pool.sound (mem_leases found) valid)
    (twins.stamped'.of_held twins.orderly'.pool.sound (mem_leases found')
      ((twins.pool.isValid same).mp valid))

/-- One who waits here and one who waits there. -/
theorem counterparts (twins : Twins R s s') (there : w ∈ s.waiters) (there' : w' ∈ s'.waiters)
    (same : w.masked = w'.masked) : s.pool.Counterparts s'.pool w w' where
  names := nodup_waiters twins.orderly.names
  names' := nodup_waiters twins.orderly'.names
  there := there
  there' := there'
  same := same

variable (react : Backend.Alike R b b') {a : Action σ} {a' : Action τ}
include react

theorem answer_plain (twins : Twins R s s') (alike : a.Alike R a') :
    Answer R (s.act b a) (s'.act b' a') := by
  cases alike with
  | get name => exact twins.begin react name none twins.pool.credentials
  | lookUp name =>
    simp only [act, twins.isTaken name]
    split
    · exact .intro _ twins.toAlike
    · exact .intro _ { twins.toAlike with
        lookups := by
          simp only [List.map_cons, Prod.map_apply, twins.pool.credentials, twins.lookups] }
  | proceed name =>
    have same : (s.lookups.lookup name).map Credentials.masked =
        (s'.lookups.lookup name).map Credentials.masked := by
      rw [← lookup_map, ← lookup_map, twins.lookups]
    simp only [act]
    rcases both_of_map_eq same with ⟨mine, theirs⟩ | ⟨c, c', mine, theirs, same⟩
    · rw [mine, theirs]
      exact .intro .absent twins.toAlike
    · rw [mine, theirs]
      -- the name goes over to the acquire
      have fewer : Alike R { s with lookups := s.lookups.filter fun entry => entry.1 ≠ name }
          { s' with lookups := s'.lookups.filter fun entry => entry.1 ≠ name } :=
        { twins.toAlike with lookups := by rw [map_others, map_others, twins.lookups] }
      exact fewer.start react name none same
  | acquire name token same => exact twins.begin react name token same
  | release name =>
    refine twins.withHandle name fun l l' found found' same => .intro .done ?_
    exact {
      pool := twins.pool.release react same (twins.matching found found' same)
      handles := by rw [map_others, map_others, twins.handles]
      lookups := twins.lookups }
  | validate name =>
    refine twins.withHandle name fun l l' found found' same => ?_
    have checked := twins.pool.usable react same (twins.matching found found' same)
    dsimp only
    generalize s.pool.usable b l = x at checked
    generalize s'.pool.usable b' l' = y at checked
    obtain ⟨good, pool⟩ := checked
    exact .intro _ (twins.outside pool)
  | perform name operation =>
    refine twins.withHandle name fun l l' found found' same => ?_
    have performed := twins.pool.perform react same operation
    generalize s.pool.perform b l operation = x at performed
    generalize s'.pool.perform b' l' operation = y at performed
    obtain ⟨answer, pool⟩ := performed
    cases answer with
    | error cause => exact .intro _ (twins.outside pool)
    | ok answered => exact .intro _ (twins.outside pool)
  | borrow name operations =>
    refine twins.withHandle name fun l l' found found' same => ?_
    have borrowed := twins.pool.borrow react same operations
    generalize s.pool.borrow b l operations = x at borrowed
    generalize s'.pool.borrow b' l' operations = y at borrowed
    obtain ⟨answer, pool⟩ := borrowed
    cases answer with
    | error cause => exact .intro _ (twins.outside pool)
    | ok answers => exact .intro _ (twins.outside pool)
  | mark token => exact .intro _ (twins.outside (twins.pool.mark token))
  | notifyAll => exact .intro _ (twins.outside twins.pool.notifyAll)
  | change same => exact .intro _ (twins.outside (twins.pool.change react same))
  | closeAll => exact .intro _ (twins.outside (twins.pool.closeAll react))
  | shutdown => exact .intro _ (twins.outside (twins.pool.shutdown react))
  | elapse nanos => exact .intro _ (twins.outside (twins.pool.elapse nanos))
  | backend keeps => exact .intro _ (twins.outside (twins.pool.meddle keeps))

theorem answer (twins : Twins R s s') (like : Likewise R s s' a a') :
    Answer R (s.act b a) (s'.act b' a') := by
  cases like with
  | plain alike => exact twins.answer_plain react alike
  | @rouse w w' same among =>
    simp only [Site.act]
    by_cases there : w ∈ s.pool.parked
    · have pair := twins.counterparts (Pool.parked_subset_waiters there)
        (Pool.parked_subset_waiters (among.mp there)) same
      rw [if_pos there, if_pos (among.mp there)]
      exact .intro _ (twins.outside (twins.pool.rouse pair))
    · rw [if_neg there, if_neg (mt among.mpr there)]
      exact .intro _ twins.toAlike
  | @resume w w' same among =>
    simp only [Site.act]
    by_cases there : w ∈ s.waiters
    · have pair := twins.counterparts there (among.mp there) same
      rw [if_pos there, if_pos (among.mp there), pair.name]
      exact twins.afterAcquire _ (twins.pool.resume react pair)
    · rw [if_neg there, if_neg (mt among.mpr there)]
      exact .intro _ twins.toAlike

/-- The same action comes to the same at twin sites, and leaves them twins. -/
theorem act (twins : Twins R s s') (like : Likewise R s s' a a') :
    (s.act b a).1 = (s'.act b' a').1 ∧ Twins R (s.act b a).2 (s'.act b' a').2 := by
  have answered := twins.answer react like
  -- each site remains in order by itself
  have orderly := twins.orderly.act (b := b) a
  have orderly' := twins.orderly'.act (b := b') a'
  have stamped := stamped_act (b := b) twins.orderly twins.stamped a
  have stamped' := stamped_act (b := b') twins.orderly' twins.stamped' a'
  generalize s.act b a = x at *
  generalize s'.act b' a' = y at *
  obtain ⟨outcome, alike⟩ := answered
  exact ⟨rfl, alike, orderly, orderly', stamped, stamped'⟩

end Twins

/-! ### Side by side -/

/-- The sites to which the same actions lead, side by side. -/
inductive Abreast (b : Backend σ) (b' : Backend τ) (R : σ → τ → Prop) (s : Site σ) (s' : Site τ) :
    Site σ → Site τ → Prop
  | refl : Abreast b b' R s s' s s'
  | act {t : Site σ} {t' : Site τ} {a : Action σ} {a' : Action τ}
      (before : Abreast b b' R s s' t t') (like : Likewise R t t' a a') :
      Abreast b b' R s s' (t.act b a).2 (t'.act b' a').2

/-- The same actions leave twin sites twins. -/
theorem Abreast.twins {t : Site σ} {t' : Site τ} (react : Backend.Alike R b b')
    (abreast : Abreast b b' R s s' t t') (start : Twins R s s') : Twins R t t' := by
  induction abreast with
  | refl => exact start
  | act _ like ih => exact (ih.act react like).2

end Site

/-! ### Scenarios -/

/-- The same step, but for a password, and for what it does to backends in related states. -/
inductive Step.Alike (R : σ → τ → Prop) : Step σ → Step τ → Prop
  | act {a : Action σ} {a' : Action τ} (alike : a.Alike R a') : Alike R (.act a) (.act a')
  | acquire (name : String) {c c' : Credentials} (token : Option String)
      (same : c.masked = c'.masked) : Alike R (.acquire name c token) (.acquire name c' token)
  | makeToken (token : String) : Alike R (.makeToken token) (.makeToken token)
  | shareToken (token name : String) : Alike R (.shareToken token name) (.shareToken token name)
  | cancel (token : String) : Alike R (.cancel token) (.cancel token)
  | isCancelled (token : String) : Alike R (.isCancelled token) (.isCancelled token)
  | inspectToken (token : String) : Alike R (.inspectToken token) (.inspectToken token)
  | look (view : PoolView) : Alike R (.look view) (.look view)
  | lookAt (name : String) (view : HandleView) : Alike R (.lookAt name view) (.lookAt name view)
  | abandon : Alike R .abandon .abandon
  | advance (nanos : Nat) : Alike R (.advance nanos) (.advance nanos)

/-- The same move, step by step. -/
inductive Move.Alike (R : σ → τ → Prop) : Move σ → Move τ → Prop
  | one {step : Step σ} {step' : Step τ} (alike : step.Alike R step') :
      Alike R (.one step) (.one step')
  | batch {steps : List (Step σ)} {steps' : List (Step τ)}
      (alike : List.Forall₂ (Step.Alike R) steps steps') : Alike R (.batch steps) (.batch steps')

/-- What can be seen, without fingerprints and passwords. -/
def Sight.masked : Sight → Sight
  | .fingerprint _ => .fingerprint (.of "" {})
  | .source d => .source d.masked
  | sight => sight

/-- What a step comes to, without fingerprints and passwords. -/
def Result.masked : Result → Result
  | .seen sight => .seen sight.masked
  | result => result

/-- What a move comes to, without fingerprints and passwords. -/
def Told.masked : Told → Told
  | .one result => .one result.masked
  | .many results => .many (results.map Result.masked)

/-- What can be observed of a move, without fingerprints and passwords. -/
def Observation.masked (o : Observation) : Observation :=
  { o with told := o.told.masked, entries := o.entries.map Entry.masked }

namespace Scenario

variable {s : Scenario σ} {s' : Scenario τ}

/-- Scenarios at twin sites that differ in nothing else. -/
structure Alike (R : σ → τ → Prop) (s : Scenario σ) (s' : Scenario τ) : Prop where
  site : s.site.Twins R s'.site
  tokens : s.tokens = s'.tokens
  waiting : s.waiting = s'.waiting
  abandoned : s.abandoned = s'.abandoned

theorem settle_of_none (h : s.pool.turn? = none) : s.settle b = ([], s) := by
  rw [settle]
  split <;> simp_all

theorem settle_of_waiting {w : Waiter} (h : s.pool.turn? = some w)
    (waits : (s.act b (.resume w)).1 = .waiting) :
    s.settle b = (s.act b (.resume w)).2.settle b := by
  rw [settle]
  split
  · simp_all
  · rename_i w' h'
    obtain rfl : w = w' := Option.some.inj (h.symm.trans h')
    simp only [waits]

theorem settle_of_over {w : Waiter} (h : s.pool.turn? = some w)
    (ended : (s.act b (.resume w)).1 ≠ .waiting) :
    s.settle b =
      (⟨w.request.name, (s.act b (.resume w)).1, (s.act b (.resume w)).2.pool.now⟩ ::
        ((s.act b (.resume w)).2.settle b).1, ((s.act b (.resume w)).2.settle b).2) := by
  rw [settle]
  split
  · simp_all
  · rename_i w' h'
    obtain rfl : w = w' := Option.some.inj (h.symm.trans h')
    dsimp only
    split
    · rename_i waits
      exact absurd waits ended
    · rfl

/-- Any move of one step but for the passing of time is that step, and everybody runs then. -/
theorem move_of_not_advance {step : Step σ} (h : ¬ ∃ nanos, step = .advance nanos) :
    s.move b (.one step) = (.one (s.step b step).1, (s.step b step).2.settle b) := by
  cases step with
  | advance nanos => exact absurd ⟨nanos, rfl⟩ h
  | _ => rfl

namespace Alike

theorem pool (alike : s.Alike R s') : s.pool.Alike R s'.pool := alike.site.pool

theorem act (react : Backend.Alike R b b') (alike : s.Alike R s') {a : Action σ} {a' : Action τ}
    (like : s.site.Likewise R s'.site a a') :
    (s.act b a).1 = (s'.act b' a').1 ∧ (s.act b a).2.Alike R (s'.act b' a').2 := by
  obtain ⟨outcome, twins⟩ := alike.site.act react like
  have names : ((s.site.act b a).2.waiters.map fun w => w.request.name) =
      (s'.site.act b' a').2.waiters.map fun w => w.request.name := twins.pool.names
  exact ⟨outcome, {
    site := twins
    tokens := alike.tokens
    waiting := by simp only [Scenario.act, moveTo, names, alike.waiting]
    abandoned := alike.abandoned }⟩

/-- The same one runs on in both, if anybody does. -/
theorem turn (react : Backend.Alike R b b') (alike : s.Alike R s') {w : Waiter}
    (h : s.pool.turn? = some w) :
    ∃ w', s'.pool.turn? = some w' ∧ w.request.name = w'.request.name ∧
      (s.act b (.resume w)).1 = (s'.act b' (.resume w')).1 ∧
        (s.act b (.resume w)).2.Alike R (s'.act b' (.resume w')).2 := by
  have same := alike.pool.turn?
  rw [h] at same
  obtain ⟨w', theirs, same⟩ := Option.map_eq_some_iff.mp same.symm
  have there := mem_waiters_of_turn? h
  have there' := mem_waiters_of_turn? theirs
  have pair := alike.site.counterparts there there' same.symm
  exact ⟨w', theirs, pair.name, alike.act react (.resume same.symm (iff_of_true there there'))⟩

/-- Everybody runs whose turn it is, and the same ones end for the same reasons. -/
theorem settle (react : Backend.Alike R b b') (alike : s.Alike R s') :
    (s.settle b).1 = (s'.settle b').1 ∧ (s.settle b).2.Alike R (s'.settle b').2 := by
  -- by induction on the turns of one scenario: the counterpart has its turn in the other
  fun_induction Scenario.settle b s generalizing s' with
  | case1 s h =>
    have same := alike.pool.turn?
    rw [h] at same
    rw [settle_of_none (Option.map_eq_none_iff.mp same.symm)]
    exact ⟨rfl, alike⟩
  | case2 s w h acted rest waits =>
    rename_i ih
    obtain ⟨w', h', -, outcome, after⟩ := alike.turn react h
    rw [settle_of_waiting h' (outcome ▸ waits)]
    exact ih after
  | case3 s w h acted rest ended =>
    rename_i ih
    obtain ⟨w', h', name, outcome, after⟩ := alike.turn react h
    obtain ⟨others, last⟩ := ih after
    have now := after.pool.now
    rw [settle_of_over h' (outcome ▸ ended)]
    exact ⟨by rw [others, ← outcome, ← now, name], last⟩

theorem elapse (react : Backend.Alike R b b') (alike : s.Alike R s') (nanos : Nat) :
    (s.elapse b nanos).Alike R (s'.elapse b' nanos) :=
  (alike.act react (.plain (.elapse nanos))).2

/-- The time moves on to an instant, and everybody runs whose turn it is then. -/
theorem arrive (react : Backend.Alike R b b') (alike : s.Alike R s') (t : Nat) :
    ((s.elapse b (t - s.pool.now)).settle b).1 = ((s'.elapse b' (t - s'.pool.now)).settle b').1 ∧
      ((s.elapse b (t - s.pool.now)).settle b).2.Alike R
        ((s'.elapse b' (t - s'.pool.now)).settle b').2 := by
  rw [alike.pool.now]
  exact (alike.elapse react _).settle react

/-- The time comes to a target by the same stops. -/
theorem advanceTo (react : Backend.Alike R b b') (alike : s.Alike R s') (target : Nat) :
    (s.advanceTo b target).1 = (s'.advanceTo b' target).1 ∧
      (s.advanceTo b target).2.Alike R (s'.advanceTo b' target).2 := by
  -- by induction on the stops of one scenario: its next deadline is that of the other
  fun_induction Scenario.advanceTo b target s generalizing s' with
  | case1 s t found between there =>
    rename_i ih
    have found' : s'.pool.nextDeadline? = some t := alike.pool.nextDeadline? ▸ found
    obtain ⟨woken, arrived⟩ := alike.arrive react t
    obtain ⟨others, last⟩ := ih arrived
    rw [Scenario.advanceTo.eq_def b' target s', found']
    dsimp only
    rw [dif_pos (alike.pool.now ▸ between)]
    exact ⟨congrArg₂ _ woken others, last⟩
  | case2 s t found past =>
    have found' : s'.pool.nextDeadline? = some t := alike.pool.nextDeadline? ▸ found
    rw [Scenario.advanceTo.eq_def b' target s', found']
    dsimp only
    rw [dif_neg (alike.pool.now ▸ past)]
    exact alike.arrive react target
  | case3 s found =>
    have found' : s'.pool.nextDeadline? = none := alike.pool.nextDeadline? ▸ found
    rw [Scenario.advanceTo.eq_def b' target s', found']
    exact alike.arrive react target

/-! ### Playing -/

/-- What can be seen of the pool differs in fingerprints and passwords. -/
theorem look (alike : s.Alike R s') (view : PoolView) :
    (s.look view).masked = (s'.look view).masked := by
  cases view with
  | settings => exact congrArg Sight.settings alike.pool.settings
  | source => exact congrArg Sight.source alike.pool.source
  | fingerprint => rfl
  | report => exact congrArg Sight.text alike.pool.report
  | isShutDown => exact congrArg Sight.flag alike.pool.shutDown
  | inspection => exact congrArg Sight.text alike.pool.inspect

/-- What can be seen of a handle differs in its fingerprint. -/
theorem lookAt (alike : s.Alike R s') {l l' : Lease} (same : l.unstamped = l'.unstamped)
    (view : HandleView) : (s.lookAt l view).masked = (s'.lookAt l' view).masked := by
  cases view with
  | connection => exact congrArg Sight.connection (Lease.connection_of_unstamped same)
  | fingerprint => rfl
  | openedAt => exact congrArg Sight.time (Lease.openedAt_of_unstamped same)
  | heldFor =>
    simp only [Scenario.lookAt, alike.pool.now, Lease.heldFor_of_unstamped same]
  | inspection => exact congrArg Sight.text (alike.pool.inspectHandle same)

/-- The same result but for fingerprints and passwords, in scenarios that are alike. -/
inductive Answer (R : σ → τ → Prop) : Result × Scenario σ → Result × Scenario τ → Prop
  | intro {result result' : Result} {t : Scenario σ} {t' : Scenario τ}
      (same : result.masked = result'.masked) (alike : t.Alike R t') :
      Answer R (result, t) (result', t')

theorem token? (alike : s.Alike R s') (name : String) : s.token? name = s'.token? name := by
  unfold Scenario.token?
  rw [alike.tokens]

theorem isCancelled (alike : s.Alike R s') (token : String) :
    s.isCancelled token = s'.isCancelled token := by
  unfold Scenario.isCancelled
  rw [alike.token?, alike.pool.isCancelled]

theorem inspectToken (alike : s.Alike R s') (token : String) :
    s.inspectToken token = s'.inspectToken token := by
  have cancelled := alike.isCancelled token
  unfold Scenario.inspectToken
  rw [cancelled]

theorem nameToken (alike : s.Alike R s') (name : String) (token : Nat) :
    (s.nameToken name token).Alike R (s'.nameToken name token) :=
  { alike with tokens := congrArg ((name, token) :: ·) alike.tokens }

theorem step (react : Backend.Alike R b b') (alike : s.Alike R s') {step : Step σ}
    {step' : Step τ} (same : step.Alike R step') : Answer R (s.step b step) (s'.step b' step') := by
  cases same with
  | act like =>
    obtain ⟨outcome, after⟩ := alike.act react (.plain like)
    exact .intro (by rw [outcome]) after
  | acquire name token same =>
    have tokens : s.token? = s'.token? := funext alike.token?
    obtain ⟨outcome, after⟩ :=
      alike.act react (.plain (.acquire name (token.bind s.token?) same))
    simp only [Scenario.step, ← tokens]
    exact .intro (by rw [outcome]) after
  | makeToken token =>
    simp only [Scenario.step, ← alike.tokens]
    exact .intro rfl (alike.nameToken token _)
  | shareToken token name =>
    simp only [Scenario.step, ← alike.token?]
    split
    · exact .intro rfl (alike.nameToken name _)
    · exact .intro rfl alike
  | cancel token =>
    simp only [Scenario.step, ← alike.token?]
    split
    · rename_i number _
      have marked := (alike.act react (.plain (.mark number))).2
      exact .intro rfl (marked.act react (.plain .notifyAll)).2
    · exact .intro rfl alike
  | isCancelled token => exact .intro (by rw [alike.isCancelled]) alike
  | inspectToken token =>
    simp only [Scenario.step, alike.inspectToken token]
    exact .intro rfl alike
  | look view => exact .intro (congrArg Result.seen (alike.look view)) alike
  | lookAt name view =>
    simp only [Scenario.step]
    rcases both_of_map_eq (alike.site.handle? name) with
      ⟨mine, theirs⟩ | ⟨l, l', mine, theirs, same⟩
    · rw [mine, theirs]
      exact .intro rfl alike
    · rw [mine, theirs]
      exact .intro (congrArg Result.seen (alike.lookAt same view)) alike
  | abandon =>
    have nobody : s.waiting.isEmpty = s'.waiting.isEmpty := congrArg _ alike.waiting
    simp only [Scenario.step, ← nobody]
    split
    · exact .intro rfl { alike with abandoned := rfl }
    · exact .intro rfl alike
  | advance nanos => exact .intro rfl (alike.elapse react nanos)

theorem steps (react : Backend.Alike R b b') (alike : s.Alike R s') {steps : List (Step σ)}
    {steps' : List (Step τ)} (same : List.Forall₂ (Step.Alike R) steps steps') :
    (s.steps b steps).1.map Result.masked = (s'.steps b' steps').1.map Result.masked ∧
      (s.steps b steps).2.Alike R (s'.steps b' steps').2 := by
  induction same generalizing s s' with
  | nil => exact ⟨rfl, alike⟩
  | cons first _ ih =>
    have played := alike.step react first
    simp only [Scenario.steps]
    generalize s.step b _ = x at played ⊢
    generalize s'.step b' _ = y at played ⊢
    obtain ⟨result, after⟩ := played
    obtain ⟨others, last⟩ := ih after
    exact ⟨congrArg₂ List.cons result others, last⟩

theorem move (react : Backend.Alike R b b') (alike : s.Alike R s') {m : Move σ} {m' : Move τ}
    (same : m.Alike R m') :
    (s.move b m).1.masked = (s'.move b' m').1.masked ∧ (s.move b m).2.1 = (s'.move b' m').2.1 ∧
      (s.move b m).2.2.Alike R (s'.move b' m').2.2 := by
  cases same with
  | @one step step' same =>
    by_cases passes : ∃ nanos, step = .advance nanos
    · obtain ⟨nanos, rfl⟩ := passes
      cases same
      obtain ⟨woken, ready⟩ := alike.settle react
      obtain ⟨later, gone⟩ := ready.advanceTo react (s.pool.now + nanos)
      refine ⟨rfl, ?_, ?_⟩
      · simp only [Scenario.move, ← alike.pool.now, woken, later]
      · simp only [Scenario.move, ← alike.pool.now]
        exact gone
    · have passes' : ¬ ∃ nanos, step' = .advance nanos := by
        rintro ⟨nanos, rfl⟩
        cases same
        exact passes ⟨nanos, rfl⟩
      rw [move_of_not_advance passes, move_of_not_advance passes']
      have played := alike.step react same
      generalize s.step b step = x at played
      generalize s'.step b' step' = y at played
      obtain ⟨result, after⟩ := played
      exact ⟨congrArg Told.one result, after.settle react⟩
  | batch same =>
    obtain ⟨results, after⟩ := alike.steps react same
    exact ⟨congrArg Told.many results, after.settle react⟩

/-- A move is observed to come to the same. -/
theorem play (react : Backend.Alike R b b') (alike : s.Alike R s') {m : Move σ} {m' : Move τ}
    (same : m.Alike R m') :
    (s.play b m).1.masked = (s'.play b' m').1.masked ∧
      (s.play b m).2.Alike R (s'.play b' m').2 := by
  have length {p : Pool σ} {p' : Pool τ} (alike : p.Alike R p') :
      p.environment.journal.length = p'.environment.journal.length := by
    simpa only [List.length_map] using congrArg List.length alike.environment.journal
  obtain ⟨told, woken, after⟩ := alike.move react same
  refine ⟨?_, after⟩
  simp only [Scenario.play, Observation.masked, told, woken, after.waiting, after.pool.now,
    after.abandoned, after.pool.status, List.map_reverse, List.map_take,
    after.pool.environment.journal, length after.pool, length alike.pool]

theorem playAll (react : Backend.Alike R b b') (alike : s.Alike R s') {moves : List (Move σ)}
    {moves' : List (Move τ)} (same : List.Forall₂ (Move.Alike R) moves moves') :
    (s.playAll b moves).1.map Observation.masked =
        (s'.playAll b' moves').1.map Observation.masked ∧
      (s.playAll b moves).2.Alike R (s'.playAll b' moves').2 := by
  induction same generalizing s s' with
  | nil => exact ⟨rfl, alike⟩
  | cons first _ ih =>
    obtain ⟨observed, after⟩ := alike.play react first
    obtain ⟨others, last⟩ := ih after
    exact ⟨congrArg₂ List.cons observed others, last⟩

end Alike

/-- New scenarios for data sources that differ in their passwords are alike. -/
theorem alike_new {source source' : DataSource} {state : σ} {state' : τ}
    (same : source.masked = source'.masked) (settings : Settings) (related : R state state') :
    (new source settings state).Alike R (new source' settings state') :=
  ⟨.new same settings related, rfl, rfl, rfl⟩

end Scenario

/-! ### Two runs -/

/-- Two sites show the same: the time, the status, the report, those who wait in their order, the
names of the handles, and the journal but for the passwords in it. -/
structure Site.ShowsLike (s : Site σ) (s' : Site τ) : Prop where
  now : s.pool.now = s'.pool.now
  status : s.pool.status = s'.pool.status
  report : s.pool.report.text = s'.pool.report.text
  inspect : s.pool.inspect = s'.pool.inspect
  roused : s.pool.roused.map Waiter.masked = s'.pool.roused.map Waiter.masked
  signalled : s.pool.signalled.map Waiter.masked = s'.pool.signalled.map Waiter.masked
  parked : s.pool.parked.map Waiter.masked = s'.pool.parked.map Waiter.masked
  names : s.names = s'.names
  journal : s.pool.environment.journal.map Entry.masked =
    s'.pool.environment.journal.map Entry.masked

theorem Site.Alike.showsLike {s : Site σ} {s' : Site τ} (alike : s.Alike R s') :
    s.ShowsLike s' where
  now := alike.pool.now
  status := alike.pool.status
  report := alike.pool.report
  inspect := alike.pool.inspect
  roused := alike.pool.roused
  signalled := alike.pool.signalled
  parked := alike.pool.parked
  names := alike.names
  journal := alike.pool.environment.journal

/-- Two runs of the same actions on backends that react identically, from data sources that differ
in their passwords, show the same at every site, and every further action comes to the same at both.
Two runs of the same moves are observed to come to the same, but for fingerprints, the data source
when it is asked for, and the passwords with which connections were opened. -/
theorem Backend.Alike.same_but_for_passwords (react : Backend.Alike R b b')
    {source source' : DataSource} (same : source.masked = source'.masked) (settings : Settings)
    {state : σ} {state' : τ} (related : R state state') :
    (∀ t t', Site.Abreast b b' R (.new source settings state) (.new source' settings state') t t' →
      t.ShowsLike t' ∧
        ∀ a a', Site.Likewise R t t' a a' → (t.act b a).1 = (t'.act b' a').1) ∧
    ∀ moves moves', List.Forall₂ (Move.Alike R) moves moves' →
      let played := (Scenario.new source settings state).playAll b moves
      let played' := (Scenario.new source' settings state').playAll b' moves'
      played.1.map Observation.masked = played'.1.map Observation.masked ∧
        played.2.site.ShowsLike played'.2.site := by
  refine ⟨fun t t' abreast => ?_, fun moves moves' same' => ?_⟩
  · have twins := abreast.twins react (.new same settings related)
    exact ⟨twins.showsLike, fun a a' like => (twins.act react like).1⟩
  · obtain ⟨observed, last⟩ :=
      (Scenario.alike_new same settings related).playAll react same'
    exact ⟨observed, last.site.showsLike⟩

/-- The scripted backend never looks at credentials. -/
theorem Scripted.alike_backend : Backend.Alike Eq backend backend where
  connect := by
    rintro state _ rfl id endpoint c c' -
    exact ⟨rfl, rfl, rfl, rfl⟩
  ask := by
    rintro state _ rfl id operation
    exact ⟨rfl, rfl, rfl, rfl⟩

/-- A new password is set while one connection is held and somebody waits for another. -/
theorem same_but_for_passwords_scripted :
    let me : String → Credentials := fun password => ⟨some "me", some password⟩
    let actions : String → List (Action Scripted) := fun password =>
      [.get "a", .acquire "b" (me password) none, .change (.credentials (me password))]
    let t := (Site.new ⟨"db", me "open"⟩ { maxActive := 1 } {}).run Scripted.backend
      (actions "sesame")
    let t' := (Site.new ⟨"db", me "shut"⟩ { maxActive := 1 } {}).run Scripted.backend
      (actions "pumpkin")
    let play : String → String → List Observation := fun password later =>
      ((Scenario.new ⟨"db", me password⟩ { maxActive := 1 } {}).playAll Scripted.backend
        ((actions later).map fun a => .one (.act a))).1
    (me "open" ≠ me "shut" ∧ me "sesame" ≠ me "pumpkin") ∧
      t.ShowsLike t' ∧
        (play "open" "sesame").map Observation.masked =
          (play "shut" "pumpkin").map Observation.masked := by
  intro me actions t t' play
  have same (password password' : String) : (me password).masked = (me password').masked :=
    Credentials.masked_eq_iff.mpr ⟨rfl, rfl⟩
  have source : DataSource.masked ⟨"db", me "open"⟩ = DataSource.masked ⟨"db", me "shut"⟩ :=
    congrArg (DataSource.mk "db") (same "open" "shut")
  have acquire : Action.Alike Eq (.acquire "b" (me "sesame") none : Action Scripted)
      (.acquire "b" (me "pumpkin") none : Action Scripted) :=
    .acquire "b" none (same "sesame" "pumpkin")
  have change : Action.Alike Eq (.change (.credentials (me "sesame")) : Action Scripted)
      (.change (.credentials (me "pumpkin")) : Action Scripted) :=
    .change (congrArg Change.credentials (same "sesame" "pumpkin"))
  obtain ⟨sites, scenarios⟩ :=
    Scripted.alike_backend.same_but_for_passwords source { maxActive := 1 }
      (rfl : ({} : Scripted) = {})
  have abreast : Site.Abreast Scripted.backend Scripted.backend Eq
      (.new ⟨"db", me "open"⟩ { maxActive := 1 } {})
      (.new ⟨"db", me "shut"⟩ { maxActive := 1 } {}) t t' :=
    .act (.act (.act .refl (.plain (.get "a"))) (.plain acquire)) (.plain change)
  have moves := scenarios _ _ (.cons (.one (.act (.get "a")))
    (.cons (.one (.act acquire)) (.cons (.one (.act change)) .nil)))
  exact ⟨by decide, (sites t t' abreast).1, moves.1⟩

/-- The fingerprint that a pool expects tells passwords apart, and so does its data source. -/
theorem look_tells_password :
    let s : String → Scenario Scripted := fun password =>
      .new ⟨"db", ⟨some "me", some password⟩⟩ {} {}
    (s "open").pool.source.masked = (s "shut").pool.source.masked ∧
      ((s "open").step Scripted.backend (.look .fingerprint)).1 ≠
        ((s "shut").step Scripted.backend (.look .fingerprint)).1 ∧
      ((s "open").step Scripted.backend (.look .source)).1 ≠
        ((s "shut").step Scripted.backend (.look .source)).1 := by
  intro s
  have expected : (s "open").pool.expected ≠ (s "shut").pool.expected := by decide +kernel
  have source : (s "open").pool.source ≠ (s "shut").pool.source := by decide +kernel
  refine ⟨by decide +kernel, fun same => expected ?_, fun same => source ?_⟩
  · exact Sight.fingerprint.inj (Result.seen.inj same)
  · exact Sight.source.inj (Result.seen.inj same)

end LeasePool
