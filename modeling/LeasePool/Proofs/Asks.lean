import LeasePool.Proofs.Possession
import LeasePool.Proofs.Provenance

/-!
# What a backend is asked

A pool reaches its backend only by opening connections and by asking something of one. Each use of a
connection is a sequence of such questions about it alone, so that whatever lasts from one question
to the next lasts through any use. This file tells it once for each use, and for what an action does
to a pool. While a call on the backend runs, tokens may be cancelled; a pool cancels none itself.

## Main definitions

* `Environment.Asks`: several questions about one connection.
* `Environment.Evolves`: several calls on the backend, about whatever connections.
* `Environment.Cancels`: a token is cancelled while one of them runs.
* `Pool.Uses`: several questions about the connection of a lease that was not revoked.
* `Site.Affects`: what an action does to a pool, as far as its backend can tell.

## Main results

* `Environment.asks_reset`, `asks_usable`, `asks_restore`, `asks_dispose`: the uses of a connection.
* `Environment.Evolves.cancelled`: calls on the backend cancel no token but those that are cancelled
  while they run.
* `Pool.keeps_closeAll`: what every use of a connection keeps is kept when everything is closed.
* `Site.affects_act`: every action affects its pool in one of these ways.
-/

namespace LeasePool

namespace Environment

variable {σ : Type} {b : Backend σ} {n : Nat} {e e' e'' : Environment σ}

/-- From one environment to another, some questions were asked about one connection; what else was
noted is no call on the backend. -/
inductive Asks (b : Backend σ) (n : Nat) (e : Environment σ) : Environment σ → Prop
  | refl : Asks b n e e
  | ask {e' : Environment σ} (before : Asks b n e e') (party : Party) (operation : Operation) :
      Asks b n e (e'.ask b party n operation).2
  | record {e' : Environment σ} (before : Asks b n e e') (event : Event)
      (plain : event.isCall = false) : Asks b n e (e'.record event)

theorem Asks.trans (first : Asks b n e e') (second : Asks b n e' e'') : Asks b n e e'' := by
  induction second with
  | refl => exact first
  | ask _ party operation ih => exact ih.ask party operation
  | record _ event plain ih => exact ih.record event plain

theorem asks_of_ask {party : Party} {operation : Operation} {answer : operation.Answer}
    (asked : e.ask b party n operation = (answer, e')) : Asks b n e e' := by
  have asks := (Asks.refl (b := b) (n := n) (e := e)).ask party operation
  rwa [asked] at asks

theorem asks_reset (b : Backend σ) (e : Environment σ) (n : Nat) :
    Asks b n e (e.reset b n).2 := by
  unfold reset
  split
  · rename_i asked
    exact asks_of_ask asked
  · rename_i asked
    exact asks_of_ask asked
  · rename_i asked
    exact (asks_of_ask asked).ask .pool .rollback

theorem asks_probe (b : Backend σ) (e : Environment σ) (n : Nat) (query : String) :
    Asks b n e (e.probe b n query).2 := by
  unfold probe
  split
  · rename_i executed
    exact (asks_of_ask executed).ask .pool .close
  · rename_i e' executed
    have queried := (asks_of_ask executed).trans (asks_reset b e' n)
    split
    · rename_i reset
      rw [reset] at queried
      exact queried.ask .pool .close
    · rename_i reset
      rwa [reset] at queried

theorem asks_dispose (b : Backend σ) (e : Environment σ) (n : Nat) :
    Asks b n e (e.dispose b n) := by
  unfold dispose
  split
  · rename_i asked
    exact asks_of_ask asked
  · rename_i e' asked
    exact ((asks_of_ask asked).trans (asks_reset b e' n)).ask .pool .close

theorem asks_restore (b : Backend σ) (e : Environment σ) (n : Nat) :
    Asks b n e (Pool.restore b e n).2 := by
  unfold Pool.restore
  split
  · rename_i asked
    exact asks_of_ask asked
  · rename_i e' asked
    exact (asks_of_ask asked).trans (asks_reset b e' n)

theorem asks_usable (b : Backend σ) (e : Environment σ) (l : Lease) (s : Settings)
    (expected : Fingerprint) (revoked : List Nat) :
    Asks b l.connection e (l.usable b s expected revoked e).2 := by
  unfold Lease.usable
  split
  · exact .refl
  · split
    · rename_i asked
      exact asks_of_ask asked
    · rename_i e' asked
      split
      · exact (asks_of_ask asked).trans (asks_probe b e' l.connection s.pingQuery)
      · exact asks_of_ask asked

theorem asks_performAll (b : Backend σ) (n : Nat) (operations : List Operation)
    (e : Environment σ) : Asks b n e (Pool.performAll b n operations e).2 := by
  induction operations generalizing e with
  | nil => exact .refl
  | cons operation rest ih => exact (Asks.refl.ask .holder operation).trans (ih _)

/-! ### All calls -/

/-- From one environment to another, the backend was called, about whatever connections. -/
inductive Evolves (b : Backend σ) (e : Environment σ) : Environment σ → Prop
  | refl : Evolves b e e
  | connect {e' : Environment σ} (before : Evolves b e e') (id : Nat) (endpoint : String)
      (credentials : Credentials) : Evolves b e (e'.connect b id endpoint credentials).2
  | ask {e' : Environment σ} (before : Evolves b e e') (party : Party) (id : Nat)
      (operation : Operation) : Evolves b e (e'.ask b party id operation).2
  | record {e' : Environment σ} (before : Evolves b e e') (event : Event) :
      Evolves b e (e'.record event)

theorem Evolves.trans (first : Evolves b e e') (second : Evolves b e' e'') : Evolves b e e'' := by
  induction second with
  | refl => exact first
  | connect _ id endpoint credentials ih => exact ih.connect id endpoint credentials
  | ask _ party id operation ih => exact ih.ask party id operation
  | record _ event ih => exact ih.record event

theorem Asks.evolves (asks : Asks b n e e') : Evolves b e e' := by
  induction asks with
  | refl => exact .refl
  | ask _ party operation ih => exact ih.ask party n operation
  | record _ event _ ih => exact ih.record event

/-- From one environment to another, the backend was called, and a token was cancelled while one of
the calls ran. -/
inductive Cancels (b : Backend σ) (token : Nat) (e e' : Environment σ) : Prop
  | connect {t : Environment σ} (before : Evolves b e t) (id : Nat) (endpoint : String)
      (credentials : Credentials)
      (during : token ∈ (b.connect t.backend id endpoint credentials).cancelled)
      (later : Evolves b (t.connect b id endpoint credentials).2 e')
  | ask {t : Environment σ} (before : Evolves b e t) (party : Party) (id : Nat)
      (operation : Operation) (during : token ∈ (b.ask t.backend id operation).cancelled)
      (later : Evolves b (t.ask b party id operation).2 e')

theorem Cancels.trans {token : Nat} (cancels : Cancels b token e e') (further : Evolves b e' e'') :
    Cancels b token e e'' := by
  cases cancels with
  | connect before id endpoint credentials during later =>
    exact .connect before id endpoint credentials during (later.trans further)
  | ask before party id operation during later =>
    exact .ask before party id operation during (later.trans further)

/-- Calls on the backend cancel no token but those that are cancelled while they run. -/
theorem Evolves.cancelled (evolves : Evolves b e e') {token : Nat} (there : token ∈ e'.cancelled) :
    token ∈ e.cancelled ∨ Cancels b token e e' := by
  induction evolves with
  | refl => exact .inl there
  | connect before id endpoint credentials ih =>
    rcases List.mem_append.mp there with during | earlier
    · exact .inr (.connect before id endpoint credentials during .refl)
    · exact (ih earlier).imp_right fun cancels =>
        cancels.trans (Evolves.refl.connect id endpoint credentials)
  | ask before party id operation ih =>
    rcases List.mem_append.mp there with during | earlier
    · exact .inr (.ask before party id operation during .refl)
    · exact (ih earlier).imp_right fun cancels =>
        cancels.trans (Evolves.refl.ask party id operation)
  | record before event ih =>
    exact (ih there).imp_right fun cancels => cancels.trans (Evolves.refl.record event)

end Environment

namespace Pool

variable {σ : Type} {b : Backend σ} {p q : Pool σ} {l : Lease}

open Environment (Asks Evolves)

theorem asks_of_checked {good : Bool} (checked : p.usable b l = (good, q)) :
    Asks b l.connection p.environment q.environment := by
  obtain rfl : (p.usable b l).2 = q := congrArg Prod.snd checked
  exact p.environment.asks_usable b l p.settings p.expected p.revoked

theorem asks_discard (b : Backend σ) (p : Pool σ) (l : Lease) :
    Asks b l.connection p.environment (p.discard b l).environment :=
  (Asks.refl.record _ rfl).trans (Environment.asks_dispose b _ l.connection)

theorem asks_destroy (b : Backend σ) (p : Pool σ) (l : Lease) :
    Asks b l.connection p.environment (p.destroy b l).environment :=
  p.environment.asks_dispose b l.connection

theorem asks_withdraw (b : Backend σ) (p : Pool σ) (l : Lease) :
    Asks b l.connection p.environment (p.withdraw b l).environment :=
  (Asks.refl.record _ rfl).trans (Environment.asks_dispose b _ l.connection)

theorem asks_handOut (b : Backend σ) (p : Pool σ) (r : Request) (l : Lease) :
    Asks b l.connection p.environment (p.handOut b r l).2.environment :=
  (p.environment.asks_reset b l.connection).record _ rfl

theorem asks_takeBack (b : Backend σ) (p : Pool σ) (l : Lease) :
    Asks b l.connection p.environment (p.takeBack b l).environment := by
  have restored := Environment.asks_restore b p.environment l.connection
  unfold takeBack
  split
  · split
    · rename_i found
      rwa [found] at restored
    · rename_i e found
      rw [found] at restored
      exact restored.trans (Environment.asks_dispose b e l.connection)
  · exact Environment.asks_dispose b p.environment l.connection

/-- To hand back a lease, only its connection is used, and none if the lease was revoked. -/
theorem asks_release (b : Backend σ) (p : Pool σ) (l : Lease) :
    Asks b l.connection p.environment (p.release b l).environment := by
  by_cases valid : p.IsValid l
  · rw [release_of_valid b valid, environment_notifyOne]
    have taken := asks_takeBack b ((p.dropActive l).noteReturn l) l
    exact (Asks.refl.record (.returned l.connection) rfl).trans taken
  · rw [release_of_revoked b valid]
    exact Asks.refl.record _ rfl

/-- To close everything is to use one connection after the other, so it keeps what every use of a
connection keeps. -/
theorem keeps_closeAll {P : Environment σ → Prop}
    (keep : ∀ n e e', Asks b n e e' → P e → P e') (p : Pool σ) (before : P p.environment) :
    P (p.closeAll b).environment := by
  have along {f : Pool σ → Lease → Pool σ}
      (asks : ∀ p l, Asks b l.connection p.environment (f p l).environment) (ls : List Lease)
      (p : Pool σ) (before : P p.environment) : P (ls.foldl f p).environment := by
    induction ls generalizing p with
    | nil => exact before
    | cons l ls ih => exact ih (f p l) (keep _ _ _ (asks p l) before)
  exact along (asks_destroy b) _ _ (along (asks_withdraw b) _ p.vacated before)

/-- Some questions were asked about the connection of a lease, and none if the lease was revoked. -/
def Uses (b : Backend σ) (p : Pool σ) (l : Lease) (e : Environment σ) : Prop :=
  e = p.environment ∨ p.IsValid l ∧ Asks b l.connection p.environment e

theorem uses_usable (b : Backend σ) (p : Pool σ) (l : Lease) :
    p.Uses b l (p.usable b l).2.environment := by
  by_cases valid : p.IsValid l
  · exact .inr ⟨valid, p.environment.asks_usable b l p.settings p.expected p.revoked⟩
  · left
    have isOver : l.key ∈ p.revoked := Decidable.not_not.mp valid
    simp only [usable, Lease.usable, isOver, true_or, if_true]

theorem uses_perform (b : Backend σ) (p : Pool σ) (l : Lease) (operation : Operation) :
    ∃ e, p.Uses b l e ∧ (p.perform b l operation).2 = { p with environment := e } := by
  unfold perform
  by_cases valid : p.IsValid l
  · refine ⟨_, .inr ⟨valid, Asks.refl.ask .holder operation⟩, ?_⟩
    rw [if_pos valid]
    dsimp only
    split <;> rfl
  · exact ⟨_, .inl rfl, by rw [if_neg valid]⟩

theorem uses_borrow (b : Backend σ) (p : Pool σ) (l : Lease) (operations : List Operation) :
    ∃ e, p.Uses b l e ∧ (p.borrow b l operations).2 = { p with environment := e } := by
  unfold borrow
  by_cases valid : p.IsValid l
  · have asks := Environment.asks_performAll b l.connection operations p.environment
    refine ⟨_, .inr ⟨valid, asks⟩, ?_⟩
    rw [if_pos valid]
  · exact ⟨_, .inl rfl, by rw [if_neg valid]⟩

/-! ### All calls -/

theorem evolves_found {c : Credentials} {out : Except BackendError (Option Lease) × Pool σ}
    (found : Found b c p out) : Evolves b p.environment out.2.environment := by
  have opened {answer : Except BackendError Unit} {e : Environment σ}
      (connected : p.environment.connect b p.nextConnection p.source.endpoint c = (answer, e)) :
      Evolves b p.environment e := by
    have evolves := (Evolves.refl (b := b) (e := p.environment)).connect p.nextConnection
      p.source.endpoint c
    rwa [connected] at evolves
  cases found with
  | idle | nothing => exact .refl
  | opened _ _ connected => exact opened connected
  | unopened _ _ refused => exact opened refused
  | @overdue oldest =>
    have noted := Evolves.refl (b := b) (e := p.environment).record (.reclaimed oldest.connection)
    exact noted.trans (Environment.asks_reset b _ oldest.connection).evolves

theorem evolves_candidate {c : Credentials} {out : Except BackendError (Option Lease)}
    (found : p.candidate b c = (out, q)) : Evolves b p.environment q.environment :=
  evolves_found (found_of_candidate b found)

theorem evolves_closeAll (b : Backend σ) (p : Pool σ) :
    Evolves b p.environment (p.closeAll b).environment :=
  keeps_closeAll (P := Evolves b p.environment) (fun _ _ _ asks before => before.trans asks.evolves)
    p .refl

end Pool

namespace Site

variable {σ : Type} {b : Backend σ} {s : Site σ}

open Environment (Asks Evolves)

/-- What an action does to a pool, as far as its backend can tell. -/
inductive Affects (b : Backend σ) (s : Site σ) (a : Action σ) : Pool σ → Prop
  /-- Nothing is asked, and no lease moves. If a token is cancelled, then one that is marked. -/
  | aside {q : Pool σ} (custody : q.custody = s.pool.custody)
      (backend : q.environment.backend = s.pool.environment.backend)
      (events : q.environment.events = s.pool.environment.events)
      (cancelled : q.environment.cancelled = s.pool.environment.cancelled ∨
        ∃ token, a = .mark token ∧
          q.environment.cancelled = token :: s.pool.environment.cancelled) : Affects b s a q
  /-- A connection is used through a handle. -/
  | used {l : Lease} {e : Environment σ} (isHeld : l ∈ s.leases) (uses : s.pool.Uses b l e) :
      Affects b s a { s.pool with environment := e }
  /-- Something happens to the backend. -/
  | meddled {happen : σ → σ} (happens : a = .backend happen) : Affects b s a (s.pool.meddle happen)
  /-- An acquire searches. -/
  | sought {p : Pool σ} (starts : s.pool.Starts p) (r : Request) (waited : Bool)
      (spare discarded : Nat) : Affects b s a (p.seek b r waited spare discarded).2
  /-- A lease is handed back. -/
  | released {l : Lease} (isHeld : l ∈ s.leases) : Affects b s a (s.pool.release b l)
  /-- Everything is closed. -/
  | closed (source : DataSource) (settings : Settings) (shutDown : Bool) :
      Affects b s a ({ s.pool with source, settings, shutDown }.closeAll b)

/-- What is done with a handle affects the pool as it does for the lease behind the handle. -/
theorem affects_withHandle {a : Action σ} {name : String} {use : Lease → Outcome × Site σ}
    (used : ∀ l ∈ s.leases, Affects b s a (use l).2.pool) :
    Affects b s a (s.withHandle name use).2.pool := by
  unfold withHandle
  split
  · rename_i l found
    exact used l (mem_leases found)
  · exact .aside rfl rfl rfl (.inl rfl)

theorem affects_start (a : Action σ) (t : Site σ) (same : t.pool = s.pool) (name : String)
    (credentials : Credentials) (token : Option Nat) :
    Affects b s a (t.start b name credentials token).2.pool := by
  rw [start, pool_afterAcquire, same]
  exact .sought (.begun name) _ false _ 0

theorem affects_begin (a : Action σ) (name : String) (credentials : Credentials)
    (token : Option Nat) : Affects b s a (s.begin b name credentials token).2.pool := by
  unfold begin
  split
  · exact .aside rfl rfl rfl (.inl rfl)
  · exact affects_start a s rfl name credentials token

/-- Every action affects its pool in one of these ways. -/
theorem affects_act (b : Backend σ) (s : Site σ) (a : Action σ) :
    Affects b s a (s.act b a).2.pool := by
  cases a with
  | get name => exact affects_begin _ name _ none
  | acquire name credentials token => exact affects_begin _ name credentials token
  | lookUp name =>
    simp only [act]
    split <;> exact .aside rfl rfl rfl (.inl rfl)
  | proceed name =>
    simp only [act]
    split
    · rename_i credentials _
      exact affects_start (s := s) _
        { s with lookups := s.lookups.filter fun entry => entry.1 ≠ name } rfl name credentials none
    · exact .aside rfl rfl rfl (.inl rfl)
  | rouse w =>
    simp only [act]
    split <;> exact .aside rfl rfl rfl (.inl rfl)
  | resume w =>
    by_cases waits : w ∈ s.waiters
    · rw [pool_act_resume b waits]
      exact .sought (.woken w) w.request true _ w.discarded
    · simp only [act, if_neg waits]
      exact .aside rfl rfl rfl (.inl rfl)
  | release name => exact affects_withHandle fun l isHeld => .released isHeld
  | validate name =>
    exact affects_withHandle fun l isHeld => .used isHeld (s.pool.uses_usable b l)
  | perform name operation =>
    refine affects_withHandle fun l isHeld => ?_
    obtain ⟨e, uses, outside⟩ := s.pool.uses_perform b l operation
    generalize s.pool.perform b l operation = performed at outside ⊢
    obtain ⟨answer, q⟩ := performed
    obtain rfl : q = { s.pool with environment := e } := outside
    cases answer <;> exact .used isHeld uses
  | borrow name operations =>
    refine affects_withHandle fun l isHeld => ?_
    obtain ⟨e, uses, outside⟩ := s.pool.uses_borrow b l operations
    generalize s.pool.borrow b l operations = performed at outside ⊢
    obtain ⟨answers, q⟩ := performed
    obtain rfl : q = { s.pool with environment := e } := outside
    cases answers <;> exact .used isHeld uses
  | mark token => exact .aside rfl rfl rfl (.inr ⟨token, rfl, rfl⟩)
  | notifyAll | elapse => exact .aside rfl rfl rfl (.inl rfl)
  | change c => exact .closed _ _ s.pool.shutDown
  | closeAll => exact .closed s.pool.source s.pool.settings s.pool.shutDown
  | shutdown =>
    simp only [act, Pool.shutdown]
    split
    · exact .aside rfl rfl rfl (.inl rfl)
    · exact .closed _ _ true
  | backend happen => exact .meddled rfl

end Site

end LeasePool
