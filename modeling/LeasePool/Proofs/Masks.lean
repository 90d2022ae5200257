import LeasePool.Environment
import LeasePool.Lease
import LeasePool.Pool.Change
import LeasePool.Pool.Handle
import LeasePool.Pool.Release

/-!
# Without passwords

What is left of a piece of data when its passwords are masked, and of a lease when nothing of its
fingerprint is left but whether it is the expected one. Backends react identically when a password
makes no difference to what they answer, how long that takes and what is cancelled meanwhile; so
their environments come to differ in the passwords that the journals tell of, and in nothing else.

Fingerprints are only ever compared with the expected one. So nothing is asked of the digest: what
matters is that both comparisons come out the same.

## Main definitions

* `DataSource.masked`, `Request.masked`, `Waiter.masked`, `Change.masked`, `Entry.masked`: what is
  left without passwords.
* `Lease.unstamped`, `Lease.veiled`: a lease without its fingerprint, or with what matters of it.
* `Backend.Alike`: backends that react identically.
* `Environment.Alike`: environments that differ in passwords.

## Main results

* `Environment.Alike.connect`, `Environment.Alike.ask`, `Environment.Alike.reset`,
  `Environment.Alike.probe`, `Environment.Alike.dispose`: every call is answered alike.
* `Environment.Alike.usable`: a lease is good in both environments or in neither.
-/

namespace LeasePool

/-! ### What has the same image -/

section Images

variable {α β γ : Type} {f : α → γ} {g : β → γ}

/-- Optional values with the same image are both missing, or both there. -/
theorem both_of_map_eq {x : Option α} {y : Option β} (same : x.map f = y.map g) :
    x = none ∧ y = none ∨ ∃ a b, x = some a ∧ y = some b ∧ f a = g b := by
  cases x with
  | none => exact .inl ⟨rfl, Option.map_eq_none_iff.mp same.symm⟩
  | some a =>
    obtain ⟨b, there, image⟩ := Option.map_eq_some_iff.mp same.symm
    exact .inr ⟨a, b, rfl, there, image.symm⟩

/-- Lists with the same image are both empty, or begin with elements of the same image. -/
theorem heads_of_map_eq {xs : List α} {ys : List β} (same : xs.map f = ys.map g) :
    xs = [] ∧ ys = [] ∨ ∃ a as b bs, xs = a :: as ∧ ys = b :: bs ∧ f a = g b ∧
      as.map f = bs.map g := by
  cases xs with
  | nil => exact .inl ⟨rfl, List.map_eq_nil_iff.mp same.symm⟩
  | cons a as =>
    obtain ⟨b, bs, there, image, others⟩ := List.map_eq_cons_iff.mp same.symm
    exact .inr ⟨a, as, b, bs, rfl, there, image.symm, others.symm⟩

end Images

/-! ### What is left without passwords -/

/-- Without passwords, credentials are the same user name and whether there is a password. -/
theorem Credentials.masked_eq_iff {c c' : Credentials} :
    c.masked = c'.masked ↔
      c.username = c'.username ∧ c.password.isSome = c'.password.isSome := by
  obtain ⟨username, password⟩ := c
  obtain ⟨username', password'⟩ := c'
  cases password <;> cases password' <;> simp [masked]

/-- The data source with the mask in the place of a password. -/
def DataSource.masked (d : DataSource) : DataSource :=
  { d with credentials := d.credentials.masked }

/-- An acquire with the mask in the place of its password. -/
def Request.masked (r : Request) : Request := { r with credentials := r.credentials.masked }

/-- An acquire that waits, with the mask in the place of its password. -/
def Waiter.masked (w : Waiter) : Waiter := { w with request := w.request.masked }

/-- A change with the mask in the place of a new password. -/
def Change.masked : Change → Change
  | .credentials c => .credentials c.masked
  | c => c

theorem Change.source_masked (c : Change) (d : DataSource) :
    c.masked.source d.masked = (c.source d).masked := by
  cases c <;> rfl

theorem Change.tuned_masked (c : Change) (s : Settings) : c.masked.tuned s = c.tuned s := by
  cases c <;> rfl

/-- An event with the mask in the place of a password. -/
def Event.masked : Event → Event
  | .opened id endpoint c => .opened id endpoint c.masked
  | .unopened endpoint c cause => .unopened endpoint c.masked cause
  | event => event

/-- An entry with the mask in the place of a password. -/
def Entry.masked (entry : Entry) : Entry := { entry with event := entry.event.masked }

namespace Lease

/-- A lease without its fingerprint. -/
def unstamped (l : Lease) : Lease := { l with fingerprint := .of "" {} }

/-- A lease with nothing of its fingerprint but whether it is the expected one. -/
def veiled (expected : Fingerprint) (l : Lease) : Lease × Bool :=
  (l.unstamped, l.fingerprint = expected)

variable {l l' : Lease} {f f' : Fingerprint}

theorem exists_of_unstamped (same : l.unstamped = l'.unstamped) :
    ∃ g, l' = { l with fingerprint := g } := by
  refine ⟨l'.fingerprint, ?_⟩
  cases l
  cases l'
  simpa [unstamped, eq_comm] using same

theorem unstamped_of_veiled (same : l.veiled f = l'.veiled f') : l.unstamped = l'.unstamped :=
  congrArg Prod.fst same

theorem key_of_unstamped (same : l.unstamped = l'.unstamped) : l.key = l'.key :=
  show l.unstamped.key = l'.unstamped.key by rw [same]

theorem connection_of_unstamped (same : l.unstamped = l'.unstamped) :
    l.connection = l'.connection :=
  show l.unstamped.connection = l'.unstamped.connection by rw [same]

theorem openedAt_of_unstamped (same : l.unstamped = l'.unstamped) : l.openedAt = l'.openedAt :=
  show l.unstamped.openedAt = l'.unstamped.openedAt by rw [same]

theorem heldFor_of_unstamped (same : l.unstamped = l'.unstamped) (now : Nat) :
    l.heldFor now = l'.heldFor now :=
  show l.unstamped.heldFor now = l'.unstamped.heldFor now by rw [same]

theorem matching_of_veiled (same : l.veiled f = l'.veiled f') :
    l.fingerprint = f ↔ l'.fingerprint = f' :=
  decide_eq_decide.mp (congrArg Prod.snd same)

/-- Leases under the same veil differ at most in their fingerprints, and both have the expected one
or neither has. -/
theorem exists_of_veiled (same : l.veiled f = l'.veiled f') :
    ∃ g, l' = { l with fingerprint := g } ∧ (l.fingerprint = f ↔ g = f') := by
  obtain ⟨g, rfl⟩ := exists_of_unstamped (unstamped_of_veiled same)
  exact ⟨g, rfl, matching_of_veiled same⟩

theorem veiled_of_unstamped (same : l.unstamped = l'.unstamped)
    (matching : l.fingerprint = f ↔ l'.fingerprint = f') : l.veiled f = l'.veiled f' :=
  Prod.ext same (decide_eq_decide.mpr matching)

end Lease

theorem Request.exists_of_masked {r r' : Request} (same : r.masked = r'.masked) :
    ∃ c, r' = { r with credentials := c } ∧ r.credentials.masked = c.masked := by
  refine ⟨r'.credentials, ?_, congrArg Request.credentials same⟩
  cases r
  cases r'
  simp only [masked, Request.mk.injEq] at same ⊢
  simp [same]

theorem Waiter.exists_of_masked {w w' : Waiter} (same : w.masked = w'.masked) :
    ∃ c, w' = { w with request.credentials := c } ∧ w.request.credentials.masked = c.masked := by
  obtain ⟨c, request, masked⟩ := Request.exists_of_masked (congrArg Waiter.request same)
  refine ⟨c, ?_, masked⟩
  cases w
  cases w'
  simp only [Waiter.masked, Waiter.mk.injEq] at same request ⊢
  simp [same, request]

variable {σ τ : Type} {R : σ → τ → Prop}

/-! ### Backends -/

/-- Replies with the same answer, after the same time and the same cancellations, that lead to
related states. -/
structure Reply.Alike {α : Type} (R : σ → τ → Prop) (x : Reply σ α) (y : Reply τ α) : Prop where
  answer : x.answer = y.answer
  next : R x.next y.next
  latency : x.latency = y.latency
  cancelled : x.cancelled = y.cancelled

/-- Backends that react identically in related states, whatever the passwords are. -/
structure Backend.Alike (R : σ → τ → Prop) (b : Backend σ) (b' : Backend τ) : Prop where
  connect : ∀ {state state'}, R state state' → ∀ id endpoint {c c' : Credentials},
    c.masked = c'.masked →
      (b.connect state id endpoint c).Alike R (b'.connect state' id endpoint c')
  ask : ∀ {state state'}, R state state' → ∀ id operation,
    (b.ask state id operation).Alike R (b'.ask state' id operation)

variable {b : Backend σ} {b' : Backend τ}

/-! ### Environments -/

namespace Environment

/-- Environments that differ in the passwords that their journals tell of. -/
structure Alike (R : σ → τ → Prop) (e : Environment σ) (e' : Environment τ) : Prop where
  backend : R e.backend e'.backend
  clock : e.clock = e'.clock
  cancelled : e.cancelled = e'.cancelled
  journal : e.journal.map Entry.masked = e'.journal.map Entry.masked

/-- The same answer, in environments that are alike. -/
inductive Agree {α : Type} (R : σ → τ → Prop) : α × Environment σ → α × Environment τ → Prop
  | intro (answer : α) {e : Environment σ} {e' : Environment τ} (alike : e.Alike R e') :
      Agree R (answer, e) (answer, e')

variable {e : Environment σ} {e' : Environment τ}

theorem Agree.snd {α : Type} {x : α × Environment σ} {y : α × Environment τ}
    (agree : Agree R x y) : x.2.Alike R y.2 := by
  obtain ⟨_, alike⟩ := agree
  exact alike

theorem Alike.record_of_masked {event event' : Event} (alike : e.Alike R e')
    (same : event.masked = event'.masked) : (e.record event).Alike R (e'.record event') :=
  { alike with
    journal := by
      simp only [Environment.record, List.map_cons, Entry.masked, alike.journal, alike.clock,
        same] }

theorem Alike.record (alike : e.Alike R e') (event : Event) :
    (e.record event).Alike R (e'.record event) :=
  alike.record_of_masked rfl

theorem Alike.after {α : Type} {x : Reply σ α} {y : Reply τ α} (alike : e.Alike R e')
    (reply : x.Alike R y) : (e.after x).Alike R (e'.after y) where
  backend := reply.next
  clock := by simp only [Environment.after, alike.clock, reply.latency]
  cancelled := by simp only [Environment.after, alike.cancelled, reply.cancelled]
  journal := alike.journal

variable (react : Backend.Alike R b b')
include react

theorem Alike.connect (alike : e.Alike R e') (id : Nat) (endpoint : String) {c c' : Credentials}
    (same : c.masked = c'.masked) :
    Agree R (e.connect b id endpoint c) (e'.connect b' id endpoint c') := by
  have reply := react.connect alike.backend id endpoint same
  simp only [Environment.connect, reply.answer]
  refine .intro _ ((alike.after reply).record_of_masked ?_)
  -- whether it succeeds or fails, the event names the credentials
  split <;> simp [Event.masked, same]

theorem Alike.ask (alike : e.Alike R e') (party : Party) (id : Nat) (operation : Operation) :
    Agree R (e.ask b party id operation) (e'.ask b' party id operation) := by
  have reply := react.ask alike.backend id operation
  simp only [Environment.ask, reply.answer]
  exact .intro _ ((alike.after reply).record _)

theorem Alike.reset (alike : e.Alike R e') (id : Nat) :
    Agree R (e.reset b id) (e'.reset b' id) := by
  have asked := alike.ask react .pool id .autoCommit
  unfold Environment.reset
  generalize e.ask b .pool id .autoCommit = x at asked
  generalize e'.ask b' .pool id .autoCommit = y at asked
  obtain ⟨answer, alike⟩ := asked
  rcases answer with cause | _ | _
  · exact .intro _ alike
  · exact alike.ask react .pool id .rollback
  · exact .intro _ alike

theorem Alike.probe (alike : e.Alike R e') (id : Nat) (query : String) :
    Agree R (e.probe b id query) (e'.probe b' id query) := by
  have asked := alike.ask react .pool id (.execute query)
  unfold Environment.probe
  generalize e.ask b .pool id (.execute query) = x at asked
  generalize e'.ask b' .pool id (.execute query) = y at asked
  obtain ⟨answer, alike⟩ := asked
  rcases answer with cause | _
  · exact .intro _ (alike.ask react .pool id .close).snd
  · have reset := alike.reset react id
    dsimp only
    generalize Environment.reset b _ id = x at reset
    generalize Environment.reset b' _ id = y at reset
    obtain ⟨answer, alike⟩ := reset
    rcases answer with cause | _
    · exact .intro _ (alike.ask react .pool id .close).snd
    · exact .intro _ alike

theorem Alike.dispose (alike : e.Alike R e') (id : Nat) :
    (e.dispose b id).Alike R (e'.dispose b' id) := by
  have asked := alike.ask react .pool id .isClosed
  unfold Environment.dispose
  generalize e.ask b .pool id .isClosed = x at asked
  generalize e'.ask b' .pool id .isClosed = y at asked
  obtain ⟨answer, alike⟩ := asked
  cases answer with
  | true => exact alike
  | false => exact ((alike.reset react id).snd.ask react .pool id .close).snd

theorem Alike.restore (alike : e.Alike R e') (id : Nat) :
    Agree R (Pool.restore b e id) (Pool.restore b' e' id) := by
  have asked := alike.ask react .pool id .isClosed
  unfold Pool.restore
  generalize e.ask b .pool id .isClosed = x at asked
  generalize e'.ask b' .pool id .isClosed = y at asked
  obtain ⟨answer, alike⟩ := asked
  cases answer with
  | true => exact .intro _ alike
  | false => exact alike.reset react id

theorem Alike.performAll (alike : e.Alike R e') (id : Nat) (operations : List Operation) :
    Agree R (Pool.performAll b id operations e) (Pool.performAll b' id operations e') := by
  induction operations generalizing e e' with
  | nil => exact .intro [] alike
  | cons operation rest ih =>
    have asked := alike.ask react .holder id operation
    unfold Pool.performAll
    generalize e.ask b .holder id operation = x at asked
    generalize e'.ask b' .holder id operation = y at asked
    obtain ⟨answer, alike⟩ := asked
    have others := ih alike
    dsimp only
    generalize Pool.performAll b id rest _ = x at others
    generalize Pool.performAll b' id rest _ = y at others
    obtain ⟨answers, alike⟩ := others
    exact .intro _ alike

/-- Leases of which both have the expected fingerprint or neither are good in both environments or
in neither. Once they are revoked, their fingerprints do not matter. -/
theorem Alike.usable {l l' : Lease} {f f' : Fingerprint} (alike : e.Alike R e') (s : Settings)
    (revoked : List Nat) (same : l.unstamped = l'.unstamped)
    (matching : l.key ∉ revoked → (l.fingerprint = f ↔ l'.fingerprint = f')) :
    Agree R (l.usable b s f revoked e) (l'.usable b' s f' revoked e') := by
  have bothOver : l.key ∈ revoked ∨ l.fingerprint ≠ f ↔ l'.key ∈ revoked ∨ l'.fingerprint ≠ f' := by
    rw [← Lease.key_of_unstamped same]
    by_cases isOver : l.key ∈ revoked
    · simp [isOver]
    · simp [isOver, matching isOver]
  obtain ⟨g, rfl⟩ := Lease.exists_of_unstamped same
  unfold Lease.usable
  by_cases isOver : l.key ∈ revoked ∨ l.fingerprint ≠ f
  · rw [if_pos isOver, if_pos (bothOver.mp isOver)]
    exact .intro _ alike
  · rw [if_neg isOver, if_neg (mt bothOver.mpr isOver)]
    have asked := alike.ask react .pool l.connection .isClosed
    dsimp only
    generalize e.ask b .pool l.connection .isClosed = x at asked
    generalize e'.ask b' .pool l.connection .isClosed = y at asked
    obtain @⟨answer, e, e', alike⟩ := asked
    cases answer with
    | true => exact .intro _ alike
    | false =>
      dsimp only
      have due : { l with fingerprint := g }.ProbeDue s e'.clock ↔ l.ProbeDue s e.clock := by
        rw [alike.clock]
        rfl
      split
      · rename_i probed
        rw [if_pos (due.mpr probed)]
        exact alike.probe react l.connection s.pingQuery
      · rename_i trusted
        rw [if_neg (mt due.mp trusted)]
        exact .intro _ alike

end Environment

end LeasePool
