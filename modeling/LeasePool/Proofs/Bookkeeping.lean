import LeasePool.Proofs.Finality
import LeasePool.Proofs.Ledger
import LeasePool.Proofs.Moments

/-!
# The statistics are a ledger of what happened

Wherever a pool notes something in its journal that counts, it brings its statistics up to date, and
nowhere else. So at every reachable site the statistics are exactly what the journal yields, however
acquires ended and however often they waited or turned down a connection.

The journal in turn tells what callers saw: an acquire that begins, waits, runs on, fails or gets a
connection, a lease that was handed back valid or not, the leases that were lost when everything was
closed. And it tells what no caller sees: which candidates failed their check, one after the other.

## Main definitions

* `Environment.decisions`: the journal without the calls on the backend.
* `Pool.account`: the account of a pool.
* `Site.Balanced`: the statistics are what the journal yields, each of them.
* `Site.shows`, `Pool.seen`: what the caller sees of an action; what callers saw, says the journal.
* `Pool.turnedDown`, `Site.NotesFailures`: the connections that were turned down, says the journal;
  of an action these are the candidates that failed their check.

## Main results

* `Pool.Asking.seek`, `Site.sound_act`: searches and actions leave accounts sound.
* `Site.Reachable.seen_act`: the journal tells what callers see, action by action.
* `Pool.turnedDown_seek`: a search notes exactly the candidates that failed their check.
* `Site.Reachable.balanced`: the statistics are what the journal yields, and the journal tells what
  callers saw and which candidates failed.
-/

namespace LeasePool

/-- A caller sees the event: an acquire begins, waits, runs on, fails or gets a connection, or a
lease ends because it is handed back or everything is closed. -/
@[simp] def Event.isSeen : Event → Bool
  | .begun _ | .parked _ | .resumed _ | .handedOut .. | .failed .. => true
  | .returned _ | .spurned _ | .withdrawn _ => true
  | _ => false

/-- The event with which a search ends. -/
def Acquired.event (name : String) : Acquired → Event
  | .granted l => .handedOut name l.connection
  | .failed cause => .failed name cause
  | .waiting => .parked name

/-- What an acquire tells its caller after a first event, the latest event first. It tells nothing
if it never began. -/
def Outcome.events (name : String) (first : Event) : Outcome → List Event
  | .leased n => [.handedOut name n, first]
  | .failed cause => [.failed name cause, first]
  | .waiting => [.parked name, first]
  | _ => []

namespace Environment

variable {σ : Type} {e e' : Environment σ} {n : Nat} {made : List Call}

/-- The journal without the calls on the backend, the latest entry first. -/
def decisions (e : Environment σ) : List Entry := e.journal.filter fun entry => !entry.event.isCall

/-- Calls on a connection are no decisions. -/
theorem decisions_of_called (later : e.Later e') (called : Called n made e e') :
    e'.decisions = e.decisions :=
  filter_of_called (fun event => !event.isCall) (fun _ _ => rfl) later called

theorem decisions_of_events (later : e.Later e') (same : e'.events = e.events) :
    e'.decisions = e.decisions :=
  have called : Called 0 [] e e' := same
  decisions_of_called later called

variable (b : Backend σ)

theorem decisions_connect {id : Nat} {endpoint : String} {credentials : Credentials}
    {answer : Except BackendError Unit}
    (connected : e.connect b id endpoint credentials = (answer, e')) :
    e'.decisions = e.decisions := by
  obtain ⟨answered, rfl⟩ := Prod.mk.inj connected
  cases answer <;> simp only [answered] <;> rfl

theorem decisions_reset (e : Environment σ) (n : Nat) :
    (e.reset b n).2.decisions = e.decisions := by
  obtain ⟨made, -, called⟩ := e.called_reset b n
  exact decisions_of_called (e.used_reset b n).toLater called

theorem decisions_dispose (e : Environment σ) (n : Nat) :
    (e.dispose b n).decisions = e.decisions := by
  obtain ⟨made, -, called⟩ := e.called_dispose b n
  exact decisions_of_called (e.used_dispose b n).toLater called

end Environment

namespace Pool

open Ledger

variable {σ : Type} {b : Backend σ} {p q : Pool σ} {r : Request} {l : Lease} {waited : Bool}
  {held : List Lease}

/-- The journal without the calls on the backend, the latest entry first. -/
def decisions (p : Pool σ) : List Entry := p.environment.decisions

/-- The statistics of a pool beside its journal. -/
def account (p : Pool σ) : Account := ⟨p.statistics, p.decisions, p.active, p.waiters⟩

theorem decisions_usable (b : Backend σ) (p : Pool σ) (l : Lease) :
    (p.usable b l).2.decisions = p.decisions := by
  obtain ⟨made, -, called⟩ :=
    p.environment.called_usable b l p.settings p.expected p.revoked
  exact Environment.decisions_of_called (p.used_usable b l).toLater called

theorem decisions_of_checked {good : Bool} (checked : p.usable b l = (good, q)) :
    q.decisions = p.decisions := by
  obtain rfl : (p.usable b l).2 = q := congrArg Prod.snd checked
  exact p.decisions_usable b l

theorem decisions_destroy (b : Backend σ) (p : Pool σ) (l : Lease) :
    (p.destroy b l).decisions = p.decisions :=
  p.environment.decisions_dispose b l.connection

theorem decisions_discard (b : Backend σ) (p : Pool σ) (l : Lease) :
    (p.discard b l).decisions = ⟨p.now, .discarded l.connection⟩ :: p.decisions :=
  (p.environment.record (.discarded l.connection)).decisions_dispose b l.connection

theorem decisions_seize (b : Backend σ) (p : Pool σ) (oldest : Lease) (rest : List Lease) :
    (p.seize b oldest rest).2.decisions =
      ⟨p.now, .reclaimed oldest.connection⟩ :: p.decisions :=
  (p.environment.record (.reclaimed oldest.connection)).decisions_reset b oldest.connection

/-- To find a candidate notes at most that a lease was taken from its holder. -/
theorem decisions_candidate {c : Credentials} {out : Except BackendError (Option Lease)}
    (found : p.candidate b c = (out, q)) :
    q.decisions = p.decisions ∨ ∃ time n, q.decisions = ⟨time, .reclaimed n⟩ :: p.decisions := by
  cases found_of_candidate b found with
  | idle | nothing => exact .inl rfl
  | opened _ _ connected => exact .inl (Environment.decisions_connect b connected)
  | unopened _ _ refused => exact .inl (Environment.decisions_connect b refused)
  | overdue => exact .inr ⟨_, _, p.decisions_seize b _ _⟩

theorem decisions_handOut (b : Backend σ) (p : Pool σ) (r : Request) (l : Lease) :
    (p.handOut b r l).2.decisions =
      ⟨(p.handOut b r l).2.now, .handedOut r.name l.connection⟩ :: p.decisions :=
  congrArg (List.cons _) (p.environment.decisions_reset b l.connection)

theorem decisions_takeBack (b : Backend σ) (p : Pool σ) (l : Lease) :
    (p.takeBack b l).decisions = p.decisions := by
  obtain ⟨made, called⟩ := called_takeBack b p l
  exact Environment.decisions_of_called (used_takeBack b p l).toLater called

theorem decisions_release (b : Backend σ) (p : Pool σ) (l : Lease) :
    (p.release b l).decisions =
      ⟨p.now, if p.IsValid l then .returned l.connection else .spurned l.connection⟩ ::
        p.decisions := by
  by_cases valid : p.IsValid l
  · rw [if_pos valid, release_of_valid b valid, decisions, environment_notifyOne]
    exact ((p.dropActive l).noteReturn l).decisions_takeBack b l
  · rw [if_neg valid, release_of_revoked b valid]
    rfl

@[simp] theorem account_notifyOne (p : Pool σ) : p.notifyOne.account = p.account := by
  unfold account
  rw [waiters_notifyOne, decisions, environment_notifyOne]
  unfold notifyOne
  split <;> rfl

theorem statistics_takeBack (b : Backend σ) (p : Pool σ) (l : Lease) :
    (p.takeBack b l).statistics = p.statistics := by
  unfold takeBack
  split
  · split <;> rfl
  · rfl

/-- To close everything is to take the leases from their holders, the youngest first. -/
theorem decisions_closeAll (b : Backend σ) (p : Pool σ) :
    ∃ since, (p.closeAll b).decisions = since ++ p.decisions ∧
      since.map Entry.event = p.active.map fun l => .withdrawn l.connection := by
  have withdrawn (ls : List Lease) (p : Pool σ) :
      ∃ since, (ls.foldl (withdraw b) p).decisions = since ++ p.decisions ∧
        since.map Entry.event = ls.reverse.map fun l => .withdrawn l.connection := by
    induction ls generalizing p with
    | nil => exact ⟨[], rfl, rfl⟩
    | cons l ls ih =>
      obtain ⟨since, entries, events⟩ := ih (p.withdraw b l)
      have first : (p.withdraw b l).decisions = ⟨p.now, .withdrawn l.connection⟩ :: p.decisions :=
        (p.environment.record (.withdrawn l.connection)).decisions_dispose b l.connection
      refine ⟨since ++ [⟨p.now, .withdrawn l.connection⟩], ?_, ?_⟩
      · rw [List.foldl_cons, entries, first, List.append_assoc]
        rfl
      · rw [List.map_append, events, List.reverse_cons, List.map_append]
        rfl
  obtain ⟨since, entries, events⟩ := withdrawn p.active.reverse p.vacated
  refine ⟨since, ?_, by rw [events, List.reverse_reverse]⟩
  exact (foldl_kept decisions (destroy b) (fun p l => p.decisions_destroy b l) _ _).trans entries

/-! ### Searching -/

/-- An acquire searches a pool with a sound account. -/
structure Asking (p : Pool σ) (r : Request) (waited : Bool) : Prop where
  sound : p.account.Sound
  searches : Account.Searches p.decisions r waited
  free : ∀ w ∈ p.waiters, w.request.name ≠ r.name

/-- What matters to a search is the account. -/
theorem Asking.congr (asking : p.Asking r waited) (same : q.account = p.account) :
    q.Asking r waited where
  sound := same ▸ asking.sound
  searches := by
    have decisions : q.decisions = p.decisions := congrArg Account.entries same
    exact decisions ▸ asking.searches
  free := by
    have waiters : q.waiters = p.waiters := congrArg Account.waiters same
    exact waiters ▸ asking.free

theorem Asking.found {c : Credentials} {out : Except BackendError (Option Lease) × Pool σ}
    (asking : p.Asking r waited) (orderly : p.Orderly [] held) (found : Found b c p out) :
    out.2.Asking r waited := by
  cases found with
  | idle | nothing => exact asking.congr rfl
  | opened _ _ connected =>
    exact asking.congr (by simp only [account, decisions, waiters,
      Environment.decisions_connect b connected])
  | unopened _ _ refused =>
    exact asking.congr (by simp only [account, decisions, waiters,
      Environment.decisions_connect b refused])
  | @overdue oldest rest _ _ isHeld =>
    have entries := p.decisions_seize b oldest rest
    have whole : p.account.active = [] ++ oldest :: rest := isHeld
    have sound := asking.sound.reclaim p.now whole orderly.sound.active_connections
    refine ⟨?_, ?_, asking.free⟩
    · unfold account
      rw [entries]
      exact sound
    · rw [entries]
      exact asking.searches.note (by simp) (by simp)

theorem Asking.candidate {c : Credentials} {out : Except BackendError (Option Lease)}
    (asking : p.Asking r waited) (orderly : p.Orderly [] held)
    (found : p.candidate b c = (out, q)) : q.Asking r waited :=
  asking.found orderly (found_of_candidate b found)

theorem Asking.checked {good : Bool} (asking : p.Asking r waited)
    (checked : p.usable b l = (good, q)) : q.Asking r waited := by
  have entries := p.decisions_usable b l
  obtain rfl : (p.usable b l).2 = q := congrArg Prod.snd checked
  refine asking.congr ?_
  unfold account
  rw [entries]
  rfl

theorem Asking.discard (asking : p.Asking r waited) : (p.discard b l).Asking r waited := by
  have entries := p.decisions_discard b l
  refine ⟨?_, ?_, asking.free⟩
  · unfold account
    rw [entries]
    exact asking.sound.discard l.connection
  · rw [entries]
    exact asking.searches.note nofun nofun

theorem Asking.round (asking : p.Asking r waited) (orderly : p.Orderly [] held)
    (round : Round b r p q) : q.Asking r waited := by
  obtain ⟨l, taken, checked, -, -, found, bad⟩ := round
  exact ((asking.candidate orderly found).checked bad).discard

theorem Asking.rounds {n : Nat} (asking : p.Asking r waited) (orderly : p.Orderly [] held)
    (rounds : Rounds b r n p q) : q.Orderly [] held ∧ q.Asking r waited := by
  apply rounds.keeps b (P := fun t => t.Orderly [] held ∧ t.Asking r waited)
  · intro t t' round ⟨atRound, asking⟩
    exact ⟨atRound.round b round, asking.round atRound round⟩
  · exact ⟨orderly, asking⟩

theorem Asking.fail (asking : p.Asking r waited) (cause : PoolError) :
    (p.fail r cause).2.account.Sound := asking.sound.fail cause

theorem Asking.ending {discarded : Nat} {out : Acquired × Pool σ} (asking : p.Asking r waited)
    (orderly : p.Orderly [] held) (ending : Ending b r waited discarded p out) :
    out.2.account.Sound := by
  cases ending with
  | closed | interrupted => exact asking.fail _
  | refused _ _ found => exact (asking.candidate orderly found).fail _
  | @waiting q _ _ found =>
    have there := asking.candidate orderly found
    have sound := there.sound.park (w := ⟨r, discarded, q.now, q.deadline?⟩) there.searches
      there.free
    have waiters : (q.park r waited discarded).waiters =
        q.waiters ++ [⟨r, discarded, q.now, q.deadline?⟩] := by
      simp [Pool.waiters, park, record]
    unfold account
    rw [waiters]
    exact sound
  | granted l taken checked _ _ found good =>
    have inHand : taken.Orderly [l] held := orderly.candidate b found
    have atLast : checked.Orderly [l] held := inHand.usable b good
    have there := (asking.candidate orderly found).checked good
    have entries := checked.decisions_handOut b r l
    -- the candidate is none of the active leases
    have connections := atLast.sound.distinct.connections
    simp only [Custody.live, List.map_append, List.map_cons, List.singleton_append,
      List.nodup_cons, List.mem_append, not_or] at connections
    have apart : ∀ l' ∈ checked.active, l'.connection ≠ l.connection := fun l' active same =>
      connections.1.2 (List.mem_map.mpr ⟨l', active, same⟩)
    have sound := there.sound.handOut (l := (checked.handOut b r l).1) there.searches there.free
      apart rfl
    unfold account
    rw [entries]
    exact sound

/-- A search leaves an account sound. -/
theorem Asking.seek (asking : p.Asking r waited) (orderly : p.Orderly [] held)
    (spare discarded : Nat) : (Pool.seek b r waited spare discarded p).2.account.Sound := by
  obtain ⟨n, q, rounds, ending⟩ := rounds_seek b r waited spare discarded p
  obtain ⟨atLast, there⟩ := asking.rounds orderly rounds
  rcases ending with ⟨-, ending⟩ | ⟨-, failed⟩
  · exact there.ending atLast ending
  · rw [failed]
    exact there.fail _

/-! ### What callers see -/

/-- What callers have seen, says the journal, the latest first. -/
def seen (p : Pool σ) : List Event := (p.decisions.map Entry.event).filter Event.isSeen

/-- Callers see nothing of an entry that is no decision to them. -/
theorem seen_of_decisions (since : List Entry) (entries : q.decisions = since ++ p.decisions) :
    q.seen = (since.map Entry.event).filter Event.isSeen ++ p.seen := by
  rw [seen, entries, List.map_append, List.filter_append]
  rfl

theorem seen_candidate {c : Credentials} {out : Except BackendError (Option Lease)}
    (found : p.candidate b c = (out, q)) : q.seen = p.seen := by
  rcases decisions_candidate found with same | ⟨_, _, noted⟩
  · exact seen_of_decisions [] same
  · exact seen_of_decisions [_] noted

theorem seen_of_checked {good : Bool} (checked : p.usable b l = (good, q)) : q.seen = p.seen :=
  seen_of_decisions [] (decisions_of_checked checked)

theorem seen_round (round : Round b r p q) : q.seen = p.seen := by
  obtain ⟨l, taken, checked, -, -, found, bad⟩ := round
  have discarded : (checked.discard b l).seen = checked.seen :=
    seen_of_decisions [_] (checked.decisions_discard b l)
  exact discarded.trans ((seen_of_checked bad).trans (seen_candidate found))

theorem seen_ending {discarded : Nat} {out : Acquired × Pool σ}
    (ending : Ending b r waited discarded p out) : out.2.seen = out.1.event r.name :: p.seen := by
  cases ending with
  | closed | interrupted => rfl
  | refused _ _ found => exact congrArg (List.cons _) (seen_candidate found)
  | waiting _ _ found => exact congrArg (List.cons _) (seen_candidate found)
  | granted l taken checked _ _ found good =>
    rw [seen_of_decisions [_] (checked.decisions_handOut b r l), seen_of_checked good,
      seen_candidate found]
    rfl

/-- Of a search its caller sees how it ends. -/
theorem seen_seek (b : Backend σ) (r : Request) (waited : Bool) (spare discarded : Nat)
    (p : Pool σ) : (seek b r waited spare discarded p).2.seen =
      (seek b r waited spare discarded p).1.event r.name :: p.seen := by
  obtain ⟨n, q, rounds, ending⟩ := rounds_seek b r waited spare discarded p
  have atLast : q.seen = p.seen :=
    rounds.keeps b (fun _ _ round before => (seen_round round).trans before) rfl
  rw [← atLast]
  rcases ending with ⟨-, ending⟩ | ⟨-, failed⟩
  · exact seen_ending ending
  · rw [failed]
    rfl

/-- Whoever hands back a lease sees whether it was valid. -/
theorem seen_release (b : Backend σ) (p : Pool σ) (l : Lease) :
    (p.release b l).seen =
      (if p.IsValid l then .returned l.connection else .spurned l.connection) :: p.seen := by
  rw [seen_of_decisions [_] (p.decisions_release b l)]
  split <;> rfl

theorem seen_closeAll (b : Backend σ) (p : Pool σ) :
    (p.closeAll b).seen = (p.active.map fun l => .withdrawn l.connection) ++ p.seen := by
  obtain ⟨since, entries, events⟩ := p.decisions_closeAll b
  rw [seen_of_decisions since entries, events, List.filter_eq_self.mpr]
  intro event there
  obtain ⟨l, -, rfl⟩ := List.mem_map.mp there
  rfl

/-! ### What is turned down -/

/-- The connections that were turned down, says the journal, the latest first. -/
def turnedDown (p : Pool σ) : List Nat := numbers Event.discarded? p.decisions

/-- Nothing is turned down but where an entry tells so. -/
theorem turnedDown_of_decisions (since : List Entry)
    (entries : q.decisions = since ++ p.decisions) :
    q.turnedDown = numbers Event.discarded? since ++ p.turnedDown := by
  rw [turnedDown, entries, numbers_append]
  rfl

theorem turnedDown_candidate {c : Credentials} {out : Except BackendError (Option Lease)}
    (found : p.candidate b c = (out, q)) : q.turnedDown = p.turnedDown := by
  rcases decisions_candidate found with same | ⟨_, _, noted⟩
  · exact turnedDown_of_decisions [] same
  · exact turnedDown_of_decisions [_] noted

theorem turnedDown_of_checked {good : Bool} (checked : p.usable b l = (good, q)) :
    q.turnedDown = p.turnedDown :=
  turnedDown_of_decisions [] (decisions_of_checked checked)

/-- A candidate that fails its check is noted as turned down, and nothing else is. -/
theorem turnedDown_of_bad {c : Credentials} {taken checked : Pool σ}
    (found : p.candidate b c = (.ok (some l), taken)) (bad : taken.usable b l = (false, checked)) :
    (checked.discard b l).turnedDown = l.connection :: p.turnedDown := by
  rw [← turnedDown_candidate found, ← turnedDown_of_checked bad]
  exact turnedDown_of_decisions [_] (checked.decisions_discard b l)

/-- After so many rounds a search comes to a connection that fails its check. -/
inductive FailsCheck (b : Backend σ) (r : Request) (p : Pool σ) (k n : Nat) : Prop
  | intro (q : Pool σ) (l : Lease) (taken checked : Pool σ) (rounds : Rounds b r k p q)
      (serving : q.shutDown = false) (wanted : q.isCancelled r.token = false)
      (found : q.candidate b r.credentials = (.ok (some l), taken))
      (bad : taken.usable b l = (false, checked)) (same : l.connection = n)

/-- What fails some rounds after a first one fails one round later than that. -/
theorem FailsCheck.round {k n : Nat} (first : Round b r p q) (fails : FailsCheck b r q k n) :
    FailsCheck b r p (k + 1) n := by
  obtain ⟨t, l, taken, checked, rounds, serving, wanted, found, bad, same⟩ := fails
  exact .intro t l taken checked (.more first rounds) serving wanted found bad same

/-- Of some rounds it is noted which connections failed, the last one first. -/
theorem turnedDown_rounds {n : Nat} (rounds : Rounds b r n p q) :
    ∃ bad : List Nat, bad.length = n ∧ q.turnedDown = bad.reverse ++ p.turnedDown ∧
      ∀ k m, bad[k]? = some m → FailsCheck b r p k m := by
  induction rounds with
  | none => exact ⟨[], rfl, rfl, fun _ _ there => by simp at there⟩
  | @more n p q t first others ih =>
    obtain ⟨bad, length, noted, failed⟩ := ih
    obtain ⟨l, taken, checked, serving, wanted, found, isBad⟩ := first
    have round : Round b r p (checked.discard b l) := .intro l _ _ serving wanted found isBad
    refine ⟨l.connection :: bad, congrArg (· + 1) length, ?_, fun k m there => ?_⟩
    · rw [noted, turnedDown_of_bad found isBad]
      simp
    · cases k with
      | zero =>
        exact .intro p l taken checked .none serving wanted found isBad (by simpa using there)
      | succ k => exact (failed k m there).round round

theorem turnedDown_ending {discarded : Nat} {out : Acquired × Pool σ}
    (ending : Ending b r waited discarded p out) : out.2.turnedDown = p.turnedDown := by
  cases ending with
  | closed | interrupted => rfl
  | refused _ _ found | waiting _ _ found =>
    have kept := turnedDown_candidate found
    exact kept
  | granted l taken checked _ _ found good =>
    rw [turnedDown_of_decisions [_] (checked.decisions_handOut b r l), turnedDown_of_checked good,
      turnedDown_candidate found]
    rfl

/-- A search notes no connection that did not fail. -/
theorem fails_of_seek (b : Backend σ) (r : Request) (waited : Bool) (spare discarded : Nat)
    (p : Pool σ) : ∃ bad : List Nat,
      (seek b r waited spare discarded p).2.turnedDown = bad.reverse ++ p.turnedDown ∧
        ∀ k m, bad[k]? = some m → k ≤ spare ∧ FailsCheck b r p k m := by
  obtain ⟨n, q, rounds, ending⟩ := rounds_seek b r waited spare discarded p
  obtain ⟨bad, length, noted, failed⟩ := turnedDown_rounds rounds
  have few : n ≤ spare + 1 := by
    rcases ending with ⟨few, -⟩ | ⟨many, -⟩
    · exact Nat.le_succ_of_le few
    · exact Nat.le_of_eq many
  have atLast : (seek b r waited spare discarded p).2.turnedDown = q.turnedDown := by
    rcases ending with ⟨-, ending⟩ | ⟨-, exhausted⟩
    · exact turnedDown_ending ending
    · rw [exhausted]
      rfl
  refine ⟨bad, atLast.trans noted, fun k m there => ⟨?_, failed k m there⟩⟩
  -- also where the search goes through one round too many, that is the last one
  obtain ⟨early, -⟩ := List.getElem?_eq_some_iff.mp there
  omega

/-- A search notes exactly the connections that failed, in the order in which it came to them. -/
theorem turnedDown_seek (b : Backend σ) (r : Request) (waited : Bool) (spare discarded : Nat)
    (p : Pool σ) : ∃ bad : List Nat,
      (seek b r waited spare discarded p).2.turnedDown = bad.reverse ++ p.turnedDown ∧
        ∀ k m, bad[k]? = some m ↔ k ≤ spare ∧ FailsCheck b r p k m := by
  obtain ⟨bad, noted, failed⟩ := fails_of_seek b r waited spare discarded p
  refine ⟨bad, noted, fun k m => ⟨failed k m, fun ⟨few, fails⟩ => ?_⟩⟩
  obtain ⟨q, l, taken, checked, rounds, serving, wanted, found, isBad, rfl⟩ := fails
  have round : Round b r q (checked.discard b l) := .intro l _ _ serving wanted found isBad
  obtain ⟨before, length, notedBefore, -⟩ := turnedDown_rounds rounds
  -- what the search does after the round only adds to what is noted
  have after : ∃ since : List Nat, (seek b r waited spare discarded p).2.turnedDown =
      since.reverse ++ (checked.discard b l).turnedDown := by
    rw [seek_of_rounds b rounds (Nat.le_succ_of_le few), if_pos few, seek_of_round b _ round]
    split
    · obtain ⟨since, notedSince, -⟩ :=
        fails_of_seek b r waited (spare - k - 1) (discarded + k + 1) (checked.discard b l)
      exact ⟨since, notedSince⟩
    · exact ⟨[], rfl⟩
  obtain ⟨since, notedSince⟩ := after
  have whole : bad = before ++ l.connection :: since := by
    rw [noted, turnedDown_of_bad found isBad, notedBefore] at notedSince
    have reversed : bad.reverse = since.reverse ++ l.connection :: before.reverse :=
      List.append_cancel_right (notedSince.trans (List.append_assoc _ (_ :: _) _).symm)
    simpa using congrArg List.reverse reversed
  rw [whole, ← length, List.getElem?_append_right (Nat.le_refl _), Nat.sub_self]
  rfl

theorem turnedDown_release (b : Backend σ) (p : Pool σ) (l : Lease) :
    (p.release b l).turnedDown = p.turnedDown := by
  rw [turnedDown_of_decisions [_] (p.decisions_release b l)]
  split <;> rfl

theorem turnedDown_closeAll (b : Backend σ) (p : Pool σ) :
    (p.closeAll b).turnedDown = p.turnedDown := by
  obtain ⟨since, entries, events⟩ := p.decisions_closeAll b
  have none : numbers Event.discarded? since = [] := by
    have told : (since.map Entry.event).filterMap Event.discarded? =
        numbers Event.discarded? since := List.filterMap_map
    rw [← told, events, List.filterMap_map]
    exact List.filterMap_eq_nil_iff.mpr fun _ _ => rfl
  rw [turnedDown_of_decisions since entries, none, List.nil_append]

theorem Starts.turnedDown (starts : p.Starts q) : q.turnedDown = p.turnedDown := by
  cases starts with
  | begun | woken => rfl

/-! ### Handing back and closing everything -/

/-- To hand back a lease leaves an account sound. -/
theorem sound_release (b : Backend σ) (sound : p.account.Sound) (orderly : p.Orderly [] held)
    (isHeld : l ∈ held) : (p.release b l).account.Sound := by
  by_cases valid : p.IsValid l
  · have active : l ∈ p.active := orderly.sound.active_of_held l isHeld valid
    obtain ⟨before, after, whole, rest⟩ := split_dropActive orderly.sound active
    have entries := ((p.dropActive l).noteReturn l).decisions_takeBack b l
    have given := sound.giveBack p.now whole orderly.sound.active_connections
    have same : (p.release b l).account =
        { p.account with
          statistics.checkoutTime := p.statistics.checkoutTime + l.heldFor p.now
          entries := ⟨p.now, .returned l.connection⟩ :: p.decisions
          active := before ++ after } := by
      rw [release_of_valid b valid, account_notifyOne, account, entries, active_takeBack,
        waiters_of_queues (queues_takeBack b _ l), statistics_takeBack]
      exact congrArg (fun active => Account.mk _ _ active _) rest
    rw [same]
    exact given
  · rw [release_of_revoked b valid, dropActive_of_revoked orderly.sound valid]
    exact sound.spurn l.connection

/-- To close everything leaves an account sound. -/
theorem sound_closeAll (b : Backend σ) (sound : p.account.Sound)
    (custody : p.custody.Sound [] held) : (p.closeAll b).account.Sound := by
  obtain ⟨since, entries, events⟩ := p.decisions_closeAll b
  have statistics : (p.closeAll b).statistics = p.statistics :=
    (foldl_kept Pool.statistics (destroy b) (fun _ _ => rfl) _ _).trans
      (foldl_kept Pool.statistics (withdraw b) (fun _ _ => rfl) _ p.vacated)
  have active : (p.closeAll b).active = [] := congrArg Custody.active (custody_clear b p)
  have whole : p.account.active = [] ++ p.active := rfl
  have withdrawn := sound.withdrawAll whole custody.active_connections events
  unfold account
  rw [statistics, entries, active, waiters_closeAll]
  exact withdrawn

end Pool

namespace Site

open Ledger

variable {σ : Type} {b : Backend σ} {allowed : Site σ → Action σ → Prop} {s : Site σ}

theorem account_new (source : DataSource) (settings : Settings) (backend : σ) :
    (new source settings backend).pool.account.Sound :=
  ⟨rfl, rfl, fun _ there => absurd there List.not_mem_nil,
    fun _ there => absurd there List.not_mem_nil⟩

/-- What is done with a handle, or happens outside, is no decision of the pool. -/
theorem decisions_of_touches {a : Action σ} {e : Environment σ} (used : s.pool.environment.Used e)
    (touches : e.events = s.pool.environment.events ∨
      ∃ name l, a.handle? = some name ∧ s.handle? name = some l ∧ s.pool.Touches l e) :
    e.decisions = s.pool.decisions := by
  rcases touches with same | ⟨_, l, -, -, rfl | ⟨-, made, called⟩⟩
  · exact Environment.decisions_of_events used.toLater same
  · rfl
  · exact Environment.decisions_of_called used.toLater called

/-- Every action at an orderly site leaves the account of the pool sound. -/
theorem sound_act (orderly : s.Orderly) (sound : s.pool.account.Sound) (a : Action σ) :
    (s.act b a).2.pool.account.Sound := by
  have step := step_act b s a
  generalize s.act b a = result at step
  cases step with
  | rest | lookUp => exact sound
  | outside _ e used touches =>
    have entries := decisions_of_touches used touches
    have same : { s.pool with environment := e }.account = s.pool.account :=
      congrArg (fun entries => Account.mk _ entries _ _) entries
    exact same.symm ▸ sound
  | notifyAll => exact sound.perm (.of_eq (Pool.waiters_notifyAll s.pool))
  | rouse w waits => exact sound.perm (Pool.perm_waiters_rouse waits)
  | begin r lookups _ free _ _ now =>
    have apart : ∀ w ∈ s.pool.waiters, w.request.name ≠ r.name := by
      intro w waits same
      refine free orderly.names (same ▸ ?_)
      exact List.mem_append_left _ (List.mem_append_right _
        (List.mem_map_of_mem (f := fun w : Waiter => w.request.name) waits))
    have begun := sound.begin apart
    rw [now] at begun
    have asking : (s.pool.record (.begun r.name)).Asking r false := ⟨begun.1, begun.2, apart⟩
    rw [pool_afterAcquire]
    exact asking.seek orderly.pool.record _ 0
  | resume w waits =>
    have stopped := Pool.perm_waiters_wake waits orderly.names.of_append_left.of_append_right
    have names := orderly.names.of_append_left.of_append_right
    have apart : ∀ w' ∈ (s.pool.wake w).waiters, w'.request.name ≠ w.request.name := by
      have once := (stopped.map fun w => w.request.name).nodup_iff.mp names
      intro w' still same
      exact (List.nodup_cons.mp once).1 (List.mem_map.mpr ⟨w', still, same⟩)
    have resumed := sound.resume s.pool.now stopped apart
    have asking : (s.pool.wake w).Asking w.request true := ⟨resumed.1, resumed.2, apart⟩
    rw [pool_afterAcquire]
    exact asking.seek orderly.pool.wake _ w.discarded
  | release name l found => exact Pool.sound_release b sound orderly.pool (mem_leases found)
  | close source settings shutDown =>
    exact Pool.sound_closeAll b (p := { s.pool with source, settings, shutDown }) sound
      orderly.pool.sound

/-! ### What callers see -/

/-- The events of which an action tells, if it comes to an outcome. -/
def shows (s : Site σ) (a : Action σ) (out : Outcome) : List Event :=
  match a with
  | .get name | .proceed name | .acquire name _ _ => out.events name (.begun name)
  | .resume w => out.events w.request.name (.resumed w.request.name)
  | .release name => ((s.handle? name).map fun l =>
      if s.pool.IsValid l then .returned l.connection else .spurned l.connection).toList
  | .change _ | .closeAll | .shutdown => s.pool.active.map fun l => .withdrawn l.connection
  | _ => []

theorem events_afterAcquire (s : Site σ) (name : String) (first : Event)
    (acquired : Acquired × Pool σ) :
    (s.afterAcquire name acquired).1.events name first = [acquired.1.event name, first] := by
  obtain ⟨outcome, q⟩ := acquired
  cases outcome <;> rfl

theorem seen_start (s : Site σ) (name : String) (credentials : Credentials) (token : Option Nat) :
    (s.start b name credentials token).2.pool.seen =
      (s.start b name credentials token).1.events name (.begun name) ++ s.pool.seen := by
  rw [start, pool_afterAcquire, events_afterAcquire]
  exact Pool.seen_seek b ⟨name, credentials, token, s.pool.now⟩ false _ 0
    (s.pool.record (.begun name))

theorem seen_begin (s : Site σ) (name : String) (credentials : Credentials) (token : Option Nat) :
    (s.begin b name credentials token).2.pool.seen =
      (s.begin b name credentials token).1.events name (.begun name) ++ s.pool.seen := by
  unfold begin
  split
  · rfl
  · exact seen_start s name credentials token

/-- Whatever only uses connections or lets something happen outside is no decision of the pool. -/
theorem decisions_of_plain {a : Action σ} (noAcquire : s.credentials? a = none)
    (noRelease : ∀ name, a ≠ .release name) (remains : ¬ a.Closes) :
    (s.act b a).2.pool.decisions = s.pool.decisions := by
  have step := step_act b s a
  generalize s.act b a = result at step
  cases step with
  | rest | lookUp | notifyAll | rouse => rfl
  | outside _ e used touches => exact decisions_of_touches used touches
  | begin r _ _ _ _ wanted => exact nomatch noAcquire.symm.trans wanted
  | resume => cases noAcquire
  | release name => exact absurd rfl (noRelease name)
  | close _ _ _ _ _ closes => exact absurd closes remains

theorem seen_of_plain {a : Action σ} (noAcquire : s.credentials? a = none)
    (noRelease : ∀ name, a ≠ .release name) (remains : ¬ a.Closes) :
    (s.act b a).2.pool.seen = s.pool.seen :=
  Pool.seen_of_decisions [] (decisions_of_plain noAcquire noRelease remains)

/-- The journal tells what callers see, action by action. -/
theorem Reachable.seen_act (reach : Reachable b allowed s) (a : Action σ) :
    (s.act b a).2.pool.seen = s.shows a (s.act b a).1 ++ s.pool.seen := by
  cases a with
  | get name => exact seen_begin s name s.pool.source.credentials none
  | acquire name credentials token => exact seen_begin s name credentials token
  | proceed name =>
    simp only [act]
    split
    · exact seen_start { s with lookups := s.lookups.filter fun entry => entry.1 ≠ name } ..
    · rfl
  | resume w =>
    simp only [act]
    split
    · rw [pool_afterAcquire, shows, events_afterAcquire]
      exact Pool.seen_seek b w.request true _ w.discarded (s.pool.wake w)
    · rfl
  | release name =>
    simp only [act, withHandle, shows]
    cases s.handle? name with
    | none => rfl
    | some l => exact Pool.seen_release b s.pool l
  | change c =>
    exact Pool.seen_closeAll b
      { s.pool with source := c.source s.pool.source, settings := c.tuned s.pool.settings }
  | closeAll => exact Pool.seen_closeAll b s.pool
  | shutdown =>
    simp only [act, Pool.shutdown, shows]
    split
    · -- a pool that was shut down has no lease to lose
      rename_i already
      rw [(reach.shut already).active]
      rfl
    · exact Pool.seen_closeAll b { s.pool with shutDown := true }
  | lookUp | rouse | validate | perform | borrow | mark | notifyAll | elapse | backend =>
    exact seen_of_plain rfl (fun _ same => by cases same) id

/-! ### What is turned down -/

/-- How many entries of the journal tell of an event of some kind. -/
def tally (s : Site σ) (kind : Event → Bool) : Nat := count kind s.pool.decisions

/-- An action notes of some connections that they were turned down: exactly of those that it came to
try and that failed their check, in the order in which it tried them. -/
structure NotesFailures (b : Backend σ) (s : Site σ) (a : Action σ) (bad : List Nat) : Prop where
  noted : (s.act b a).2.pool.turnedDown = bad.reverse ++ s.pool.turnedDown
  failed : ∀ k n, bad[k]? = some n ↔
    ∃ l p, s.Tries b a k l p ∧ (p.usable b l).1 = false ∧ l.connection = n
  counted : (s.act b a).2.tally Event.isDiscarded = s.tally Event.isDiscarded + bad.length

theorem tally_isDiscarded (s : Site σ) : s.tally Event.isDiscarded = s.pool.turnedDown.length :=
  count_isDiscarded s.pool.decisions

/-- An action that begins no search turns nothing down. -/
theorem turnedDown_of_noSearch {a : Action σ} (noSearch : s.enters a = none) :
    (s.act b a).2.pool.turnedDown = s.pool.turnedDown := by
  by_cases asks : s.credentials? a = none
  · -- what asks for no connection notes at most that leases end
    cases a with
    | release name =>
      simp only [act, withHandle]
      cases s.handle? name with
      | none => rfl
      | some l => exact s.pool.turnedDown_release b l
    | change c => exact Pool.turnedDown_closeAll b _
    | closeAll => exact s.pool.turnedDown_closeAll b
    | shutdown =>
      simp only [act, Pool.shutdown]
      split
      · rfl
      · exact Pool.turnedDown_closeAll b _
    | _ =>
      have plain := decisions_of_plain (b := b) asks (fun _ same => by cases same) id
      exact Pool.turnedDown_of_decisions [] plain
  · rw [act_of_noSearch noSearch asks]

/-- Every action notes the candidates that failed their check. -/
theorem notesFailures (b : Backend σ) (s : Site σ) (a : Action σ) :
    ∃ bad, s.NotesFailures b a bad := by
  have counted {bad : List Nat}
      (noted : (s.act b a).2.pool.turnedDown = bad.reverse ++ s.pool.turnedDown) :
      (s.act b a).2.tally Event.isDiscarded = s.tally Event.isDiscarded + bad.length := by
    rw [tally_isDiscarded, tally_isDiscarded, noted, List.length_append, List.length_reverse,
      Nat.add_comm]
  cases entered : s.enters a with
  | none =>
    have noted : (s.act b a).2.pool.turnedDown = [].reverse ++ s.pool.turnedDown :=
      turnedDown_of_noSearch entered
    refine ⟨[], noted, fun k n => ⟨fun there => by simp at there, fun ⟨l, p, tries, _⟩ => ?_⟩,
      counted noted⟩
    obtain ⟨x, t, q, enters, -⟩ := tries
    exact nomatch entered.symm.trans enters
  | some started =>
    obtain ⟨x, t⟩ := started
    obtain ⟨starts, -, whole⟩ := act_of_enters (b := b) entered
    obtain ⟨bad, noted, failed⟩ :=
      Pool.turnedDown_seek b x.request x.waited x.spare x.discarded t.pool
    rw [starts.turnedDown, ← pool_afterAcquire t x.request.name, ← whole] at noted
    refine ⟨bad, noted, fun k n => (failed k n).trans ⟨?_, ?_⟩, counted noted⟩
    · rintro ⟨few, q, l, taken, checked, rounds, serving, wanted, found, isBad, same⟩
      exact ⟨l, taken, .intro x t q entered rounds few serving wanted found,
        congrArg Prod.fst isBad, same⟩
    · rintro ⟨l, taken, ⟨y, u, q, enters, rounds, few, serving, wanted, found⟩, isBad, same⟩
      obtain ⟨rfl, rfl⟩ := Prod.mk.inj (Option.some.inj (entered.symm.trans enters))
      exact ⟨few, .intro q l taken _ rounds serving wanted found (Prod.ext isBad rfl) same⟩

/-! ### Along a run -/

theorem Reachable.sound (reach : Reachable b allowed s) : s.pool.account.Sound :=
  reach.keepsOrderly account_new fun _ a _ orderly sound => sound_act orderly sound a

/-- The statistics are what the journal yields. -/
structure Balanced (s : Site σ) : Prop where
  /-- Acquires that got a connection. -/
  requestCount : s.pool.statistics.requestCount = s.tally Event.isHandedOut
  /-- From the beginning of such an acquire to its end. -/
  requestTime : s.pool.statistics.requestTime = total Event.asker? requestFor s.pool.decisions
  /-- Leases that were handed back valid or reclaimed, each from when it was handed out. -/
  checkoutTime : s.pool.statistics.checkoutTime = total Event.lent? heldFor s.pool.decisions
  claimedOverdue : s.pool.statistics.claimedOverdue = s.tally Event.isReclaimed
  /-- The leases among them that were reclaimed. -/
  overdueCheckoutTime :
    s.pool.statistics.overdueCheckoutTime = total Event.lent? overdueFor s.pool.decisions
  /-- Acquires that began to wait, each counted when it did so first. -/
  hadToWait : s.pool.statistics.hadToWait = total Event.waiter? firstWait s.pool.decisions
  /-- From the beginning of a wait to its end. -/
  waitTime : s.pool.statistics.waitTime = total Event.waiter? waitFor s.pool.decisions
  badConnections : s.pool.statistics.badConnections =
    s.tally Event.isDiscarded + s.tally Event.isSpurned
  /-- Every lease that was handed out is held, was handed back, or was taken from its holder. -/
  balance : s.pool.statistics.requestCount = s.pool.status.active + s.tally Event.isReturned +
    s.pool.statistics.claimedOverdue + s.tally Event.isWithdrawn

/-- At every reachable site the statistics are exactly what the journal yields. What an action adds
to the journal is what its caller sees of it, and that it turned down the candidates that failed
their check. -/
theorem Reachable.balanced (reach : Reachable b allowed s) :
    s.Balanced ∧
      (∀ a, (s.act b a).2.pool.seen = s.shows a (s.act b a).1 ++ s.pool.seen) ∧
      ∀ a, ∃ bad, s.NotesFailures b a bad := by
  obtain ⟨statistics, balance, -, -⟩ := reach.sound
  have field {α : Type} (f : Statistics → α) :
      f s.pool.statistics = f (Ledger.statistics s.pool.decisions) := congrArg f statistics
  refine ⟨⟨field _, field _, field _, field _, field _, field _, field _, field _, ?_⟩,
    reach.seen_act, notesFailures b s⟩
  rw [field Statistics.requestCount, field Statistics.claimedOverdue]
  exact balance

/-- One acquire waits until it can take an overdue connection from its holder, who hands it back too
late; then the connection is handed back by the other. -/
theorem balanced_reclaimed :
    let w : Waiter :=
      { request := { name := "b", credentials := {}, started := 5_000_000_000 }
        parkedAt := 5_000_000_000, deadline := some 25_000_000_000 }
    let s := (new ⟨"db", {}⟩ { maxActive := 1 } {}).run Scripted.backend
      [.get "a", .elapse 5_000_000_000, .get "b", .elapse 16_000_000_000, .resume w, .release "a",
        .release "b"]
    s.pool.statistics =
        { requestCount := 2, requestTime := 16_000_000_000, checkoutTime := 21_000_000_000
          claimedOverdue := 1, overdueCheckoutTime := 21_000_000_000, hadToWait := 1
          waitTime := 16_000_000_000, badConnections := 1 } ∧
      s.Balanced ∧
      (∀ a, (s.act Scripted.backend a).2.pool.seen =
        s.shows a (s.act Scripted.backend a).1 ++ s.pool.seen) ∧
      ∀ a, ∃ bad, s.NotesFailures Scripted.backend a bad := by
  intro w s
  have reach : Reachable Scripted.backend (fun _ _ => True) s :=
    ⟨_, _, _, Leads.refl.run _ fun _ _ _ => trivial⟩
  exact ⟨by decide +kernel, reach.balanced⟩

end Site

end LeasePool
