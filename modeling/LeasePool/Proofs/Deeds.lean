import LeasePool.Proofs.Ledger
import LeasePool.Proofs.Tenure

/-!
# What a search does

A search notes what it does: that it opens a connection, that it takes a lease from its holder, that
it turns a connection down, how it ends. This file tells once what the notes of a search can be. The
operations on connections in between are left out; they come from closing, resetting and checking.

Whatever a search turns down makes room for what it tries next. So a search takes a lease from its
holder before it does anything else, or not at all, and it goes on to wait only if it has turned
nothing down.

## Main definitions

* `Environment.deeds`: the journal without the operations on connections.
* `Pool.Did`: what was done between two pools, on which every part of a search can be put together.
* `Pool.Rejected`, `Pool.Searched`: what is done in some rounds of a search, and in all of it.

## Main results

* `Pool.seek_of_waiting`: a search that goes on to wait has done nothing else.
* `Pool.rejected_rounds`: of the connections that are turned down in some rounds, those that did not
  lie idle before were opened on the spot, but for one that was taken from its holder.
* `Pool.searched_seek`: what a search does.
-/

namespace LeasePool

namespace Event

/-- The event is more than an operation on a connection. -/
def isDeed : Event → Bool
  | .asked .. => false
  | _ => true

/-- A connection was to be opened, and was or was not. -/
@[simp] def isOpening : Event → Bool
  | .opened .. | .unopened .. => true
  | _ => false

attribute [simp] opened?

end Event

namespace Ledger

/-- The entries that tell that a lease was taken from its holder. -/
def reclaims (entries : List Entry) : List Entry :=
  entries.filter fun entry => entry.event.isReclaimed

@[simp] theorem reclaims_append (later earlier : List Entry) :
    reclaims (later ++ earlier) = reclaims later ++ reclaims earlier :=
  List.filter_append ..

theorem reclaims_cons_of_not {entry : Entry} (other : entry.event.isReclaimed = false)
    (entries : List Entry) : reclaims (entry :: entries) = reclaims entries := by
  simp only [reclaims, List.filter_cons, other, Bool.false_eq_true, if_false]

theorem length_reclaims (entries : List Entry) :
    (reclaims entries).length = count Event.isReclaimed entries :=
  List.countP_eq_length_filter.symm

/-- Nothing was turned down, nothing was to be opened, and no lease was taken from its holder. -/
structure Harmless (entries : List Entry) : Prop where
  discards : numbers Event.discarded? entries = []
  openings : count Event.isOpening entries = 0
  reclaims : count Event.isReclaimed entries = 0

@[simp] theorem count_nil (kind : Event → Bool) : count kind [] = 0 := rfl

@[simp] theorem count_append (kind : Event → Bool) (later earlier : List Entry) :
    count kind (later ++ earlier) = count kind later + count kind earlier :=
  List.countP_append

end Ledger

namespace Environment

variable {σ : Type} {e e' : Environment σ} {n : Nat} {made : List Call} (b : Backend σ)

/-- The journal without the operations on connections, the latest entry first. -/
def deeds (e : Environment σ) : List Entry := e.journal.filter fun entry => entry.event.isDeed

/-- The connections that were opened are those of whose opening the deeds tell. -/
theorem numbers_deeds (e : Environment σ) :
    Ledger.numbers Event.opened? e.deeds = e.opened.reverse := by
  have told (entries : List Entry) :
      Ledger.numbers Event.opened? (entries.filter fun entry => entry.event.isDeed) =
        (entries.map Entry.event).filterMap Event.opened? := by
    induction entries with
    | nil => rfl
    | cons entry entries ih =>
      obtain ⟨time, event⟩ := entry
      cases event with
      | opened n => exact congrArg (List.cons n) ih
      | _ => exact ih
  rw [opened, List.reverse_reverse]
  exact told e.journal

theorem deeds_of_called (later : e.Later e') (called : Called n made e e') : e'.deeds = e.deeds :=
  filter_of_called Event.isDeed (fun _ _ => rfl) later called

theorem deeds_connect {id : Nat} {endpoint : String} {credentials : Credentials}
    (connected : e.connect b id endpoint credentials = (.ok (), e')) :
    e'.deeds = ⟨e'.clock, .opened id endpoint credentials⟩ :: e.deeds := by
  obtain ⟨answered, rfl⟩ := Prod.mk.inj connected
  simp only [answered]
  rfl

theorem deeds_refused {id : Nat} {endpoint : String} {credentials : Credentials}
    {cause : BackendError}
    (refused : e.connect b id endpoint credentials = (.error cause, e')) :
    e'.deeds = ⟨e'.clock, .unopened endpoint credentials cause⟩ :: e.deeds := by
  obtain ⟨answered, rfl⟩ := Prod.mk.inj refused
  simp only [answered]
  rfl

theorem deeds_reset (e : Environment σ) (n : Nat) : (e.reset b n).2.deeds = e.deeds := by
  obtain ⟨made, -, called⟩ := e.called_reset b n
  exact deeds_of_called (e.used_reset b n).toLater called

theorem deeds_dispose (e : Environment σ) (n : Nat) : (e.dispose b n).deeds = e.deeds := by
  obtain ⟨made, -, called⟩ := e.called_dispose b n
  exact deeds_of_called (e.used_dispose b n).toLater called

end Environment

namespace Pool

open Ledger

variable {σ : Type} {b : Backend σ} {p q t : Pool σ} {r : Request} {l : Lease}
  {held : List Lease} {made made' : List Entry} {n m : Nat}

/-- The journal without the operations on connections, the latest entry first. -/
def deeds (p : Pool σ) : List Entry := p.environment.deeds

theorem deeds_of_checked {good : Bool} (checked : p.usable b l = (good, q)) :
    q.deeds = p.deeds := by
  obtain ⟨made, -, called⟩ := p.environment.called_usable b l p.settings p.expected p.revoked
  obtain rfl : (p.usable b l).2 = q := congrArg Prod.snd checked
  exact Environment.deeds_of_called (p.used_usable b l).toLater called

theorem deeds_discard (b : Backend σ) (p : Pool σ) (l : Lease) :
    (p.discard b l).deeds = ⟨p.now, .discarded l.connection⟩ :: p.deeds :=
  (p.environment.record (.discarded l.connection)).deeds_dispose b l.connection

theorem deeds_seize (b : Backend σ) (p : Pool σ) (oldest : Lease) (rest : List Lease) :
    (p.seize b oldest rest).2.deeds = ⟨p.now, .reclaimed oldest.connection⟩ :: p.deeds :=
  (p.environment.record (.reclaimed oldest.connection)).deeds_reset b oldest.connection

theorem deeds_handOut (b : Backend σ) (p : Pool σ) (r : Request) (l : Lease) :
    (p.handOut b r l).2.deeds =
      ⟨(p.handOut b r l).2.now, .handedOut r.name l.connection⟩ :: p.deeds :=
  congrArg (List.cons _) (p.environment.deeds_reset b l.connection)

/-! ### What is done, part by part -/

/-- What was done between two pools, the latest first. If a lease was taken from its holder then one
only, which was overdue in the first pool, and at once. -/
structure Did (p : Pool σ) (made : List Entry) (q : Pool σ) : Prop where
  deeds : q.deeds = made ++ p.deeds
  reclaimed : reclaims made = [] ∨
    ∃ l, p.Overdue l ∧ reclaims made =
      [⟨p.now, .reclaimed l.connection⟩]
  badConnections : q.statistics.badConnections =
    p.statistics.badConnections + (numbers Event.discarded? made).length

namespace Did

theorem refl (p : Pool σ) : Did p [] p := ⟨rfl, .inl rfl, rfl⟩

/-- Where one part of a search leaves room, the next takes no lease from its holder. -/
theorem trans (first : Did p made q) (roomy : 0 < q.room) (second : Did q made' t) :
    Did p (made' ++ made) t where
  deeds := by rw [second.deeds, first.deeds, List.append_assoc]
  reclaimed := by
    have none : reclaims made' = [] :=
      second.reclaimed.resolve_right fun ⟨l, overdue, _⟩ =>
        Nat.ne_of_gt roomy overdue.room_eq_zero
    rw [reclaims_append, none, List.nil_append]
    exact first.reclaimed
  badConnections := by
    rw [second.badConnections, first.badConnections, numbers_append, List.length_append]
    omega

/-- A note that tells of no lease and turns nothing down may follow. -/
theorem note (did : Did p made q) (event : Event) (time : Nat)
    (deeds : t.deeds = ⟨time, event⟩ :: q.deeds) (statistics : t.statistics.badConnections =
      q.statistics.badConnections + event.discarded?.toList.length)
    (noReclaim : event.isReclaimed = false) : Did p (⟨time, event⟩ :: made) t where
  deeds := by rw [deeds, did.deeds, List.cons_append]
  reclaimed := by
    rw [reclaims_cons_of_not noReclaim]
    exact did.reclaimed
  badConnections := by
    rw [statistics, did.badConnections, numbers_cons, List.length_append,
      Nat.add_comm event.discarded?.toList.length, Nat.add_assoc]

theorem reclaims_le (did : Did p made q) : count Event.isReclaimed made ≤ 1 := by
  rw [← length_reclaims]
  rcases did.reclaimed with none | ⟨l, -, once⟩
  · rw [none]
    exact Nat.zero_le 1
  · rw [once]
    exact Nat.le_refl 1

/-- Where something lies idle, or there is room, no lease is taken from its holder. -/
theorem reclaims_eq_zero (did : Did p made q) (idle : p.idle ≠ []) :
    count Event.isReclaimed made = 0 := by
  rw [← length_reclaims]
  rcases did.reclaimed with none | ⟨l, overdue, -⟩
  · rw [none]
    rfl
  · exact absurd overdue.noneIdle idle

end Did

/-- What is done to find a candidate. -/
structure Finds (p : Pool σ) (made : List Entry)
    (out : Except BackendError (Option Lease) × Pool σ) : Prop extends Did p made out.2 where
  noneDiscarded : numbers Event.discarded? made = []
  openings_le : count Event.isOpening made ≤ 1
  /-- A candidate lay idle, was opened, or was taken from its holder. -/
  candidate : ∀ l ∈ candidates out.1,
    count Event.isOpening made = (numbers Event.opened? made).length ∧
      (numbers Event.opened? made).Sublist [l.connection] ∧
      1 + out.2.idle.length =
        p.idle.length + (numbers Event.opened? made).length + count Event.isReclaimed made

theorem finds_of_found {c : Credentials} {out : Except BackendError (Option Lease) × Pool σ}
    (found : Found b c p out) : ∃ made, Finds p made out := by
  cases found with
  | @idle l rest first =>
    refine ⟨[], ⟨⟨rfl, .inl rfl, rfl⟩, rfl, Nat.zero_le 1, fun l _ => ⟨rfl, ?_, ?_⟩⟩⟩
    · exact List.nil_sublist _
    · simp [first]
      omega
  | @opened e noneIdle room connected =>
    have deeds := Environment.deeds_connect b connected
    refine ⟨[⟨e.clock, .opened p.nextConnection p.source.endpoint c⟩],
      ⟨⟨deeds, .inl rfl, rfl⟩, rfl, Nat.le_refl 1, fun l there => ?_⟩⟩
    obtain rfl := List.mem_singleton.mp there
    refine ⟨rfl, .refl _, ?_⟩
    simp [noneIdle]
  | @unopened e cause noneIdle room refused =>
    have deeds := Environment.deeds_refused b refused
    exact ⟨[⟨e.clock, .unopened p.source.endpoint c cause⟩],
      ⟨⟨deeds, .inl rfl, rfl⟩, rfl, Nat.le_refl 1, fun _ there => absurd there List.not_mem_nil⟩⟩
  | @overdue oldest rest noneIdle full isHeld late =>
    have deeds := p.deeds_seize b oldest rest
    have overdue : p.Overdue oldest := ⟨noneIdle, full, by simp [isHeld], late⟩
    refine ⟨[⟨p.now, .reclaimed oldest.connection⟩],
      ⟨⟨deeds, .inr ⟨oldest, overdue, rfl⟩, rfl⟩, rfl, Nat.zero_le 1, fun l _ => ⟨rfl, ?_, ?_⟩⟩⟩
    · exact List.nil_sublist _
    · simp [noneIdle, seize, renew, revoke]
  | nothing =>
    exact ⟨[], ⟨.refl p, rfl, Nat.zero_le 1, fun _ there => absurd there List.not_mem_nil⟩⟩

theorem finds_candidate {c : Credentials} {out : Except BackendError (Option Lease)}
    (found : p.candidate b c = (out, q)) : ∃ made, Finds p made (out, q) :=
  finds_of_found (found_of_candidate b found)

/-! ### Rounds -/

/-- What is done in some rounds of a search. Every connection that is opened is turned down; and the
connections that are turned down lay idle before, were opened, or were taken from their holders. -/
structure Rejected (p : Pool σ) (n : Nat) (made : List Entry) (q : Pool σ) : Prop
    extends Did p made q where
  discarded : (numbers Event.discarded? made).length = n
  opened : (numbers Event.opened? made).Sublist (numbers Event.discarded? made)
  openings : count Event.isOpening made = (numbers Event.opened? made).length
  balance : n + q.idle.length =
    p.idle.length + (numbers Event.opened? made).length + count Event.isReclaimed made

theorem Rejected.trans (first : Rejected p n made q) (roomy : 0 < q.room)
    (second : Rejected q m made' t) : Rejected p (n + m) (made' ++ made) t where
  toDid := first.toDid.trans roomy second.toDid
  discarded := by
    rw [numbers_append, List.length_append, first.discarded, second.discarded, Nat.add_comm]
  opened := by
    rw [numbers_append, numbers_append]
    exact second.opened.append first.opened
  openings := by
    rw [count_append, numbers_append, List.length_append, first.openings, second.openings]
  balance := by
    have before := first.balance
    have after := second.balance
    rw [numbers_append, List.length_append, count_append]
    omega

theorem rejected_round (round : Round b r p q) : ∃ made, Rejected p 1 made q := by
  obtain ⟨l, taken, checked, -, -, found, bad⟩ := round
  obtain ⟨made, finds⟩ := finds_candidate found
  obtain ⟨openings, opened, balance⟩ := finds.candidate l List.mem_cons_self
  have deeds := deeds_of_checked bad
  have statistics : checked.statistics = taken.statistics := by
    obtain rfl : (taken.usable b l).2 = checked := congrArg Prod.snd bad
    rfl
  have idle : (checked.discard b l).idle = taken.idle := by
    obtain rfl : (taken.usable b l).2 = checked := congrArg Prod.snd bad
    rfl
  have discards := finds.noneDiscarded
  refine ⟨⟨checked.now, .discarded l.connection⟩ :: made,
    ⟨finds.toDid.note _ _ ?_ ?_ rfl, ?_, ?_, ?_, ?_⟩⟩
  · rw [deeds_discard, deeds]
  · change checked.statistics.badConnections + 1 = _
    rw [statistics]
    rfl
  · simp [discards]
  · simpa [discards] using opened
  · simpa using openings
  · rw [idle]
    simpa using balance

theorem rejected_rounds (orderly : p.Orderly [] held) (rounds : Rounds b r n p q) :
    ∃ made, Rejected p n made q := by
  induction rounds with
  | none => exact ⟨[], ⟨.refl _, rfl, .refl _, rfl, Nat.zero_add _⟩⟩
  | @more n p q t first others ih =>
    obtain ⟨made, rejected⟩ := rejected_round first
    obtain ⟨made', others⟩ := ih (orderly.round b first)
    have roomy := room_of_round orderly first
    have both := rejected.trans roomy others
    rw [Nat.add_comm] at both
    exact ⟨_, both⟩

/-! ### Searches -/

/-- After some rounds there is room, if there were any. -/
theorem room_of_rounds (orderly : p.Orderly [] held) (rounds : Rounds b r n p q) :
    n = 0 ∧ q = p ∨ 0 < q.room := by
  induction rounds with
  | none => exact .inl ⟨rfl, rfl⟩
  | more first others ih =>
    rcases ih (orderly.round b first) with ⟨-, rfl⟩ | roomy
    · exact .inr (room_of_round orderly first)
    · exact .inr roomy

/-- A search that goes on to wait finds nothing from the outset, and does nothing else. -/
theorem seek_of_waiting (orderly : p.Orderly [] held) {waited : Bool} {spare discarded : Nat}
    (waits : (seek b r waited spare discarded p).1 = .waiting) :
    p.candidate b r.credentials = (.ok none, p) ∧
      seek b r waited spare discarded p = (.waiting, p.park r waited discarded) := by
  obtain ⟨n, q, rounds, ending⟩ := rounds_seek b r waited spare discarded p
  generalize seek b r waited spare discarded p = ended at waits ending
  rcases ending with ⟨-, ending⟩ | ⟨-, rfl⟩
  · cases ending with
    | waiting _ _ found =>
      obtain ⟨rfl, noRoom⟩ := room_of_nothing found
      rcases room_of_rounds orderly rounds with ⟨rfl, rfl⟩ | roomy
      · exact ⟨found, rfl⟩
      · exact absurd noRoom (Nat.ne_of_gt roomy)
    | closed | interrupted | refused | granted => cases waits
  · cases waits

/-- What a search does that may turn down `spare` connections and one more. -/
structure Searched (p : Pool σ) (spare discarded : Nat) (made : List Entry)
    (out : Acquired × Pool σ) : Prop extends Did p made out.2 where
  discards_le : (numbers Event.discarded? made).length ≤ spare + 1
  openings_le : count Event.isOpening made ≤ spare + 1
  waiting : out.1 = .waiting → Harmless made
  exhausted : ∀ n, out.1 = .failed (.exhausted n) →
    n = discarded + (spare + 1) ∧ (numbers Event.discarded? made).length = spare + 1 ∧
      (numbers Event.opened? made).Sublist (numbers Event.discarded? made) ∧
      spare + 1 ≤ max 1 p.idle.length + (numbers Event.opened? made).length

/-- Of the connections that are turned down in some rounds no more than were idle were not opened on
the spot, or one if none was idle. -/
theorem Rejected.le_opened (rejected : Rejected p n made q) :
    n ≤ max 1 p.idle.length + (numbers Event.opened? made).length := by
  have balance := rejected.balance
  have once := rejected.toDid.reclaims_le
  by_cases none : p.idle = []
  · rw [none] at balance ⊢
    simp only [List.length_nil] at balance ⊢
    omega
  · have noReclaim := rejected.toDid.reclaims_eq_zero none
    omega

/-- What is done at the end of a search. -/
theorem did_ending {waited : Bool} {discarded : Nat} {out : Acquired × Pool σ}
    (ending : Ending b r waited discarded p out) :
    ∃ made, Did p made out.2 ∧ numbers Event.discarded? made = [] ∧
      count Event.isOpening made ≤ 1 := by
  cases ending with
  | closed =>
    exact ⟨_, (Did.refl p).note (.failed r.name .closed) p.now rfl rfl rfl, rfl,
      Nat.zero_le 1⟩
  | interrupted =>
    exact ⟨_, (Did.refl p).note (.failed r.name .interrupted) p.now rfl rfl rfl, rfl,
      Nat.zero_le 1⟩
  | @refused cause q _ _ found =>
    obtain ⟨made, finds⟩ := finds_candidate found
    refine ⟨_, finds.toDid.note (.failed r.name (.connect cause)) q.now rfl rfl rfl, ?_, ?_⟩
    · simpa using finds.noneDiscarded
    · simpa using finds.openings_le
  | @waiting q _ _ found =>
    obtain ⟨made, finds⟩ := finds_candidate found
    refine ⟨_, finds.toDid.note (.parked r.name) q.now rfl rfl rfl, ?_, ?_⟩
    · simpa using finds.noneDiscarded
    · simpa using finds.openings_le
  | granted l taken checked _ _ found good =>
    obtain ⟨made, finds⟩ := finds_candidate found
    have deeds := deeds_of_checked good
    have statistics : checked.statistics = taken.statistics := by
      obtain rfl : (taken.usable b l).2 = checked := congrArg Prod.snd good
      rfl
    refine ⟨_, finds.toDid.note (.handedOut r.name l.connection) _
      ((checked.deeds_handOut b r l).trans (congrArg _ deeds)) ?_ rfl, ?_, ?_⟩
    · change checked.statistics.badConnections = taken.statistics.badConnections
      rw [statistics]
    · simpa using finds.noneDiscarded
    · simpa using finds.openings_le

theorem searched_seek (orderly : p.Orderly [] held) (r : Request) (waited : Bool)
    (spare discarded : Nat) :
    ∃ made, Searched p spare discarded made (seek b r waited spare discarded p) := by
  by_cases waits : (seek b r waited spare discarded p).1 = .waiting
  · rw [(seek_of_waiting orderly waits).2]
    exact ⟨_, ⟨(Did.refl p).note (.parked r.name) p.now rfl rfl rfl, Nat.zero_le _,
      Nat.zero_le _, fun _ => ⟨rfl, rfl, rfl⟩, nofun⟩⟩
  · obtain ⟨n, q, rounds, ending⟩ := rounds_seek b r waited spare discarded p
    obtain ⟨made, rejected⟩ := rejected_rounds orderly rounds
    have opened_le := rejected.opened.length_le
    have discards := rejected.discarded
    have openings := rejected.openings
    generalize seek b r waited spare discarded p = ended at waits ending
    rcases ending with ⟨few, ending⟩ | ⟨rfl, rfl⟩
    · obtain ⟨made', did, noneDiscarded, once⟩ := did_ending ending
      have whole : Did p (made' ++ made) ended.2 := by
        rcases room_of_rounds orderly rounds with ⟨rfl, rfl⟩ | roomy
        · obtain rfl : made = [] := by
            have same := rejected.deeds
            exact List.append_cancel_right same.symm
          rw [List.append_nil]
          exact did
        · exact rejected.toDid.trans roomy did
      refine ⟨made' ++ made, ⟨whole, ?_, ?_, fun isWaiting => absurd isWaiting waits, ?_⟩⟩
      · rw [numbers_append, noneDiscarded, List.nil_append]
        omega
      · rw [count_append]
        omega
      · intro n failed
        cases ending <;> cases failed
    · refine ⟨_, ⟨rejected.toDid.note (.failed r.name _) q.now rfl rfl rfl, ?_, ?_,
        fun isWaiting => absurd isWaiting waits, fun n failed => ?_⟩⟩
      · simp [discards]
      · simp
        omega
      · obtain rfl : discarded + (spare + 1) = n := by cases failed; rfl
        refine ⟨rfl, ?_, ?_, ?_⟩
        · simp [discards]
        · simpa using rejected.opened
        · simpa using rejected.le_opened

/-- When a search starts, nothing but that is noted. -/
theorem Starts.noted (starts : p.Starts q) :
    q.statistics.badConnections = p.statistics.badConnections ∧
      ∃ name event, (event = .begun name ∨ event = .resumed name) ∧
        q.deeds = ⟨p.now, event⟩ :: p.deeds := by
  cases starts with
  | begun name => exact ⟨rfl, name, _, .inl rfl, rfl⟩
  | woken w => exact ⟨rfl, w.request.name, _, .inr rfl, rfl⟩

theorem Starts.now (starts : p.Starts q) : q.now = p.now := by
  cases starts <;> rfl

theorem Starts.overdue (starts : p.Starts q) (overdue : q.Overdue l) : p.Overdue l := by
  obtain ⟨noneIdle, full, oldest, late⟩ := overdue
  have settings : q.settings = p.settings := congrArg Terms.settings starts.terms
  rw [starts.idle] at noneIdle
  rw [starts.active] at full oldest
  rw [settings] at full late
  exact ⟨noneIdle, full, oldest, starts.now ▸ late⟩

theorem Starts.did (starts : p.Starts q) (did : Did q made t) :
    ∃ name event, (event = .begun name ∨ event = .resumed name) ∧
      Did p (made ++ [⟨p.now, event⟩]) t := by
  obtain ⟨statistics, name, event, isStart, deeds⟩ := starts.noted
  have noDiscard : event.discarded? = none := by
    rcases isStart with rfl | rfl <;> rfl
  have noReclaim : event.isReclaimed = false := by
    rcases isStart with rfl | rfl <;> rfl
  refine ⟨name, event, isStart, ?_, ?_, ?_⟩
  · rw [did.deeds, deeds, List.append_assoc]
    rfl
  · have same : reclaims (made ++ [⟨p.now, event⟩]) = reclaims made := by
      rw [reclaims_append, reclaims_cons_of_not noReclaim]
      exact List.append_nil _
    rw [same, ← starts.now]
    exact did.reclaimed.imp_right fun ⟨l, late, once⟩ => ⟨l, starts.overdue late, once⟩
  · rw [did.badConnections, statistics, numbers_append, numbers_cons, noDiscard]
    simp

/-- That a search starts is no part of what it does. -/
theorem Starts.searched {spare discarded : Nat} {out : Acquired × Pool σ} (starts : p.Starts q)
    (searched : Searched q spare discarded made out) :
    ∃ made, Searched p spare discarded made out := by
  obtain ⟨name, event, isStart, did⟩ := starts.did searched.toDid
  have discards : numbers Event.discarded? (made ++ [⟨p.now, event⟩]) =
      numbers Event.discarded? made := by
    rcases isStart with rfl | rfl <;> simp
  have opened : numbers Event.opened? (made ++ [⟨p.now, event⟩]) =
      numbers Event.opened? made := by
    rcases isStart with rfl | rfl <;> simp
  have openings : count Event.isOpening (made ++ [⟨p.now, event⟩]) =
      count Event.isOpening made := by
    rcases isStart with rfl | rfl <;> simp
  have reclaims : count Event.isReclaimed (made ++ [⟨p.now, event⟩]) =
      count Event.isReclaimed made := by
    rcases isStart with rfl | rfl <;> simp
  refine ⟨made ++ [⟨p.now, event⟩], ⟨did, ?_, ?_, fun waits => ?_, ?_⟩⟩
  · rw [discards]
    exact searched.discards_le
  · rw [openings]
    exact searched.openings_le
  · obtain ⟨noDiscard, noOpening, noReclaim⟩ := searched.waiting waits
    exact ⟨discards.trans noDiscard, openings.trans noOpening, reclaims.trans noReclaim⟩
  · rw [discards, opened, ← starts.idle]
    exact searched.exhausted

end Pool

end LeasePool
