import LeasePool.Pool

/-!
# The ledger

A pool keeps its statistics as it goes, each counter and sum in its own place. The ledger draws up
the same statistics from nothing but the journal: it counts entries, and it adds up the times
between two entries that follow one another, such as the beginning of a wait and its end. Every
entry follows at most one other, so nothing is counted twice.

An account puts the statistics beside the journal. It is sound if they agree, and if the journal
knows everything that the statistics will need later: when every held lease was handed out, when
every acquire that waits began, and since when it waits.

## Main definitions

* `Ledger.count`, `Ledger.total`: the number of some entries; the sum over entries that follow one
  another.
* `Ledger.numbers`: the connections of which entries tell in one way.
* `Ledger.statistics`: the statistics that the journal yields.
* `Account`, `Account.Sound`: statistics, journal, held leases and those who wait; all of them
  agree.

## Main results

* `Account.Sound.reclaim`, `handOut`, `park`, `resume`, `giveBack`, `withdraw` and others: whatever
  is noted together with its effect on the statistics leaves an account sound.
-/

namespace LeasePool

namespace Event

/-- Whose acquire may begin to wait: it begins, begins to wait, or stops waiting. -/
@[simp] def waiter? : Event → Option String
  | .begun name | .parked name | .resumed name => some name
  | _ => none

/-- Whose acquire begins or gets a connection. -/
@[simp] def asker? : Event → Option String
  | .begun name | .handedOut name _ => some name
  | _ => none

/-- The connection of which a lease begins or ends. -/
@[simp] def lent? : Event → Option Nat
  | .handedOut _ n | .returned n | .reclaimed n | .withdrawn n => some n
  | _ => none

@[simp] def isHandedOut : Event → Bool
  | .handedOut .. => true
  | _ => false

@[simp] def isReclaimed : Event → Bool
  | .reclaimed _ => true
  | _ => false

@[simp] def isReturned : Event → Bool
  | .returned _ => true
  | _ => false

@[simp] def isWithdrawn : Event → Bool
  | .withdrawn _ => true
  | _ => false

@[simp] def isDiscarded : Event → Bool
  | .discarded _ => true
  | _ => false

@[simp] def isSpurned : Event → Bool
  | .spurned _ => true
  | _ => false

/-- The connection that was turned down. -/
@[simp] def discarded? : Event → Option Nat
  | .discarded n => some n
  | _ => none

end Event

namespace Ledger

variable {α : Type} [DecidableEq α]

/-- How many entries tell of an event of some kind. -/
def count (kind : Event → Bool) (entries : List Entry) : Nat :=
  entries.countP fun entry => kind entry.event

/-- The connections of which entries tell in one way, the latest first. -/
def numbers (of : Event → Option Nat) (entries : List Entry) : List Nat :=
  entries.filterMap fun entry => of entry.event

/-- The latest entry about something. -/
def latest (about : Event → Option α) (a : α) (entries : List Entry) : Option Entry :=
  entries.find? fun entry => about entry.event = some a

/-- Two entries follow one another if they are about one thing and no entry between them is. This is
the sum of a measure over all entries, given latest first, that follow one another. -/
def total (about : Event → Option α) (measure : Entry → Entry → Nat) : List Entry → Nat
  | [] => 0
  | entry :: earlier =>
    total about measure earlier +
      ((about entry.event).bind fun a => latest about a earlier).elim 0 fun before =>
        measure before entry

theorem latest_cons (about : Event → Option α) (a : α) (entry : Entry) (earlier : List Entry) :
    latest about a (entry :: earlier) =
      if about entry.event = some a then some entry else latest about a earlier := by
  simp only [latest, List.find?_cons]
  by_cases same : about entry.event = some a <;> simp [same]

theorem latest_cons_of_ne {about : Event → Option α} {a : α} {entry : Entry}
    (other : about entry.event ≠ some a) (earlier : List Entry) :
    latest about a (entry :: earlier) = latest about a earlier := by
  rw [latest_cons, if_neg other]

/-- Whatever an entry follows, it adds nothing if nothing is measured. -/
@[simp] theorem elim_zero (before : Option Entry) : (before.elim 0 fun _ => 0) = 0 := by
  cases before <;> rfl

@[simp] theorem count_cons (kind : Event → Bool) (entry : Entry) (earlier : List Entry) :
    count kind (entry :: earlier) = count kind earlier + if kind entry.event then 1 else 0 :=
  List.countP_cons

@[simp] theorem numbers_nil (of : Event → Option Nat) : numbers of [] = [] := rfl

@[simp] theorem numbers_cons (of : Event → Option Nat) (entry : Entry) (entries : List Entry) :
    numbers of (entry :: entries) = (of entry.event).toList ++ numbers of entries := by
  unfold numbers
  cases told : of entry.event <;> simp [told]

@[simp] theorem numbers_append (of : Event → Option Nat) (later earlier : List Entry) :
    numbers of (later ++ earlier) = numbers of later ++ numbers of earlier :=
  List.filterMap_append

/-- As many connections were turned down as there are entries that tell so. -/
theorem count_isDiscarded (entries : List Entry) :
    count Event.isDiscarded entries = (numbers Event.discarded? entries).length := by
  induction entries with
  | nil => rfl
  | cons entry earlier ih =>
    rw [count_cons, ih, numbers_cons, List.length_append, Nat.add_comm]
    cases entry.event <;> rfl

/-! ### What is measured -/

/-- One for an acquire that begins to wait for the first time. -/
@[simp] def firstWait (before after : Entry) : Nat :=
  match after.event with
  | .parked _ => match before.event with
    | .begun _ => 1
    | _ => 0
  | _ => 0

/-- The time of a wait that has ended. -/
@[simp] def waitFor (before after : Entry) : Nat :=
  match after.event with
  | .resumed _ => match before.event with
    | .parked _ => after.time - before.time
    | _ => 0
  | _ => 0

/-- The time that an acquire took to get a connection. -/
@[simp] def requestFor (before after : Entry) : Nat :=
  match after.event with
  | .handedOut .. => match before.event with
    | .begun _ => after.time - before.time
    | _ => 0
  | _ => 0

/-- The time for which a lease was held that was taken from its holder for being overdue. -/
@[simp] def overdueFor (before after : Entry) : Nat :=
  match after.event with
  | .reclaimed _ => match before.event with
    | .handedOut .. => after.time - before.time
    | _ => 0
  | _ => 0

/-- The time for which a lease was held that was handed back or taken from its holder for being
overdue. -/
@[simp] def heldFor (before after : Entry) : Nat :=
  match after.event with
  | .returned _ | .reclaimed _ => match before.event with
    | .handedOut .. => after.time - before.time
    | _ => 0
  | _ => 0

/-- The statistics that a journal yields. -/
def statistics (entries : List Entry) : Statistics where
  requestCount := count Event.isHandedOut entries
  requestTime := total Event.asker? requestFor entries
  checkoutTime := total Event.lent? heldFor entries
  claimedOverdue := count Event.isReclaimed entries
  overdueCheckoutTime := total Event.lent? overdueFor entries
  hadToWait := total Event.waiter? firstWait entries
  waitTime := total Event.waiter? waitFor entries
  badConnections := count Event.isDiscarded entries + count Event.isSpurned entries

end Ledger

/-! ### Accounts -/

/-- The statistics of a pool beside its journal, with what they are about: the leases that are held
and those who wait. -/
structure Account where
  statistics : Statistics
  /-- The journal without the calls on the backend, the latest entry first. -/
  entries : List Entry
  active : List Lease
  waiters : List Waiter

namespace Account

open Ledger

variable {a : Account} {l : Lease} {r : Request} {name : String} {time : Nat}

/-- An acquire began when it says so, and got no connection since. -/
def Asks (entries : List Entry) (r : Request) : Prop :=
  latest Event.asker? r.name entries = some ⟨r.started, .begun r.name⟩

/-- An acquire waits since when it says so. -/
def Waits (entries : List Entry) (w : Waiter) : Prop :=
  Asks entries w.request ∧
    latest Event.waiter? w.request.name entries = some ⟨w.parkedAt, .parked w.request.name⟩

/-- A lease is held since when it says so. -/
def Held (entries : List Entry) (l : Lease) : Prop :=
  ∃ time name, l.checkedOutAt = some time ∧
    latest Event.lent? l.connection entries = some ⟨time, .handedOut name l.connection⟩

/-- An acquire is under way that has waited or not. -/
structure Searches (entries : List Entry) (r : Request) (waited : Bool) : Prop where
  asks : Asks entries r
  latest : ∃ time, Ledger.latest Event.waiter? r.name entries =
    some ⟨time, if waited then .resumed r.name else .begun r.name⟩

/-- The statistics are those that the journal yields. Every lease that was handed out is held, was
handed back, or was taken from its holder. The journal knows of every lease since when it is held,
and of everybody who waits since when. -/
structure Sound (a : Account) : Prop where
  statistics : a.statistics = Ledger.statistics a.entries
  balance : count Event.isHandedOut a.entries =
    a.active.length + count Event.isReturned a.entries + count Event.isReclaimed a.entries +
      count Event.isWithdrawn a.entries
  active : ∀ l ∈ a.active, Held a.entries l
  waiters : ∀ w ∈ a.waiters, Waits a.entries w

/-- An entry about another connection does not matter to a lease. -/
theorem Held.note {entries : List Entry} {entry : Entry} (held : Held entries l)
    (other : entry.event.lent? ≠ some l.connection) : Held (entry :: entries) l := by
  obtain ⟨time, name, stamp, known⟩ := held
  exact ⟨time, name, stamp, (latest_cons_of_ne other entries).trans known⟩

theorem Asks.note {entries : List Entry} {entry : Entry} (asks : Asks entries r)
    (other : entry.event.asker? ≠ some r.name) : Asks (entry :: entries) r :=
  (latest_cons_of_ne other entries).trans asks

/-- An entry about another acquire does not matter to one that waits. -/
theorem Waits.note {entries : List Entry} {entry : Entry} {w : Waiter} (waits : Waits entries w)
    (asker : entry.event.asker? ≠ some w.request.name)
    (waiter : entry.event.waiter? ≠ some w.request.name) : Waits (entry :: entries) w :=
  ⟨waits.1.note asker, (latest_cons_of_ne waiter entries).trans waits.2⟩

/-- The order of those who wait does not matter. -/
theorem Sound.perm {waiters : List Waiter} (sound : a.Sound) (same : waiters.Perm a.waiters) :
    Sound { a with waiters } :=
  ⟨sound.statistics, sound.balance, sound.active, fun w there =>
    sound.waiters w (same.mem_iff.mp there)⟩

theorem Searches.note {entries : List Entry} {entry : Entry} {waited : Bool}
    (searches : Searches entries r waited) (asker : entry.event.asker? ≠ some r.name)
    (waiter : entry.event.waiter? ≠ some r.name) : Searches (entry :: entries) r waited :=
  ⟨searches.asks.note asker, searches.latest.imp fun _ known =>
    (latest_cons_of_ne waiter entries).trans known⟩

namespace Sound

/-! ### Acquires -/

/-- An acquire begins. -/
theorem begin (sound : a.Sound) (free : ∀ w ∈ a.waiters, w.request.name ≠ r.name) :
    Sound { a with entries := ⟨r.started, .begun r.name⟩ :: a.entries } ∧
      Searches (⟨r.started, .begun r.name⟩ :: a.entries) r false := by
  refine ⟨⟨?_, ?_, fun l there => (sound.active l there).note nofun, fun w there => ?_⟩, ?_, ?_⟩
  · rw [sound.statistics]
    simp [Ledger.statistics, total]
  · simpa using sound.balance
  · have other := (free w there).symm
    exact (sound.waiters w there).note (by simpa using other) (by simpa using other)
  · simp [Asks, latest_cons]
  · exact ⟨r.started, by simp [latest_cons]⟩

/-- An acquire stops waiting. -/
theorem resume {w : Waiter} {rest : List Waiter} (sound : a.Sound) (time : Nat)
    (among : a.waiters.Perm (w :: rest))
    (apart : ∀ w' ∈ rest, w'.request.name ≠ w.request.name) :
    Sound
        { a with
          statistics.waitTime := a.statistics.waitTime + (time - w.parkedAt)
          entries := ⟨time, .resumed w.request.name⟩ :: a.entries
          waiters := rest } ∧
      Searches (⟨time, .resumed w.request.name⟩ :: a.entries) w.request true := by
  obtain ⟨asks, known⟩ := sound.waiters w (among.mem_iff.mpr List.mem_cons_self)
  refine ⟨⟨?_, ?_, fun l there => (sound.active l there).note nofun, fun w' there => ?_⟩,
    asks.note nofun, ?_⟩
  · rw [sound.statistics]
    simp [Ledger.statistics, total, known]
  · simpa using sound.balance
  · have other := (apart w' there).symm
    exact (sound.waiters w' (among.mem_iff.mpr (List.mem_cons_of_mem _ there))).note nofun
      (by simpa using other)
  · exact ⟨time, by simp [latest_cons]⟩

/-- An acquire begins to wait, perhaps not for the first time. -/
theorem park {waited : Bool} {w : Waiter} (sound : a.Sound)
    (searches : Searches a.entries w.request waited)
    (free : ∀ w' ∈ a.waiters, w'.request.name ≠ w.request.name) :
    Sound
      { a with
        statistics.hadToWait := a.statistics.hadToWait + if waited then 0 else 1
        entries := ⟨w.parkedAt, .parked w.request.name⟩ :: a.entries
        waiters := a.waiters ++ [w] } := by
  obtain ⟨asks, since, known⟩ := searches
  refine ⟨?_, ?_, fun l there => (sound.active l there).note nofun, fun w' there => ?_⟩
  · rw [sound.statistics]
    cases waited <;> simp [Ledger.statistics, total, known]
  · simpa using sound.balance
  · rcases List.mem_append.mp there with before | new
    · have other := (free w' before).symm
      exact (sound.waiters w' before).note nofun (by simpa using other)
    · obtain rfl := List.mem_singleton.mp new
      exact ⟨asks.note nofun, by simp [latest_cons]⟩

/-- An acquire gets a connection. -/
theorem handOut {waited : Bool} (sound : a.Sound) (searches : Searches a.entries r waited)
    (free : ∀ w ∈ a.waiters, w.request.name ≠ r.name)
    (apart : ∀ l' ∈ a.active, l'.connection ≠ l.connection)
    (stamp : l.checkedOutAt = some time) :
    Sound
      { a with
        statistics.requestCount := a.statistics.requestCount + 1
        statistics.requestTime := a.statistics.requestTime + (time - r.started)
        entries := ⟨time, .handedOut r.name l.connection⟩ :: a.entries
        active := a.active ++ [l] } := by
  have known : latest Event.asker? r.name a.entries = _ := searches.asks
  refine ⟨?_, ?_, fun l' there => ?_, fun w there => ?_⟩
  · -- the connection was not held, so whatever its latest entry says, no lease of it ends
    rw [sound.statistics]
    simp [Ledger.statistics, total, known]
  · have balance := sound.balance
    simp
    omega
  · rcases List.mem_append.mp there with before | new
    · exact (sound.active l' before).note (by simpa using (apart l' before).symm)
    · obtain rfl := List.mem_singleton.mp new
      exact ⟨time, r.name, stamp, by simp [latest_cons]⟩
  · have other := (free w there).symm
    exact (sound.waiters w there).note (by simpa using other) nofun

/-! ### Connections that are no good, and acquires that fail -/

/-- An entry about nobody who waits and no lease that is held counts only if it tells of a bad
connection. -/
theorem mention (sound : a.Sound) (time : Nat) (event : Event) (noWaiter : event.waiter? = none)
    (noAsker : event.asker? = none) (noLease : event.lent? = none) :
    Sound
      { a with
        statistics.badConnections :=
          a.statistics.badConnections + if event.isDiscarded || event.isSpurned then 1 else 0
        entries := ⟨time, event⟩ :: a.entries } where
  statistics := by
    rw [sound.statistics]
    cases event <;> simp_all [Ledger.statistics, total] <;> omega
  balance := by
    have balance := sound.balance
    cases event <;> simp_all
  active l there := (sound.active l there).note (by rw [noLease]; exact nofun)
  waiters w there :=
    (sound.waiters w there).note (by rw [noAsker]; exact nofun) (by rw [noWaiter]; exact nofun)

/-- An acquire fails. -/
theorem fail (sound : a.Sound) (cause : PoolError) :
    Sound { a with entries := ⟨time, .failed name cause⟩ :: a.entries } :=
  sound.mention time (.failed name cause) rfl rfl rfl

/-- An acquire turns down a candidate. -/
theorem discard (sound : a.Sound) (n : Nat) :
    Sound
      { a with
        statistics.badConnections := a.statistics.badConnections + 1
        entries := ⟨time, .discarded n⟩ :: a.entries } :=
  sound.mention time (.discarded n) rfl rfl rfl

/-- A revoked lease is handed back. -/
theorem spurn (sound : a.Sound) (n : Nat) :
    Sound
      { a with
        statistics.badConnections := a.statistics.badConnections + 1
        entries := ⟨time, .spurned n⟩ :: a.entries } :=
  sound.mention time (.spurned n) rfl rfl rfl

/-! ### The ends of a lease -/

section End

variable {before after : List Lease}

/-- The end of one lease does not matter to the others. -/
theorem others {event : Event} (sound : a.Sound) (whole : a.active = before ++ l :: after)
    (once : (a.active.map Lease.connection).Nodup) (ends : event.lent? = some l.connection) :
    ∀ l' ∈ before ++ after, Held (⟨time, event⟩ :: a.entries) l' := by
  intro l' there
  have among : (a.active.map Lease.connection).Perm
      (l.connection :: (before ++ after).map Lease.connection) := by
    rw [whole]
    exact List.perm_middle.map Lease.connection
  have apart := (List.nodup_cons.mp (among.nodup_iff.mp once)).1
  have held : Held a.entries l' :=
    sound.active l' (whole ▸ List.perm_middle.mem_iff.mpr (List.mem_cons_of_mem _ there))
  refine held.note fun same => apart ?_
  rw [Option.some.inj (ends.symm.trans same)]
  exact List.mem_map_of_mem there

/-- A lease ends. For how long it was held counts if it is handed back or reclaimed. -/
theorem conclude (sound : a.Sound) (time : Nat) (event : Event)
    (whole : a.active = before ++ l :: after) (once : (a.active.map Lease.connection).Nodup)
    (ends : event = .returned l.connection ∨ event = .reclaimed l.connection ∨
      event = .withdrawn l.connection) :
    Sound
      { a with
        statistics.claimedOverdue :=
          a.statistics.claimedOverdue + if event.isReclaimed then 1 else 0
        statistics.overdueCheckoutTime :=
          a.statistics.overdueCheckoutTime + if event.isReclaimed then l.heldFor time else 0
        statistics.checkoutTime :=
          a.statistics.checkoutTime +
            if event.isReclaimed || event.isReturned then l.heldFor time else 0
        entries := ⟨time, event⟩ :: a.entries
        active := before ++ after } := by
  obtain ⟨since, holder, stamp, known⟩ := sound.active l (by simp [whole])
  have others : ∀ l' ∈ before ++ after, Held (⟨time, event⟩ :: a.entries) l' := by
    refine sound.others whole once ?_
    rcases ends with rfl | rfl | rfl <;> rfl
  refine ⟨?_, ?_, others, fun w there => ?_⟩
  · rw [sound.statistics]
    rcases ends with rfl | rfl | rfl <;>
      simp [Ledger.statistics, total, known, Lease.heldFor, stamp]
  · have balance := sound.balance
    simp only [whole, List.length_append, List.length_cons] at balance
    rcases ends with rfl | rfl | rfl <;> simp <;> omega
  · have waits := sound.waiters w there
    rcases ends with rfl | rfl | rfl <;> exact waits.note nofun nofun

/-- An overdue lease is taken from its holder. -/
theorem reclaim (sound : a.Sound) (time : Nat) (whole : a.active = before ++ l :: after)
    (once : (a.active.map Lease.connection).Nodup) :
    Sound
      { a with
        statistics.claimedOverdue := a.statistics.claimedOverdue + 1
        statistics.overdueCheckoutTime := a.statistics.overdueCheckoutTime + l.heldFor time
        statistics.checkoutTime := a.statistics.checkoutTime + l.heldFor time
        entries := ⟨time, .reclaimed l.connection⟩ :: a.entries
        active := before ++ after } :=
  sound.conclude time (.reclaimed l.connection) whole once (.inr (.inl rfl))

/-- A valid lease is handed back. -/
theorem giveBack (sound : a.Sound) (time : Nat) (whole : a.active = before ++ l :: after)
    (once : (a.active.map Lease.connection).Nodup) :
    Sound
      { a with
        statistics.checkoutTime := a.statistics.checkoutTime + l.heldFor time
        entries := ⟨time, .returned l.connection⟩ :: a.entries
        active := before ++ after } :=
  sound.conclude time (.returned l.connection) whole once (.inl rfl)

/-- A lease is taken from its holder because everything is closed. -/
theorem withdraw (sound : a.Sound) (time : Nat) (whole : a.active = before ++ l :: after)
    (once : (a.active.map Lease.connection).Nodup) :
    Sound
      { a with
        entries := ⟨time, .withdrawn l.connection⟩ :: a.entries
        active := before ++ after } :=
  sound.conclude time (.withdrawn l.connection) whole once (.inr (.inr rfl))

/-- All leases are taken from their holders because everything is closed. -/
theorem withdrawAll {ls : List Lease} {since : List Entry} (sound : a.Sound)
    (whole : a.active = before ++ ls) (once : (a.active.map Lease.connection).Nodup)
    (events : since.map Entry.event = ls.map fun l => .withdrawn l.connection) :
    Sound { a with entries := since ++ a.entries, active := before } := by
  induction ls generalizing before since with
  | nil =>
    obtain rfl := List.map_eq_nil_iff.mp events
    rw [List.append_nil] at whole
    exact whole ▸ sound
  | cons l ls ih =>
    obtain ⟨entry, since, rfl, event, remain⟩ := List.map_eq_cons_iff.mp events
    obtain ⟨time, _⟩ := entry
    obtain rfl : _ = Event.withdrawn l.connection := event
    -- the youngest go first, so this one is the last that is left
    have others : Sound { a with entries := since ++ a.entries, active := before ++ [l] } :=
      ih (by rw [whole, List.append_assoc]; rfl) remain
    have fewer : (before ++ [l]).Sublist a.active := by
      rw [whole]
      exact (List.singleton_sublist.mpr List.mem_cons_self).append_left before
    have youngest : before ++ [l] = before ++ l :: [] := rfl
    have last := others.withdraw time youngest (once.sublist (fewer.map _))
    rw [List.append_nil] at last
    exact last

end End

end Sound

end Account

end LeasePool
