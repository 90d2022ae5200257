import LeasePool.Duration.Exact
import LeasePool.Text.Blank
import LeasePool.Text.Quoted

/-!
# Settings of a pool

The settings bound a pool's connections and times and say whether idle connections are probed.
They start from defaults and are checked before a pool file is accepted or written.

## Main definitions

* `Settings`: the eight settings, with their defaults.
* `Settings.badConnectionLimit`: how many bad connections one acquire tolerates.
* `Settings.LimitFits`: that number is what it should be.
* `Settings.fault?`: the first reason why no pool can work with the settings.
-/

namespace LeasePool

/-- The default of the two times that bound a lease and a wait. -/
def Duration.twentySeconds : Duration := .ofSeconds ⟨20, by decide⟩

/-- What bounds a pool. -/
structure Settings where
  /-- The most connections that may be leased at once. -/
  maxActive : Nat := 10
  /-- The most connections kept idle. -/
  maxIdle : Nat := 5
  /-- A lease held for longer than this may be reclaimed. -/
  maxCheckoutTime : Duration := .twentySeconds
  /-- The bound on one wait for a connection. -/
  waitTimeout : Duration := .twentySeconds
  /-- How many bad connections an acquire tolerates beyond the most kept idle. -/
  badConnectionTolerance : Nat := 3
  /-- Whether connections are probed before they are handed out. -/
  pingEnabled : Bool := false
  /-- The query that probes a connection. -/
  pingQuery : String := "NO PING QUERY SET"
  /-- A connection is probed only if it was last handed out longer ago than this. -/
  pingIdleThreshold : Duration := .zero
deriving DecidableEq

instance : Inhabited Settings := ⟨{}⟩

namespace Settings

/-- The numbers that a word of 64 bits can hold lie below this one. -/
def wordLimit : Nat := 0x10000000000000000

/-- The bad connections that one acquire tolerates. They are counted in a word, so that too large a
sum wraps around; a build that checks for this stops there instead. -/
def badConnectionLimit (s : Settings) : Nat :=
  (s.maxIdle + s.badConnectionTolerance) % wordLimit

/-- An acquire tolerates as many bad connections as may lie idle, and the given number beyond. -/
def LimitFits (s : Settings) : Prop := s.maxIdle + s.badConnectionTolerance < wordLimit

instance (s : Settings) : Decidable s.LimitFits := inferInstanceAs (Decidable (_ < _))

theorem badConnectionLimit_of_fits {s : Settings} (fits : s.LimitFits) :
    s.badConnectionLimit = s.maxIdle + s.badConnectionTolerance :=
  Nat.mod_eq_of_lt fits

/-- The settings with probing switched on. -/
def withPing (s : Settings) (query : String) (idleThreshold : Duration) : Settings :=
  { s with pingEnabled := true, pingQuery := query, pingIdleThreshold := idleThreshold }

/-- The settings for inspection. -/
def inspect (s : Settings) : String :=
  s!"PoolConfig \x7b max_active: {s.maxActive}, max_idle: {s.maxIdle}, max_checkout_time: " ++
    Duration.exactText s.maxCheckoutTime.nanos ++ ", wait_timeout: " ++
    Duration.exactText s.waitTimeout.nanos ++ ", local_bad_connection_tolerance: " ++
    toString s.badConnectionTolerance ++ ", ping_enabled: " ++ toString s.pingEnabled ++
    ", ping_query: " ++ Text.quoted s.pingQuery ++ ", ping_idle_threshold: " ++
    Duration.exactText s.pingIdleThreshold.nanos ++ " \x7d"

/-- The settings that are times, by the names of their keys in a pool file. -/
def times (s : Settings) : List (String × Duration) :=
  [("max_checkout_time", s.maxCheckoutTime), ("wait_timeout", s.waitTimeout),
    ("ping_idle_threshold", s.pingIdleThreshold)]

/-- Why no pool can work with some settings. -/
inductive Fault
  /-- Not one connection may be leased. -/
  | noneActive
  /-- Probing is on and the query is blank. -/
  | blankPing
  /-- A time is not a whole number of milliseconds. -/
  | fractionOfMilli (key : String) (time : Duration)
deriving DecidableEq

/-- A fault in words. -/
def Fault.message : Fault → String
  | .noneActive => "max_active must be at least 1"
  | .blankPing => "ping_query must be set when ping_enabled is true"
  | .fractionOfMilli key time =>
    s!"{key} must be a whole number of milliseconds, got {Duration.exactText time.nanos}"

/-- The first fault of the settings: the bound on leases is looked at first, then the probe, then
the times in the order of their keys. -/
def fault? (s : Settings) : Option Fault :=
  if s.maxActive = 0 then some .noneActive
  else if s.pingEnabled ∧ Text.trim s.pingQuery.toList = [] then some .blankPing
  else (s.times.find? fun (_, time) => ¬ time.IsWholeMillis).map fun (key, time) =>
    .fractionOfMilli key time

/-- The settings have no fault. -/
def Valid (s : Settings) : Prop :=
  0 < s.maxActive ∧ (s.pingEnabled → Text.trim s.pingQuery.toList ≠ []) ∧
    s.maxCheckoutTime.IsWholeMillis ∧ s.waitTimeout.IsWholeMillis ∧
      s.pingIdleThreshold.IsWholeMillis

theorem fault?_eq_none_iff (s : Settings) : s.fault? = none ↔ s.Valid := by
  unfold fault? Valid
  split
  · simp_all
  · split
    · simp_all
    · simp_all [times, Nat.pos_iff_ne_zero]

end Settings

end LeasePool
