import LeasePool.DataSource
import LeasePool.Error
import LeasePool.Settings
import LeasePool.Toml.Value

/-!
# Pool files

A pool file names a data source and gives the settings of a pool; settings that it leaves out have
their defaults.

## Main definitions

* `Manifest`: the content of a pool file.
* `Manifest.redacted`: the content with the password masked.
* `Setting`: the settings one by one, with the keys they have in a file.
-/

namespace LeasePool

/-- The content of a pool file. -/
structure Manifest where
  source : DataSource
  settings : Settings := {}
deriving DecidableEq, Inhabited

namespace Manifest

/-- The content with the password masked. -/
def redacted (m : Manifest) : Manifest :=
  { m with source.credentials := m.source.credentials.masked }

/-- Fails if no pool can work with the settings. -/
def check (m : Manifest) : Except ManifestError Unit :=
  match m.settings.fault? with
  | some fault => .error (.invalid fault.message)
  | none => .ok ()

end Manifest

/-- The settings one by one. -/
inductive Setting
  | maxActive
  | maxIdle
  | maxCheckoutTime
  | waitTimeout
  | badConnectionTolerance
  | pingEnabled
  | pingQuery
  | pingIdleThreshold
deriving DecidableEq

namespace Setting

/-- All settings, in the order in which a file shows them. -/
def all : List Setting :=
  [maxActive, maxIdle, maxCheckoutTime, waitTimeout, badConnectionTolerance, pingEnabled,
    pingQuery, pingIdleThreshold]

/-- The key of a setting. -/
def key : Setting → String
  | maxActive => "max_active"
  | maxIdle => "max_idle"
  | maxCheckoutTime => "max_checkout_time"
  | waitTimeout => "wait_timeout"
  | badConnectionTolerance => "local_bad_connection_tolerance"
  | pingEnabled => "ping_enabled"
  | pingQuery => "ping_query"
  | pingIdleThreshold => "ping_idle_threshold"

/-- The setting with a key. -/
def ofKey? (key : String) : Option Setting := all.find? fun s => s.key = key

theorem mem_all (s : Setting) : s ∈ all := by cases s <;> decide

theorem key_injective {s t : Setting} (h : s.key = t.key) : s = t := by
  cases s <;> cases t <;> simp_all [key]

end Setting

end LeasePool
