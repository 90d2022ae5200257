import LeasePool.DataSource
import LeasePool.Duration.Text
import LeasePool.Settings

/-!
# Status and report

A status is what a pool counted up to an instant, and a report shows it below the settings, one
fact on a line. Times in the settings are shown as in a pool file, measured times to the
nanosecond.

## Main definitions

* `Status`: counts and averages at an instant.
* `Report`: a status with the data source and the settings.
* `Report.text`: the report in words.
-/

namespace LeasePool

/-- What a pool counted up to an instant. Averages are in nanoseconds. -/
structure Status where
  /-- Connections leased at the instant. -/
  active : Nat := 0
  /-- Connections idle at the instant. -/
  idle : Nat := 0
  /-- Acquires that got a connection. -/
  requestCount : Nat := 0
  averageRequestTime : Nat := 0
  averageCheckoutTime : Nat := 0
  /-- Leases taken from their holders because they were overdue. -/
  claimedOverdue : Nat := 0
  averageOverdueCheckoutTime : Nat := 0
  /-- Acquires that had to wait. -/
  hadToWait : Nat := 0
  averageWaitTime : Nat := 0
  /-- Bad connections met on checkout or return. -/
  badConnectionCount : Nat := 0
deriving DecidableEq, Inhabited

/-- A status with the data source and the settings of its pool. -/
structure Report where
  source : DataSource
  settings : Settings
  status : Status

namespace Report

/-- How many characters come before the value on a line. -/
def labelWidth : Nat := 32

/-- One fact: a blank, its label, and its value in a column of its own. -/
def line (label value : String) : String :=
  String.ofList ((' ' :: label.toList).rightpad labelWidth ' ') ++ value

/-- The lines about the settings. A credential that is missing shows as `NULL`. -/
def settingLines (source : DataSource) (s : Settings) : List String :=
  let shown := source.credentials.masked
  [
    line "endpoint" source.endpoint,
    line "username" (shown.username.getD "NULL"),
    line "password" (shown.password.getD "NULL"),
    line "maxActive" (toString s.maxActive),
    line "maxIdle" (toString s.maxIdle),
    line "maxCheckoutTime" s.maxCheckoutTime.format,
    line "waitTimeout" s.waitTimeout.format,
    line "localBadConnectionTolerance" (toString s.badConnectionTolerance),
    line "pingEnabled" (toString s.pingEnabled),
    line "pingQuery" s.pingQuery,
    line "pingIdleThreshold" s.pingIdleThreshold.format
  ]

/-- The lines about the status. -/
def statusLines (s : Status) : List String :=
  [
    line "activeConnections" (toString s.active),
    line "idleConnections" (toString s.idle),
    line "requestCount" (toString s.requestCount),
    line "averageRequestTime" (Duration.exactText s.averageRequestTime),
    line "averageCheckoutTime" (Duration.exactText s.averageCheckoutTime),
    line "claimedOverdue" (toString s.claimedOverdue),
    line "averageOverdueCheckoutTime" (Duration.exactText s.averageOverdueCheckoutTime),
    line "hadToWait" (toString s.hadToWait),
    line "averageWaitTime" (Duration.exactText s.averageWaitTime),
    line "badConnectionCount" (toString s.badConnectionCount)
  ]

/-- The lines of a report. -/
def lines (r : Report) : List String :=
  ["===CONFIGURATION=============================================="] ++
    settingLines r.source r.settings ++
    [" ---STATUS-----------------------------------------------------"] ++
    statusLines r.status ++
    ["==============================================================="]

/-- The report in words. -/
def text (r : Report) : String := "\n".intercalate r.lines

end Report

end LeasePool
