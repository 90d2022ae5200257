import LeasePool.Duration.Text
import LeasePool.Manifest
import LeasePool.Toml.Printer

/-!
# Writing pool files

A pool file is written with all its settings, and with the credentials that it has. Settings that
no pool can work with are not written.

## Main definitions

* `Setting.encode`: the value of one setting.
* `Manifest.write`: the text of a pool file.
-/

namespace LeasePool

open Toml (Scalar NamedSection)

/-- The value that a document holds for a setting. -/
def Setting.encode (setting : Setting) (s : Settings) : Scalar :=
  match setting with
  | .maxActive => .integer s.maxActive
  | .maxIdle => .integer s.maxIdle
  | .maxCheckoutTime => .text s.maxCheckoutTime.format
  | .waitTimeout => .text s.waitTimeout.format
  | .badConnectionTolerance => .integer s.badConnectionTolerance
  | .pingEnabled => .boolean s.pingEnabled
  | .pingQuery => .text s.pingQuery
  | .pingIdleThreshold => .text s.pingIdleThreshold.format

namespace Manifest

/-- The entry of an optional text. -/
def optionalEntry (key : String) (s : Option String) : List (String × Scalar) :=
  s.toList.map fun text => (key, .text text)

/-- The section of the data source. -/
def sourceSection (d : DataSource) : NamedSection :=
  ("datasource", ("endpoint", .text d.endpoint) ::
    (optionalEntry "username" d.credentials.username ++
      optionalEntry "password" d.credentials.password))

/-- The section of the settings. -/
def settingsSection (s : Settings) : NamedSection :=
  ("pool", Setting.all.map fun setting => (setting.key, setting.encode s))

/-- The text of a pool file. -/
def write (m : Manifest) : Except ManifestError String :=
  m.check.bind fun () =>
    match Toml.write? [sourceSection m.source, settingsSection m.settings] with
    | some text => .ok text
    | none => .error .unwritable

end Manifest

end LeasePool
