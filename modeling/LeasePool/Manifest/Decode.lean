import LeasePool.Duration.Text
import LeasePool.Manifest
import LeasePool.Toml.Document

/-!
# Reading pool files

The outermost table is read in the order of the document, and the first complaint ends the
reading; keys that are not known are passed over. The settings may also be given as an array, in
their order. Only a file that fits is checked for settings that no pool can work with.

## Main definitions

* `Setting.decode`: gives one setting its value.
* `Manifest.ofEntries`: the content of a document.
* `Manifest.parse`: reads the text of a pool file.
* `Manifest.load`: reads the bytes of a pool file.
-/

namespace LeasePool

open Toml (Value Entries)

/-- Reads a text. -/
def decodeText : Value → Except Complaint String
  | .text s => .ok s
  | v => .error (.wrongType v.found "a string")

/-- Reads a count. -/
def decodeCount : Value → Except Complaint Nat
  | .integer n => if n < 0 then .error (.negative n "usize") else .ok n.toNat
  | v => .error (.wrongType v.found "usize")

/-- Reads a boolean. -/
def decodeFlag : Value → Except Complaint Bool
  | .boolean b => .ok b
  | v => .error (.wrongType v.found "a boolean")

/-- Reads a duration: a text, or a number of seconds. -/
def decodeDuration : Value → Except Complaint Duration
  | .text s =>
    match Duration.parse? s with
    | some d => .ok d
    | none => .error (.notDuration s)
  | .integer n =>
    if h : 0 ≤ n ∧ n.toNat < 0x10000000000000000 then .ok (.ofSeconds ⟨n.toNat, h.2⟩)
    else .error (.notDuration (toString n))
  | v => .error (.wrongType v.found
      "a duration such as \"500ms\", \"20s\", \"2m\" or a number of seconds")

/-- Gives one setting the value that a document holds for it. -/
def Setting.decode (setting : Setting) (v : Value) (s : Settings) : Except Complaint Settings :=
  match setting with
  | .maxActive => (decodeCount v).map fun n => { s with maxActive := n }
  | .maxIdle => (decodeCount v).map fun n => { s with maxIdle := n }
  | .maxCheckoutTime => (decodeDuration v).map fun d => { s with maxCheckoutTime := d }
  | .waitTimeout => (decodeDuration v).map fun d => { s with waitTimeout := d }
  | .badConnectionTolerance =>
    (decodeCount v).map fun n => { s with badConnectionTolerance := n }
  | .pingEnabled => (decodeFlag v).map fun b => { s with pingEnabled := b }
  | .pingQuery => (decodeText v).map fun q => { s with pingQuery := q }
  | .pingIdleThreshold => (decodeDuration v).map fun d => { s with pingIdleThreshold := d }

namespace Settings

/-- The settings of a table: defaults, then each known key in the order of the document. -/
def ofEntries (entries : Entries) : Except Complaint Settings :=
  entries.foldlM (fun s (entry : String × Value) =>
    match Setting.ofKey? entry.1 with
    | some setting => setting.decode entry.2 s
    | none => .ok s) {}

/-- The settings of an array: its elements are the settings in their order, as far as it goes. -/
def ofElements (elements : List Value) : Except Complaint Settings :=
  (Setting.all.zip elements).foldlM (fun s (given : Setting × Value) => given.1.decode given.2 s) {}

/-- The settings of a value. A moment has no key that is known. -/
def ofValue : Value → Except Complaint Settings
  | .table entries => ofEntries entries
  | .array elements => ofElements elements
  | .moment => .ok {}
  | v => .error (.wrongType v.found "struct PoolConfig")

end Settings

namespace Credentials

/-- The credentials of a table, its keys taken in the order of the document. -/
def ofEntries (entries : Entries) : Except Complaint Credentials :=
  entries.foldlM (fun c (entry : String × Value) =>
    if entry.1 = "username" then
      (decodeText entry.2).map fun s => { c with username := some s }
    else if entry.1 = "password" then
      (decodeText entry.2).map fun s => { c with password := some s }
    else .ok c) {}

end Credentials

namespace DataSource

/-- The data source of a table. The endpoint is looked at before the credentials, wherever it
stands. -/
def ofEntries (entries : Entries) : Except Complaint DataSource :=
  match entries.lookup "endpoint" with
  | none => .error (.missing "endpoint")
  | some v => do
    let endpoint ← decodeText v
    let credentials ← Credentials.ofEntries entries
    return { endpoint, credentials }

/-- The data source of a value. A moment has no key that is known. -/
def ofValue : Value → Except Complaint DataSource
  | .table entries => ofEntries entries
  | .moment => ofEntries []
  | v => .error (.wrongType v.found "struct DataSource")

end DataSource

namespace Manifest

/-- The content of a document: its data source, which must be there, and its settings. -/
def ofEntries (entries : Entries) : Except Complaint Manifest := do
  let step := fun (found : Option DataSource × Settings) (entry : String × Value) =>
    if entry.1 = "datasource" then
      (DataSource.ofValue entry.2).map fun source => (some source, found.2)
    else if entry.1 = "pool" then
      (Settings.ofValue entry.2).map fun settings => (found.1, settings)
    else .ok found
  match ← entries.foldlM step (none, {}) with
  | (some source, settings) => return { source, settings }
  | (none, _) => throw (.missing "datasource")

/-- Reads the text of a pool file. -/
def parse (text : String) : Except ManifestError Manifest :=
  match Toml.read? text with
  | none => .error .malformed
  | some entries =>
    match ofEntries entries with
    | .error complaint => .error (.misfit complaint)
    | .ok m => m.check.map fun () => m

/-- Reads the bytes of a pool file, if they could be had. -/
def load : Except FileFault ByteArray → Except ManifestError Manifest
  | .error fault => .error (.read fault.message)
  | .ok bytes =>
    match String.fromUTF8? bytes with
    | none => .error (.read "stream did not contain valid UTF-8")
    | some text => parse text

end Manifest

end LeasePool
