import LeasePool.Toml.Value

/-!
# Errors

What can go wrong with a connection, with an acquire or a handle, and with a pool file. An error
is its cause; its wording, and the chain of wordings of what caused it, are given here once.

## Main definitions

* `BackendError`, `PoolError`, `ManifestError`: the three families.
* `BackendError.message`, `PoolError.message`, `ManifestError.message`: their wordings.
* `BackendError.causes`, `PoolError.causes`, `ManifestError.causes`: the wordings of the causes,
  the nearest first.
-/

namespace LeasePool

/-- What a backend reports. -/
inductive BackendError
  /-- The connection is closed. -/
  | closed
  /-- Input or output failed, in the words of the system. -/
  | io (cause : String)
  /-- Anything else, in the words of the backend. -/
  | driver (text : String)
deriving DecidableEq

namespace BackendError

/-- The wording of an error of a backend. -/
def message : BackendError → String
  | closed => "connection closed"
  | io cause => "i/o error: " ++ cause
  | driver text => text

/-- The causes of an error of a backend. -/
def causes : BackendError → List String
  | io cause => [cause]
  | closed | driver _ => []

end BackendError

/-- What a pool answers instead of a connection or a result. -/
inductive PoolError
  /-- One acquire met more bad connections than it tolerates. -/
  | exhausted (attempts : Nat)
  /-- The token of the acquire was cancelled. -/
  | interrupted
  /-- An acquire ended with neither a connection nor a reason. -/
  | severe
  /-- No connection could be opened. -/
  | connect (cause : BackendError)
  /-- The lease of the handle was revoked. -/
  | invalidConnection (id : Nat)
  /-- The connection failed an operation. -/
  | connection (cause : BackendError)
  /-- The pool is shut down. -/
  | closed
deriving DecidableEq

namespace PoolError

/-- The wording of an error of a pool. -/
def message : PoolError → String
  | exhausted attempts =>
    s!"could not get a good connection to the database after {attempts} bad connections"
  | interrupted => "acquire interrupted while waiting for a connection"
  | severe => "unknown severe error condition: the pool returned no connection"
  | connect cause => "failed to open connection: " ++ cause.message
  | invalidConnection id => s!"connection {id} is invalid"
  | connection cause => "connection error: " ++ cause.message
  | closed => "connection pool is shut down"

/-- The causes of an error of a pool. -/
def causes : PoolError → List String
  | connect cause | connection cause => cause.message :: cause.causes
  | exhausted _ | interrupted | severe | invalidConnection _ | closed => []

end PoolError

/-- Why a file cannot be read. -/
inductive FileFault
  /-- There is no such file. -/
  | missing
  /-- The path leads to a folder. -/
  | folder
  /-- The path goes on beyond a file. -/
  | beyondFile
  /-- A name on the path is too long. -/
  | tooLong
  /-- Anything else, in the words of the system. -/
  | other (cause : String)
deriving DecidableEq

/-- A fault in the words of the system. -/
def FileFault.message : FileFault → String
  | .missing => "No such file or directory (os error 2)"
  | .folder => "Is a directory (os error 21)"
  | .beyondFile => "Not a directory (os error 20)"
  | .tooLong => "File name too long (os error 36)"
  | .other cause => cause

/-- Why a well-formed document is no pool file. -/
inductive Complaint
  /-- A field that has no default is missing. -/
  | missing (field : String)
  /-- A value is of a wrong type. -/
  | wrongType (found expected : String)
  /-- A number is below zero where something is counted. -/
  | negative (n : Int) (expected : String)
  /-- A text or a number is no duration. -/
  | notDuration (text : String)
deriving DecidableEq

/-- The wording of a complaint. -/
def Complaint.message : Complaint → String
  | .missing field => "missing field `" ++ field ++ "`"
  | .wrongType found expected => "invalid type: " ++ found ++ ", expected " ++ expected
  | .negative n expected => s!"invalid value: integer `{n}`, expected " ++ expected
  | .notDuration text => "invalid duration: " ++ text

/-- What can go wrong with a pool file. -/
inductive ManifestError
  /-- The file could not be read. -/
  | read (cause : String)
  /-- The text is not a well-formed document. -/
  | malformed
  /-- The document is no pool file. -/
  | misfit (complaint : Complaint)
  /-- The file holds a number that cannot be written. -/
  | unwritable
  /-- A text is no duration. -/
  | invalidDuration (text : String)
  /-- No pool can work with the settings. -/
  | invalid (reason : String)
deriving DecidableEq

namespace ManifestError

/-- What the wording of every fault of a document begins with. -/
def parseFault : String := "TOML parse error"

/-- The wording of an error of a pool file. -/
def message : ManifestError → String
  | read cause => "failed to read config: " ++ cause
  | malformed => "failed to parse config: " ++ parseFault
  | misfit complaint => "failed to parse config: " ++ parseFault ++ ": " ++ complaint.message
  | unwritable => "failed to serialize config: out-of-range value for u64 type"
  | invalidDuration text => "invalid duration: " ++ text
  | invalid reason => "invalid config: " ++ reason

/-- The causes of an error of a pool file. -/
def causes : ManifestError → List String
  | read cause => [cause]
  | malformed => [parseFault]
  | misfit complaint => [parseFault ++ ": " ++ complaint.message]
  | unwritable => ["out-of-range value for u64 type"]
  | invalidDuration _ | invalid _ => []

end ManifestError

end LeasePool
