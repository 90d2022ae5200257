import LeasePool.CommandLine.Arguments
import LeasePool.CommandLine.Folder
import LeasePool.Manifest.Decode
import LeasePool.Manifest.Encode
import LeasePool.Pool.Acquire
import LeasePool.Pool.Change
import LeasePool.Pool.Handle
import LeasePool.Pool.Release

/-!
# The command line

Two commands look at a pool file: `check` shows it as it is understood, with the password masked,
and `probe` lets workers use a pool and reports. An error is shown with what caused it, one cause
on a line.

## Main definitions

* `CommandLine.Ending`: how a program ends.
* `CommandLine.explain`: an error with its causes.
* `CommandLine.check`, `CommandLine.probe`: the commands.
* `CommandLine.run`, `CommandLine.runIn`: carry out a command, in a folder.
-/

namespace LeasePool.CommandLine

/-- How a program ends: its exit code, and what it has written. -/
structure Ending where
  exit : Nat
  stdout : String := ""
  stderr : String := ""

/-! ### Errors -/

/-- A text whose lines stand below one another, the first after a lead. -/
def indented (lead : String) (text : String) : String :=
  let margin := String.ofList (List.replicate lead.length ' ')
  lead ++ ("\n" ++ margin).intercalate (text.splitOn "\n")

/-- What precedes the cause of a number. -/
def numberLead (n : Nat) : String :=
  String.ofList ((toString n).toList.leftpad 5 ' ') ++ ": "

/-- The causes of an error, one below the other, numbered if there are several. -/
def causeLines : List String → List String
  | [] => []
  | [cause] => ["", "Caused by:", indented "    " cause]
  | causes =>
    "" :: "Caused by:" :: causes.mapIdx fun n cause => indented (numberLead n) cause

/-- An error with its causes. -/
def explain (message : String) (causes : List String) : String :=
  "\n".intercalate (("Error: " ++ message) :: causeLines causes) ++ "\n"

/-- A program that fails. -/
def failure (stdout message : String) (causes : List String) : Ending :=
  { exit := 1, stdout, stderr := explain message causes }

/-- A program that cannot load its pool file. -/
def loadFailure (path : String) (e : ManifestError) : Ending :=
  failure "" ("loading pool file " ++ path) (e.message :: e.causes)

/-! ### The commands -/

/-- A pool file as it is understood: the fingerprint of its data source in a comment, and its
content with the password masked. -/
def rendered (m : Manifest) : Except ManifestError String :=
  m.redacted.write.map fun written =>
    "# fingerprint " ++ m.source.fingerprint.hex ++ "\n" ++ written

/-- Show a pool file. -/
def check (path : String) (content : Except FileFault ByteArray) : Ending :=
  match Manifest.load content with
  | .error e => loadFailure path e
  | .ok m =>
    match rendered m with
    | .error e => failure "" e.message e.causes
    | .ok text => { exit := 0, stdout := text ++ "\n" }

variable {σ : Type} (b : Backend σ)

/-- The work of one worker: so many times it acquires a connection, runs a query and hands the
connection back. It counts the queries that fail, and stops if it gets no connection. -/
def work (query : String) : (iterations failures : Nat) → Pool σ → Except PoolError Nat × Pool σ
  | 0, failures, p => (.ok failures, p)
  | n + 1, failures, p =>
    match p.acquire b ⟨"worker", p.source.credentials, none, p.now⟩ with
    | (.granted l, p) =>
      match p.perform b l (.execute query) with
      | (.ok _, p) => work query n failures (p.release b l)
      | (.error _, p) => work query n (failures + 1) (p.release b l)
    | (.failed e, p) => (.error e, p)
    | (.waiting, p) => (.error .severe, p)

/-- The work of several workers, one after the other: the failures of those who came to their end,
and the first error of the others. -/
def workAll (query : String) (iterations : Nat) :
    (workers failures : Nat) → Option PoolError → Pool σ → Nat × Option PoolError × Pool σ
  | 0, failures, first, p => (failures, first, p)
  | n + 1, failures, first, p =>
    match work b query iterations 0 p with
    | (.ok more, p) => workAll query iterations n (failures + more) first p
    | (.error e, p) => workAll query iterations n failures (first.or (some e)) p

/-- Let workers use a pool, and report. -/
def probe (backend : σ) (path : String) (workers iterations : Nat)
    (content : Except FileFault ByteArray) : Ending × σ :=
  match Manifest.load content with
  | .error e => (loadFailure path e, backend)
  | .ok m =>
    let p := Pool.new m.source m.settings backend
    let (failures, first, p) := workAll b m.settings.pingQuery iterations workers 0 none p
    let reported := p.report.text ++ "\n"
    let ended := (p.shutdown b).environment.backend
    match first with
    | some e => (failure reported "acquiring connection" (e.message :: e.causes), ended)
    | none =>
      ({ exit := 0
         stdout := reported ++ s!"✓ {workers * iterations} queries, {failures} failed\n" }, ended)

/-- The commands in words. -/
def usage : String :=
  "Inspect and load-test a connection pool\n\n" ++
  "Usage: poolctl check [--config <CONFIG>]\n" ++
  "       poolctl probe [--config <CONFIG>] [--workers <WORKERS>] [--iterations <ITERATIONS>]\n"

/-- The version of the program. -/
def version : String := "0.1.0"

/-- How a program ends whose arguments are not understood. -/
def misuse : Ending := { exit := 2, stderr := usage }

/-- The path of the pool file that a command needs. -/
def path? : Command → Option String
  | .check path | .probe path _ _ => some path
  | .help | .version _ => none

/-- Carries out a command, given the content of its pool file. -/
def run (backend : σ) (content : Except FileFault ByteArray) : Command → Ending × σ
  | .check path => (check path content, backend)
  | .probe path workers iterations => probe b backend path workers iterations content
  | .help => ({ exit := 0, stdout := usage }, backend)
  | .version name => ({ exit := 0, stdout := name ++ " " ++ version ++ "\n" }, backend)

/-- Carries out what some arguments say, in a folder. -/
def runIn (f : Folder) (backend : σ) (arguments : List String) : Ending × σ :=
  match Command.parse arguments with
  | none => (misuse, backend)
  | some command =>
    let content := match path? command with
      | some path => f.read path
      | none => .error .missing
    run b backend content command

end LeasePool.CommandLine
