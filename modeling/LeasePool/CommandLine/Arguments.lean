import LeasePool.Text.Digits

/-!
# Arguments of the command line

The first argument names a command, the others are its options. An option has a long and a short
name and takes a value, which may be joined to its name or be the next argument. No option may be
given twice, and nothing but options may follow a command. The first fault in the order of the
arguments ends the reading, as does the first wish for help or for the version.

## Main definitions

* `Command`: what can be asked for.
* `Command.parse`: reads the arguments.
-/

namespace LeasePool

/-- What can be asked for on the command line. -/
inductive Command
  /-- Show a pool file as it is understood. -/
  | check (path : String)
  /-- Let workers use a pool, and report. -/
  | probe (path : String) (workers iterations : Nat)
  /-- Explain the commands. -/
  | help
  /-- Tell the version of a program or of one of its commands. -/
  | version (name : String)
deriving DecidableEq

namespace CommandLine

/-- The name of the program. -/
def program : String := "poolctl"

/-- An option that takes a value. -/
inductive Parameter
  /-- The path of the pool file. -/
  | config
  /-- The number of workers. -/
  | workers
  /-- How often each worker uses a connection. -/
  | iterations
deriving DecidableEq

/-- The long name of an option. -/
def Parameter.long : Parameter → String
  | .config => "config"
  | .workers => "workers"
  | .iterations => "iterations"

/-- The short name of an option. -/
def Parameter.short : Parameter → Char
  | .config => 'c'
  | .workers => 'w'
  | .iterations => 'i'

/-- Why the arguments name no command to carry out. -/
inductive Stop
  /-- They are not understood. -/
  | misuse
  | help
  | version
deriving DecidableEq

/-- The values given so far. -/
structure Values where
  config : Option String := none
  workers : Option Nat := none
  iterations : Option Nat := none

/-- Reads a count of 64 bits. -/
def count? (text : String) : Option Nat := (Text.below? 0x10000000000000000 text.toList).map Fin.val

/-- Gives an option its value, unless it has one. -/
def Values.give (v : Values) (p : Parameter) (text : String) : Except Stop Values :=
  match p with
  | .config => if v.config.isSome then .error .misuse else .ok { v with config := some text }
  | .workers =>
    match v.workers, count? text with
    | none, some n => .ok { v with workers := some n }
    | _, _ => .error .misuse
  | .iterations =>
    match v.iterations, count? text with
    | none, some n => .ok { v with iterations := some n }
    | _, _ => .error .misuse

/-- What one argument says. -/
inductive Word
  /-- An option with its value. -/
  | given (p : Parameter) (value : String)
  /-- An option whose value is the next argument. -/
  | awaiting (p : Parameter)
  /-- Nothing but what is named otherwise follows. -/
  | separator
  | stop (s : Stop)

/-- What an argument that begins with two dashes says. -/
def longWord (allowed : List Parameter) (cs : List Char) : Word :=
  let name := String.ofList (cs.takeWhile (· ≠ '='))
  match cs.dropWhile (· ≠ '='), allowed.find? fun p => p.long = name with
  | '=' :: value, some p => .given p (String.ofList value)
  | [], some p => .awaiting p
  | [], none =>
    if name = "" then .separator
    else if name = "help" then .stop .help
    else if name = "version" then .stop .version
    else .stop .misuse
  | _, _ => .stop .misuse

/-- What an argument that begins with one dash says. -/
def shortWord (allowed : List Parameter) : List Char → Word
  | [] => .stop .misuse
  | c :: rest =>
    match allowed.find? fun p => p.short = c, rest with
    | some p, [] => .awaiting p
    | some p, '=' :: value => .given p (String.ofList value)
    | some p, value => .given p (String.ofList value)
    | none, _ =>
      if c = 'h' then .stop .help else if c = 'V' then .stop .version else .stop .misuse

/-- What an argument says. -/
def word (allowed : List Parameter) (argument : String) : Word :=
  match argument.toList with
  | '-' :: '-' :: cs => longWord allowed cs
  | '-' :: cs => shortWord allowed cs
  | _ => .stop .misuse

/-- An argument that can be the value of the option before it: it does not look like an option. -/
def isValue (argument : String) : Bool :=
  match argument.toList with
  | '-' :: _ :: _ => false
  | _ => true

/-- Reads the options of a command. -/
def options (allowed : List Parameter) (v : Values) : List String → Except Stop Values
  | [] => .ok v
  | argument :: rest =>
    match word allowed argument with
    | .given p value => (v.give p value).bind fun v => options allowed v rest
    | .awaiting p =>
      match rest with
      | value :: others =>
        if isValue value then (v.give p value).bind fun v => options allowed v others
        else .error .misuse
      | [] => .error .misuse
    -- no command takes anything but options
    | .separator => if rest = [] then .ok v else .error .misuse
    | .stop s => .error s

/-- The path of the pool file, unless another is given. -/
def defaultPath : String := "pool.toml"

/-- The commands, each with its options and what it is with their values. -/
def commands : List (String × List Parameter × (Values → Command)) :=
  [("check", [.config], fun v => .check (v.config.getD defaultPath)),
    ("probe", [.config, .workers, .iterations], fun v =>
      .probe (v.config.getD defaultPath) (v.workers.getD 4) (v.iterations.getD 10))]

end CommandLine

open CommandLine in
/-- Reads the arguments. Arguments that are not understood name no command. -/
def Command.parse : List String → Option Command
  | [] => none
  | first :: rest =>
    match commands.find? fun command => command.1 = first with
    | some (name, allowed, command) =>
      match options allowed {} rest with
      | .ok v => some (command v)
      | .error .misuse => none
      | .error .help => some .help
      | .error .version => some (.version (program ++ "-" ++ name))
    | none =>
      if first = "help" then
        if rest.all fun name => (commands.map Prod.fst).contains name then some .help else none
      else match word [] first with
        | .stop .help => some .help
        | .stop .version => some (.version program)
        | _ => none

end LeasePool
