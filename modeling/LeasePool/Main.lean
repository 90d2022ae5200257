import LeasePool.CommandLine
import LeasePool.Tcp.Network

/-!
# The program

The outermost layer: it reads the arguments and the pool file, and writes what the command line
answers. It opens no sockets itself, so that every endpoint is out of its reach.
-/

namespace LeasePool

/-- What the system said of a file that could not be read. -/
def FileFault.ofIOError : IO.Error → FileFault
  | .noFileOrDirectory .. => .missing
  | .inappropriateType _ code _ => if code = 21 then .folder else .beyondFile
  | e => .other (toString e)

/-- The content of a file. -/
def readContent (path : String) : IO (Except FileFault ByteArray) := do
  try return .ok (← IO.FS.readBinFile ⟨path⟩)
  catch e => return .error (.ofIOError e)

/-- The content of the file that a command needs. -/
def contentFor (command : Command) : IO (Except FileFault ByteArray) :=
  match CommandLine.path? command with
  | some path => readContent path
  | none => return .error .missing

/-- How the program ends for some arguments. -/
def endingOf (arguments : List String) : IO CommandLine.Ending := do
  match Command.parse arguments with
  | none => return CommandLine.misuse
  | some command =>
    let network : Tcp.Network := { address := "", reach := .unreachable }
    return (CommandLine.run Tcp.backend network (← contentFor command) command).1

end LeasePool

/-- Runs the program. -/
def main (arguments : List String) : IO UInt32 := do
  let ending ← LeasePool.endingOf arguments
  IO.print ending.stdout
  IO.eprint ending.stderr
  return ending.exit.toUInt32
