import LeasePool.Toml.Text
import LeasePool.Toml.Value

/-!
# Writing TOML documents

A document of sections is written with a header for each, one entry on a line, and an empty line
between sections. Integers that do not fit in 64 bits with a sign cannot be written.

## Main definitions

* `Toml.Scalar`: the values that sections hold.
* `Toml.Scalar.write?`: the written form of one.
* `Toml.write?`: the written form of a document.
-/

namespace LeasePool.Toml

/-- A value that stands on one line. -/
inductive Scalar
  | text (s : String)
  | integer (n : Int)
  | boolean (b : Bool)
deriving DecidableEq

/-- The value of a document that a scalar is. -/
def Scalar.value : Scalar → Value
  | .text s => .text s
  | .integer n => .integer n
  | .boolean b => .boolean b

/-- The written form of a scalar; integers have a range. -/
def Scalar.write? : Scalar → Option String
  | .text s => some (writeString s)
  | .integer n =>
    if -(integerLimit : Int) ≤ n ∧ n < integerLimit then some (toString n) else none
  | .boolean b => some (toString b)

/-- A named section and its entries. -/
abbrev NamedSection := String × List (String × Scalar)

/-- The line of an entry. -/
def writeAssignment? (entry : String × Scalar) : Option String :=
  entry.2.write?.map fun written => entry.1 ++ " = " ++ written ++ "\n"

/-- A section: its header and its entries. -/
def writeSection? (s : NamedSection) : Option String :=
  (s.2.mapM writeAssignment?).map fun entries => "[" ++ s.1 ++ "]\n" ++ String.join entries

/-- A document. -/
def write? (sections : List NamedSection) : Option String :=
  (sections.mapM writeSection?).map fun written => "\n".intercalate written

end LeasePool.Toml
