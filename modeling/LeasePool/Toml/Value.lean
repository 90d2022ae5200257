import LeasePool.Decimal.Shortest
import LeasePool.Text.Quoted

/-!
# TOML values

The values of a TOML document. Tables keep their entries in the order of the document. A date or
a time is told apart from the other values and has no content here, since no setting takes one.

## Main definitions

* `Toml.Value`: a value.
* `Toml.Value.found`: how a complaint about a value of a wrong type names it.
-/

namespace LeasePool.Toml

/-- A value of a document. -/
inductive Value
  | text (s : String)
  | integer (n : Int)
  | float (x : Binary64)
  | boolean (b : Bool)
  /-- A date, a time of day, or both. -/
  | moment
  | array (elements : List Value)
  | table (entries : List (String × Value))

/-- The entries of a table, in the order of the document. -/
abbrev Entries := List (String × Value)

/-- The value as a complaint names it. A moment is taken for a table. -/
def Value.found : Value → String
  | .text s => "string " ++ LeasePool.Text.quoted s
  | .integer n => "integer `" ++ toString n ++ "`"
  | .float x => "floating point `" ++ x.text ++ "`"
  | .boolean b => "boolean `" ++ toString b ++ "`"
  | .moment => "map"
  | .array _ => "sequence"
  | .table _ => "map"

/-- The integers that a document can hold are those of 64 bits with a sign. -/
def integerLimit : Nat := 0x8000000000000000

end LeasePool.Toml
