import LeasePool.Error

/-!
# Files in a folder

A folder holds files and no further folders; nothing is known of what lies outside it.

## Main definitions

* `Folder.read`: the content of the file at a path.
-/

namespace LeasePool

/-- Files by their names. -/
structure Folder where
  files : List (String × ByteArray)

namespace Folder

/-- The longest name of a file, in bytes. -/
def longestName : Nat := 255

/-- The longest path, in bytes. -/
def longestPath : Nat := 4095

/-- The names on a path. Empty names and single dots lead nowhere else. -/
def names (path : String) : List String :=
  (path.splitOn "/").filter fun name => name ≠ "" ∧ name ≠ "."

/-- The path ends with a name, so that it may lead to a file. -/
def EndsWithName (path : String) : Prop :=
  ∀ name ∈ (path.splitOn "/").getLast?, name ≠ "" ∧ name ≠ "."

instance (path : String) : Decidable (EndsWithName path) :=
  inferInstanceAs (Decidable (∀ name ∈ (path.splitOn "/").getLast?, _))

/-- The content of the file at a path. -/
def read (f : Folder) (path : String) : Except FileFault ByteArray :=
  if path = "" then .error .missing
  else if longestPath < path.utf8ByteSize then .error .tooLong
  else if (names path).all (· = "..") then .error .folder
  else if path.startsWith "/" then .error .missing
  else match names path with
    | [] => .error .folder
    | name :: rest =>
      if longestName < name.utf8ByteSize then .error .tooLong
      else match f.files.lookup name with
        | none => .error .missing
        | some content => if rest = [] ∧ EndsWithName path then .ok content else .error .beyondFile

end Folder

end LeasePool
