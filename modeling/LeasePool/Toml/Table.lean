import LeasePool.Toml.Value

/-!
# Building TOML tables

A document, and a table in braces, are built from keys with dots and from headers. A table under
construction remembers where it came from, since that decides whether more may be added to it.

## Main definitions

* `Toml.Origin`: how a table came to be.
* `Toml.Node`: a value under construction.
* `Toml.insert?`: adds a value under a key with dots.
* `Toml.addTable?`, `Toml.addElement?`: add a table, or an element of an array of tables, under
  the name of its header.
* `Toml.finish`: the entries that were built.
-/

namespace LeasePool.Toml

/-- How a table came to be. -/
inductive Origin
  /-- It has a header of its own, or is the outermost. -/
  | stated
  /-- A longer header passes through it. -/
  | implied
  /-- A key with dots passes through it. -/
  | dotted
deriving DecidableEq

/-- A value under construction. -/
inductive Node
  /-- Nothing can be added to a value. -/
  | value (v : Value)
  | table (origin : Origin) (nodes : List (String × Node))
  /-- The elements of an array of tables, each with a header of its own. -/
  | tables (elements : List (List (String × Node)))

/-- The entries of a table under construction. -/
abbrev Nodes := List (String × Node)

/-- The nodes with a name given another node, in its old place. -/
def Nodes.replace (name : String) (node : Node) (nodes : Nodes) : Nodes :=
  nodes.map fun (key, old) => if key = name then (key, node) else (key, old)

/-- The nodes without a name. -/
def Nodes.without (name : String) (nodes : Nodes) : Nodes := nodes.filter fun (key, _) => key ≠ name

/-- Follows names from a table and changes the one they lead to. A name that is missing makes a
table of the kind `made`; one that stands for an array of tables leads to its last element. Keys
with dots may not pass through a table that has a header. -/
def descend? (made : Origin) (change : Origin → Nodes → Option Nodes) :
    List String → Origin → Nodes → Option Nodes
  | [], origin, nodes => change origin nodes
  | name :: path, _, nodes =>
    match nodes.lookup name with
    | none =>
      (descend? made change path made []).map fun inner => nodes ++ [(name, .table made inner)]
    -- nothing can be added to a value, and of an array of tables only the last is still open
    | some (.value _) => none
    | some (.tables elements) =>
      elements.getLast?.bind fun last =>
        (descend? made change path .stated last).map fun inner =>
          nodes.replace name (.tables (elements.dropLast ++ [inner]))
    | some (.table origin inner) =>
      if made = .dotted ∧ origin = .stated then none
      else (descend? made change path origin inner).map fun inner =>
        nodes.replace name (.table origin inner)

/-- Adds a value under a key whose parts before the last are `path`. The last part must be new,
and a table that a key with dots adds to must itself come from such keys. -/
def insert? (path : List String) (name : String) (v : Value) (nodes : Nodes) : Option Nodes :=
  descend? .dotted (fun origin inner =>
    -- with a path, the table it leads to must come from keys with dots
    if (origin = .dotted) ↔ path = [] then none
    else if (inner.lookup name).isSome then none
    else some (inner ++ [(name, .value v)])) path .stated nodes

/-- Adds the table with a header of its own, whose content comes from `fill`. If longer headers
passed through it before, it keeps what they added, and moves to the end of its parent. -/
def addTable? (fill : Nodes → Option Nodes) (path : List String) (name : String)
    (nodes : Nodes) : Option Nodes :=
  descend? .implied (fun _ inner =>
    match inner.lookup name with
    | none => (fill []).map fun content => inner ++ [(name, .table .stated content)]
    | some (.table .implied old) =>
      (fill old).map fun content => inner.without name ++ [(name, .table .stated content)]
    | some _ => none) path .stated nodes

/-- Adds an element of the array of tables with that name, whose content comes from `fill`. -/
def addElement? (fill : Nodes → Option Nodes) (path : List String) (name : String)
    (nodes : Nodes) : Option Nodes :=
  descend? .implied (fun _ inner =>
    match inner.lookup name with
    | none => (fill []).map fun content => inner ++ [(name, .tables [content])]
    | some (.tables elements) =>
      (fill []).map fun content => inner.replace name (.tables (elements ++ [content]))
    | some _ => none) path .stated nodes

mutual

/-- The value that a node stands for. -/
def Node.finish : Node → Value
  | .value v => v
  | .table _ nodes => .table (finish nodes)
  | .tables elements => .array (finishAll elements)

/-- The entries of a table. -/
def finish : List (String × Node) → Entries
  | [] => []
  | (name, node) :: rest => (name, node.finish) :: finish rest

/-- The elements of an array of tables. -/
def finishAll : List (List (String × Node)) → List Value
  | [] => []
  | element :: rest => .table (finish element) :: finishAll rest

end

end LeasePool.Toml
