import LeasePool.Toml.Document

/-!
# The integers of a document

Every integer that is read fits in 64 bits with a sign, wherever in a document it stands: the words
that are integers are in the range, and arrays, tables in braces, keys with dots and headers only
move values around.

## Main definitions

* `Toml.Value.InRange`, `Toml.Node.InRange`: every integer inside fits in 64 bits with a sign.
* `Toml.Keeps`: a change keeps a table in the range.

## Main results

* `Toml.word?_inRange`: the words of a document are in the range.
* `Toml.valueWithin?_inRange`: so are its values.
* `Toml.descend?_inRange`: a change at the end of a path keeps a table in the range.
* `Toml.read?_inRange`: so is the outermost table of a document.
-/

namespace LeasePool.Toml

/-- Every integer in the value fits in 64 bits with a sign. -/
inductive Value.InRange : Value → Prop
  | text (s : String) : InRange (.text s)
  | integer {n : Int} (low : -(integerLimit : Int) ≤ n) (high : n < integerLimit) :
    InRange (.integer n)
  | float (x : Binary64) : InRange (.float x)
  | boolean (b : Bool) : InRange (.boolean b)
  | moment : InRange .moment
  | array {vs : List Value} (all : ∀ v ∈ vs, InRange v) : InRange (.array vs)
  | table {entries : Entries} (all : ∀ e ∈ entries, InRange e.2) : InRange (.table entries)

/-- Every integer in the value under construction fits in 64 bits with a sign. -/
inductive Node.InRange : Node → Prop
  | value {v : Value} (inRange : v.InRange) : InRange (.value v)
  | table {origin : Origin} {nodes : Nodes} (all : ∀ e ∈ nodes, InRange e.2) :
    InRange (.table origin nodes)
  | tables {elements : List Nodes} (all : ∀ nodes ∈ elements, ∀ e ∈ nodes, InRange e.2) :
    InRange (.tables elements)

/-- Every integer in the table under construction fits in 64 bits with a sign. -/
def Nodes.InRange (nodes : Nodes) : Prop := ∀ e ∈ nodes, e.2.InRange

/-- Every value that is read is in the range. -/
def Reader.InRange (reader : Reader Value) : Prop :=
  ∀ cs found, reader cs = some found → found.1.InRange

variable {cs rest : List Char} {v : Value} {nodes nodes' : Nodes}

/-! ### Words -/

theorem signed?_inRange {negative : Bool} {magnitude : Nat} {n : Int}
    (found : signed? negative magnitude = some n) :
    -(integerLimit : Int) ≤ n ∧ n < integerLimit := by
  unfold signed? at found
  have positive : 0 < integerLimit := by decide
  split at found <;> split at found <;> cases found <;> omega

theorem integer?_inRange {n : Int} (found : integer? cs = some n) :
    -(integerLimit : Int) ≤ n ∧ n < integerLimit := by
  unfold integer? at found
  split at found
  all_goals
    obtain ⟨ds, -, signed⟩ := Option.bind_eq_some_iff.mp found
    exact signed?_inRange signed

theorem word?_inRange (found : word? cs = some v) : v.InRange := by
  unfold word? at found
  split at found
  · cases found
    exact .moment
  · rcases Option.or_eq_some_iff.mp found with boolean | ⟨-, number⟩
    · obtain ⟨b, -, rfl⟩ := Option.map_eq_some_iff.mp boolean
      exact .boolean b
    · rcases Option.or_eq_some_iff.mp number with integer | ⟨-, float⟩
      · obtain ⟨n, read, rfl⟩ := Option.map_eq_some_iff.mp integer
        exact .integer (integer?_inRange read).1 (integer?_inRange read).2
      · obtain ⟨x, -, rfl⟩ := Option.map_eq_some_iff.mp float
        exact .float x

theorem wordValue?_inRange : Reader.InRange wordValue? := by
  intro cs found read
  have ofWord {word : List Char} {rest : List Char}
      (read : (word? word).map (fun v => (v, rest)) = some found) : found.1.InRange := by
    obtain ⟨v, isWord, rfl⟩ := Option.map_eq_some_iff.mp read
    exact word?_inRange isWord
  unfold wordValue? at read
  dsimp only at read
  split at read
  · split at read
    · split at read
      · cases read
        exact .moment
      · cases read
    · exact ofWord read
  · exact ofWord read

/-! ### Tables under construction -/

theorem Nodes.InRange.append (inRange : nodes.InRange) {name : String} {node : Node}
    (added : node.InRange) : Nodes.InRange (nodes ++ [(name, node)]) := by
  intro e there
  rcases List.mem_append.mp there with old | new
  · exact inRange e old
  · obtain rfl := List.mem_singleton.mp new
    exact added

theorem Nodes.InRange.replace (inRange : nodes.InRange) {name : String} {node : Node}
    (changed : node.InRange) : (nodes.replace name node).InRange := by
  intro e there
  obtain ⟨⟨key, old⟩, was, rfl⟩ := List.mem_map.mp there
  dsimp only
  split
  · exact changed
  · exact inRange _ was

theorem Nodes.InRange.without (inRange : nodes.InRange) (name : String) :
    (nodes.without name).InRange :=
  fun e there => inRange e (List.mem_filter.mp there).1

theorem Nodes.InRange.lookup (inRange : nodes.InRange) {name : String} {node : Node}
    (found : nodes.lookup name = some node) : node.InRange := by
  induction nodes with
  | nil => cases found
  | cons e nodes ih =>
    rw [List.lookup_cons] at found
    split at found
    · cases found
      exact inRange e List.mem_cons_self
    · exact ih (fun e there => inRange e (List.mem_cons_of_mem _ there)) found

theorem Nodes.inRange_nil : Nodes.InRange [] := fun _ there => nomatch there

/-- A change keeps a table in the range. -/
def Keeps (change : Nodes → Option Nodes) : Prop :=
  ∀ nodes nodes', Nodes.InRange nodes → change nodes = some nodes' → nodes'.InRange

/-- A change of the table that a path leads to keeps the whole in the range, if it keeps that
table in it. -/
theorem descend?_inRange {made : Origin} {change : Origin → Nodes → Option Nodes}
    (keeps : ∀ origin, Keeps (change origin))
    (path : List String) {origin : Origin} (inRange : nodes.InRange)
    (changed : descend? made change path origin nodes = some nodes') : nodes'.InRange := by
  induction path generalizing origin nodes nodes' with
  | nil => exact keeps _ _ _ inRange changed
  | cons name path ih =>
    unfold descend? at changed
    split at changed
    · obtain ⟨inner, descended, rfl⟩ := Option.map_eq_some_iff.mp changed
      exact inRange.append (.table (ih Nodes.inRange_nil descended))
    · cases changed
    · rename_i elements isTables
      obtain ⟨last, isLast, more⟩ := Option.bind_eq_some_iff.mp changed
      obtain ⟨inner, descended, rfl⟩ := Option.map_eq_some_iff.mp more
      cases inRange.lookup isTables with
      | tables all =>
        refine inRange.replace (.tables fun nodes there => ?_)
        rcases List.mem_append.mp there with old | new
        · exact all nodes ((List.dropLast_sublist _).mem old)
        · obtain rfl := List.mem_singleton.mp new
          exact ih (all last (List.mem_of_getLast? isLast)) descended
    · rename_i origin inner isTable
      split at changed
      · cases changed
      · obtain ⟨inner', descended, rfl⟩ := Option.map_eq_some_iff.mp changed
        cases inRange.lookup isTable with
        | table all => exact inRange.replace (.table (ih all descended))

theorem insert?_inRange {path : List String} {name : String} (inRange : nodes.InRange)
    (value : v.InRange) (inserted : insert? path name v nodes = some nodes') : nodes'.InRange := by
  refine descend?_inRange (fun origin inner inner' innerInRange changed => ?_) path inRange inserted
  split at changed
  · cases changed
  · split at changed
    · cases changed
    · cases changed
      exact innerInRange.append (.value value)

/-- Steps that keep a table in the range do so one after the other. -/
theorem keeps_foldlM {α : Type} {step : Nodes → α → Option Nodes} {xs : List α}
    (keeps : ∀ x ∈ xs, Keeps fun nodes => step nodes x) :
    Keeps fun nodes => xs.foldlM step nodes := by
  induction xs with
  | nil =>
    intro nodes nodes' inRange folded
    cases folded
    exact inRange
  | cons x xs ih =>
    intro nodes nodes' inRange folded
    obtain ⟨next, first, others⟩ := Option.bind_eq_some_iff.mp folded
    obtain ⟨here, later⟩ := List.forall_mem_cons.mp keeps
    exact ih later _ _ (here _ _ inRange first) others

theorem insertAll?_inRange {entries : List (Key × Value)} (values : ∀ e ∈ entries, e.2.InRange) :
    Keeps (insertAll? entries) :=
  keeps_foldlM fun e there _ _ inRange inserted => insert?_inRange inRange (values e there) inserted

theorem addTable?_inRange {fill : Nodes → Option Nodes} (keeps : Keeps fill) {path : List String}
    {name : String} : Keeps (addTable? fill path name) := by
  intro nodes nodes' inRange added
  refine descend?_inRange (fun _ inner inner' innerInRange changed => ?_) path inRange added
  split at changed
  · obtain ⟨content, filled, rfl⟩ := Option.map_eq_some_iff.mp changed
    exact innerInRange.append (.table (keeps _ _ Nodes.inRange_nil filled))
  · rename_i old isTable
    obtain ⟨content, filled, rfl⟩ := Option.map_eq_some_iff.mp changed
    cases innerInRange.lookup isTable with
    | table all => exact (innerInRange.without name).append (.table (keeps _ _ all filled))
  · cases changed

theorem addElement?_inRange {fill : Nodes → Option Nodes} (keeps : Keeps fill) {path : List String}
    {name : String} : Keeps (addElement? fill path name) := by
  intro nodes nodes' inRange added
  refine descend?_inRange (fun _ inner inner' innerInRange changed => ?_) path inRange added
  split at changed
  · obtain ⟨content, filled, rfl⟩ := Option.map_eq_some_iff.mp changed
    refine innerInRange.append (.tables fun nodes there => ?_)
    obtain rfl := List.mem_singleton.mp there
    exact keeps _ _ Nodes.inRange_nil filled
  · rename_i elements isTables
    obtain ⟨content, filled, rfl⟩ := Option.map_eq_some_iff.mp changed
    cases innerInRange.lookup isTables with
    | tables all =>
      refine innerInRange.replace (.tables fun nodes there => ?_)
      rcases List.mem_append.mp there with old | new
      · exact all nodes old
      · obtain rfl := List.mem_singleton.mp new
        exact keeps _ _ Nodes.inRange_nil filled
  · cases changed

/-! ### Finished tables -/

theorem finish_eq_map (nodes : Nodes) : finish nodes = nodes.map fun e => (e.1, e.2.finish) := by
  induction nodes with
  | nil => rw [finish, List.map_nil]
  | cons e nodes ih => rw [finish, List.map_cons, ih]

theorem finishAll_eq_map (elements : List Nodes) :
    finishAll elements = elements.map fun nodes => .table (finish nodes) := by
  induction elements with
  | nil => rw [finishAll, List.map_nil]
  | cons nodes elements ih => rw [finishAll, List.map_cons, ih]

theorem Node.InRange.finish {node : Node} (inRange : node.InRange) : node.finish.InRange := by
  induction inRange with
  | value inRange => rwa [Node.finish]
  | table all ih =>
    rw [Node.finish, finish_eq_map]
    refine .table fun e there => ?_
    obtain ⟨old, was, rfl⟩ := List.mem_map.mp there
    exact ih old was
  | tables all ih =>
    rw [Node.finish, finishAll_eq_map]
    refine .array fun v there => ?_
    obtain ⟨nodes, was, rfl⟩ := List.mem_map.mp there
    rw [finish_eq_map]
    refine .table fun e there => ?_
    obtain ⟨old, was', rfl⟩ := List.mem_map.mp there
    exact ih nodes was old was'

theorem Nodes.InRange.finish (inRange : nodes.InRange) : ∀ e ∈ finish nodes, e.2.InRange := by
  intro e there
  rw [finish_eq_map] at there
  obtain ⟨old, was, rfl⟩ := List.mem_map.mp there
  exact (inRange old was).finish

/-! ### Values -/

theorem tableOf?_inRange {entries : List (Key × Value)} (values : ∀ e ∈ entries, e.2.InRange)
    (found : tableOf? entries = some v) : v.InRange := by
  obtain ⟨nodes, inserted, rfl⟩ := Option.map_eq_some_iff.mp found
  exact .table (insertAll?_inRange values _ _ Nodes.inRange_nil inserted).finish

theorem assignment?_inRange {value : Reader Value} (reads : Reader.InRange value)
    {found : (Key × Value) × List Char} (read : assignment? value cs = some found) :
    found.1.2.InRange := by
  obtain ⟨⟨key, rest⟩, -, more⟩ := Option.bind_eq_some_iff.mp read
  obtain ⟨rest', -, more⟩ := Option.bind_eq_some_iff.mp more
  obtain ⟨⟨v, rest''⟩, isValue, rfl⟩ := Option.map_eq_some_iff.mp more
  exact reads _ _ isValue

theorem elements?_inRange {value : Reader Value} (reads : Reader.InRange value) {vs : List Value}
    (read : elements? value cs = some (vs, rest)) : ∀ v ∈ vs, v.InRange := by
  fun_induction elements? value cs generalizing vs rest with
  | case1 =>
    cases read
    exact fun _ there => nomatch there
  | case3 cs cs' _ _ v rest' isValue =>
    cases read
    exact List.forall_mem_singleton.mpr (reads _ _ isValue)
  | case4 cs cs' _ _ v rest' isValue more _ shorter ih =>
    obtain ⟨⟨vs', rest''⟩, others, same⟩ := Option.map_eq_some_iff.mp read
    cases same
    exact List.forall_mem_cons.mpr ⟨reads _ _ isValue, ih others⟩
  | case2 | case5 | case6 | case7 => cases read

theorem braced?_inRange {value : Reader Value} (reads : Reader.InRange value)
    {entries : List (Key × Value)} (read : braced? value cs = some (entries, rest)) :
    ∀ e ∈ entries, e.2.InRange := by
  fun_induction braced? value cs generalizing entries rest with
  | case2 cs entry rest' isEntry =>
    cases read
    exact List.forall_mem_singleton.mpr (assignment?_inRange reads isEntry)
  | case3 cs entry rest' isEntry more _ shorter ih =>
    obtain ⟨⟨entries', rest''⟩, others, same⟩ := Option.map_eq_some_iff.mp read
    cases same
    exact List.forall_mem_cons.mpr ⟨assignment?_inRange reads isEntry, ih others⟩
  | case1 | case4 | case5 => cases read

/-- However deep arrays and tables in braces are nested, what they hold is in the range. -/
theorem valueWithin?_inRange (depth : Nat) : Reader.InRange (valueWithin? depth) := by
  have ofString {cs : List Char} {found : Value × List Char}
      (read : (string? cs).map (fun read => (Value.text (String.ofList read.1), read.2)) =
        some found) :
      found.1.InRange := by
    obtain ⟨⟨s, rest⟩, -, rfl⟩ := Option.map_eq_some_iff.mp read
    exact .text _
  induction depth with
  | zero =>
    intro cs found read
    unfold valueWithin? at read
    split at read
    · contradiction
    · contradiction
    · exact ofString read
    · exact ofString read
    · exact wordValue?_inRange _ _ read
  | succ depth ih =>
    intro cs found read
    unfold valueWithin? at read
    split at read
    · rename_i same
      cases same
      obtain ⟨⟨vs, rest⟩, elements, rfl⟩ := Option.map_eq_some_iff.mp read
      exact .array (elements?_inRange ih elements)
    · rename_i same
      cases same
      split at read
      · cases read
        exact .table fun _ there => nomatch there
      · obtain ⟨⟨entries, rest⟩, braced, more⟩ := Option.bind_eq_some_iff.mp read
        obtain ⟨v, table, rfl⟩ := Option.map_eq_some_iff.mp more
        exact tableOf?_inRange (braced?_inRange ih braced) table
    · exact ofString read
    · exact ofString read
    · exact wordValue?_inRange _ _ read

/-! ### Documents -/

/-- The value of the entry that a line says, if it says one, is in the range. -/
def Line.InRange (line : Line) : Prop := ∀ key v, line = .entry key v → v.InRange

theorem line?_inRange {line : Line} (read : line? cs = some (line, rest)) : line.InRange := by
  rintro key v rfl
  unfold line? at read
  split at read
  · obtain ⟨_, -, same⟩ := Option.map_eq_some_iff.mp read
    cases same
  · obtain ⟨_, -, same⟩ := Option.map_eq_some_iff.mp read
    cases same
  · split at read
    · cases read
    · obtain ⟨⟨⟨key', v'⟩, rest'⟩, assigned, more⟩ := Option.bind_eq_some_iff.mp read
      obtain ⟨_, -, same⟩ := Option.map_eq_some_iff.mp more
      cases same
      exact assignment?_inRange (valueWithin?_inRange _) assigned

theorem lines?_inRange {lines : List Line} (read : lines? cs = some lines) :
    ∀ line ∈ lines, line.InRange := by
  fun_induction lines? cs generalizing lines with
  | case1 =>
    cases read
    exact fun _ there => nomatch there
  | case3 cs _ line rest isLine shorter ih =>
    obtain ⟨others, read', rfl⟩ := Option.map_eq_some_iff.mp read
    exact List.forall_mem_cons.mpr ⟨line?_inRange isLine, ih read'⟩
  | case2 | case4 => cases read

/-- Sections hold only what their lines say. -/
theorem sections_inRange {lines : List Line} (inRange : ∀ line ∈ lines, line.InRange) :
    ∀ s ∈ sections lines, ∀ e ∈ s.entries, e.2.InRange := by
  induction lines with
  | nil => simp [sections]
  | cons line lines ih =>
    have later := ih fun line there => inRange line (List.mem_cons_of_mem _ there)
    rw [sections]
    split
    · exact fun _ there => nomatch there
    · rename_i first others same
      rw [same] at later
      obtain ⟨here, others⟩ := List.forall_mem_cons.mp later
      cases line with
      | blank => exact later
      | entry key v =>
        have value := inRange _ List.mem_cons_self key v rfl
        exact List.forall_mem_cons.mpr ⟨List.forall_mem_cons.mpr ⟨value, here⟩, others⟩
      | table key | element key =>
        exact List.forall_mem_cons.mpr
          ⟨(fun _ there => nomatch there), List.forall_mem_cons.mpr ⟨here, others⟩⟩

theorem Section.add?_inRange {s : Section} (values : ∀ e ∈ s.entries, e.2.InRange) :
    Keeps s.add? := by
  intro nodes nodes' inRange added
  have fill := insertAll?_inRange values
  unfold Section.add? at added
  split at added
  · exact fill _ _ inRange added
  · exact addTable?_inRange fill _ _ inRange added
  · exact addElement?_inRange fill _ _ inRange added

/-- Every integer of a document fits in 64 bits with a sign. -/
theorem read?_inRange {text : String} {entries : Entries} (read : read? text = some entries) :
    ∀ e ∈ entries, e.2.InRange := by
  obtain ⟨lines, isLines, more⟩ := Option.bind_eq_some_iff.mp read
  obtain ⟨nodes, together, rfl⟩ := Option.map_eq_some_iff.mp more
  have inSections := sections_inRange (lines?_inRange isLines)
  have keeps := keeps_foldlM fun s there => Section.add?_inRange (inSections s there)
  exact (keeps _ _ Nodes.inRange_nil together).finish

end LeasePool.Toml
