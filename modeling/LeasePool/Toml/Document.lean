import LeasePool.Toml.Table
import LeasePool.Toml.Text
import LeasePool.Toml.Word

/-!
# TOML documents

A document is read line by line into keys with values and headers, and the lines are then put
together into the outermost table. Arrays and tables in braces may be nested within a limit, and
keys may have as many parts.

## Main definitions

* `Toml.value?`: reads a value.
* `Toml.Line`: what one line of a document says.
* `Toml.lines?`: reads the lines of a document.
* `Toml.read?`: the entries of the outermost table of a document.
-/

namespace LeasePool.Toml

/-- How many arrays and tables in braces may enclose a value, and how many parts a key may have. -/
def nestingLimit : Nat := 79

/-- The text without the blanks at the front of the line. -/
def dropSpace (cs : List Char) : List Char := cs.dropWhile isSpace

/-- A character of a key without quotes. -/
def isBareKeyChar (c : Char) : Bool := c.isAlphanum || c == '_' || c == '-'

/-- Reads one part of a key. -/
def keyPart? : List Char → Read
  | '"' :: rest => readBasic rest
  | '\'' :: rest => readLiteral rest
  | cs =>
    let part := cs.takeWhile isBareKeyChar
    if part = [] then none else some (part, cs.dropWhile isBareKeyChar)

/-- Reads the parts of a key with dots, each with blanks around it. -/
def keyParts? (cs : List Char) : Option (List String × List Char) :=
  match keyPart? (dropSpace cs) with
  | none => none
  | some (part, rest) =>
    match dropSpace rest with
    | '.' :: rest =>
      if _h : rest.length < cs.length then
        (keyParts? rest).map fun (parts, rest) => (String.ofList part :: parts, rest)
      else none
    | rest => some ([String.ofList part], rest)
termination_by cs.length

/-- A key: the parts before the last, and the last. -/
structure Key where
  path : List String
  name : String

/-- Reads a key. -/
def key? (cs : List Char) : Option (Key × List Char) :=
  (keyParts? cs).bind fun (parts, rest) =>
    if parts.length ≤ nestingLimit then
      parts.getLast?.map fun name => (⟨parts.dropLast, name⟩, rest)
    else none

/-- What follows the end of the line: blanks and a comment may come before it. -/
def endLine? (inComment : Bool) : List Char → Option (List Char)
  | [] => some []
  | c :: rest =>
    if startsLine (c :: rest) then some (dropLineBreak (c :: rest))
    else if inComment then if isPlain c then endLine? true rest else none
    else if isSpace c then endLine? false rest
    else if c = '#' then endLine? true rest
    else none

/-- What follows blanks, line breaks and comments. -/
def skipLines? (inComment : Bool) : List Char → Option (List Char)
  | [] => some []
  | c :: rest =>
    if c = '\n' then skipLines? false rest
    else if startsLine (c :: rest) then skipLines? inComment rest
    else if inComment then if isPlain c then skipLines? true rest else none
    else if isSpace c then skipLines? false rest
    else if c = '#' then skipLines? true rest
    else some (c :: rest)

/-- Reads something, and gives what follows it. -/
abbrev Reader (α : Type) := List Char → Option (α × List Char)

/-- Reads the elements of an array after its opening bracket, up to the closing one. A comma may
follow the last. -/
def elements? (value : Reader Value) (cs : List Char) : Option (List Value × List Char) :=
  match skipLines? false cs with
  | some (']' :: rest) => some ([], rest)
  | some cs' =>
    match value cs' with
    | none => none
    | some (v, rest) =>
      match skipLines? false rest with
      | some (']' :: rest) => some ([v], rest)
      | some (',' :: rest) =>
        if _h : rest.length < cs.length then
          (elements? value rest).map fun (vs, rest) => (v :: vs, rest)
        else none
      | _ => none
  | none => none
termination_by cs.length

/-- Reads a key and its value. -/
def assignment? (value : Reader Value) (cs : List Char) : Option ((Key × Value) × List Char) :=
  (key? cs).bind fun (key, rest) =>
    (after? '=' rest).bind fun rest =>
      (value (dropSpace rest)).map fun (v, rest) => ((key, v), rest)

/-- Reads the entries of a table in braces from one of them up to the closing brace. -/
def braced? (value : Reader Value) (cs : List Char) : Option (List (Key × Value) × List Char) :=
  match assignment? value cs with
  | none => none
  | some (entry, rest) =>
    match dropSpace rest with
    | '\x7d' :: rest => some ([entry], rest)
    | ',' :: rest =>
      if _h : rest.length < cs.length then
        (braced? value rest).map fun (entries, rest) => (entry :: entries, rest)
      else none
    | _ => none
termination_by cs.length

/-- Adds entries to a table, in their order. -/
def insertAll? (entries : List (Key × Value)) (nodes : Nodes) : Option Nodes :=
  entries.foldlM (fun nodes (entry : Key × Value) =>
    insert? entry.1.path entry.1.name entry.2 nodes) nodes

/-- The table with the given entries. -/
def tableOf? (entries : List (Key × Value)) : Option Value :=
  (insertAll? entries []).map fun nodes => .table (finish nodes)

/-- Reads a word, or the two words of a date and a time parted by a space. -/
def wordValue? (cs : List Char) : Option (Value × List Char) :=
  let word := cs.takeWhile isWordChar
  let rest := cs.dropWhile isWordChar
  match rest with
  | ' ' :: c :: more =>
    -- a date and a time parted by a space
    if c.isDigit ∧ date? word = some [] then
      let time := (c :: more).takeWhile isWordChar
      if isTimeWithOffset time then some (.moment, (c :: more).dropWhile isWordChar) else none
    else (word? word).map fun v => (v, rest)
  | _ => (word? word).map fun v => (v, rest)

/-- Reads a value that at most `depth` more arrays and tables in braces may enclose. -/
def valueWithin? (depth : Nat) (cs : List Char) : Option (Value × List Char) :=
  match depth, cs with
  | depth + 1, '[' :: rest =>
    (elements? (valueWithin? depth) rest).map fun (vs, rest) => (.array vs, rest)
  | depth + 1, '\x7b' :: rest =>
    match dropSpace rest with
    | '\x7d' :: rest => some (.table [], rest)
    | rest => (braced? (valueWithin? depth) rest).bind fun (entries, rest) =>
      (tableOf? entries).map fun v => (v, rest)
  | _, '"' :: rest => (string? ('"' :: rest)).map fun (s, rest) => (.text (String.ofList s), rest)
  | _, '\'' :: rest => (string? ('\'' :: rest)).map fun (s, rest) => (.text (String.ofList s), rest)
  | _, cs => wordValue? cs

/-- Reads a value. -/
def value? : Reader Value := valueWithin? nestingLimit

/-- What one line of a document says. -/
inductive Line
  | blank
  | entry (key : Key) (v : Value)
  /-- The header of a table. -/
  | table (key : Key)
  /-- The header of an element of an array of tables. -/
  | element (key : Key)

/-- Reads the name in a header and the closing brackets, up to the end of the line. -/
def headerEnd? (closing : Nat) (cs : List Char) : Option (Key × List Char) :=
  (key? cs).bind fun (key, rest) =>
    if rest.take closing = List.replicate closing ']' then
      (endLine? false (rest.drop closing)).map fun rest => (key, rest)
    else none

/-- Reads a line, or the lines of an entry whose value runs over several. -/
def line? (cs : List Char) : Option (Line × List Char) :=
  match dropSpace cs with
  | '[' :: '[' :: rest => (headerEnd? 2 rest).map fun (key, rest) => (.element key, rest)
  | '[' :: rest => (headerEnd? 1 rest).map fun (key, rest) => (.table key, rest)
  | cs =>
    -- a line that holds nothing but blanks and a comment
    match endLine? false cs with
    | some rest => some (.blank, rest)
    | none =>
      (assignment? value? cs).bind fun ((key, v), rest) =>
        (endLine? false rest).map fun rest => (.entry key v, rest)

/-- Reads the lines of a document. -/
def lines? (cs : List Char) : Option (List Line) :=
  if cs = [] then some []
  else match line? cs with
  | none => none
  | some (line, rest) =>
    if _h : rest.length < cs.length then (lines? rest).map (line :: ·) else none
termination_by cs.length

/-- A part of a document: the entries under a header, or those before the first header. -/
structure Section where
  /-- The header, and whether it begins an element of an array of tables. -/
  header : Option (Key × Bool)
  entries : List (Key × Value)

/-- The sections of a document, given its lines. -/
def sections : List Line → List Section
  | [] => [⟨none, []⟩]
  | line :: rest =>
    match sections rest with
    | [] => []
    | first :: others =>
      -- a header closes the section of what follows it
      match line with
      | .blank => first :: others
      | .entry key v => ⟨first.header, (key, v) :: first.entries⟩ :: others
      | .table key => ⟨none, []⟩ :: ⟨some (key, false), first.entries⟩ :: others
      | .element key => ⟨none, []⟩ :: ⟨some (key, true), first.entries⟩ :: others

/-- Adds a section to the outermost table. -/
def Section.add? (s : Section) (nodes : Nodes) : Option Nodes :=
  match s.header with
  | none => insertAll? s.entries nodes
  | some (key, false) => addTable? (insertAll? s.entries) key.path key.name nodes
  | some (key, true) => addElement? (insertAll? s.entries) key.path key.name nodes

/-- The text without a byte order mark at its beginning. -/
def dropByteOrderMark : List Char → List Char
  | '\ufeff' :: rest => rest
  | cs => cs

/-- The entries of a document, or nothing if it is not well formed. -/
def read? (text : String) : Option Entries :=
  (lines? (dropByteOrderMark text.toList)).bind fun lines =>
    ((sections lines).foldlM (fun nodes (s : Section) => s.add? nodes) []).map finish

end LeasePool.Toml
