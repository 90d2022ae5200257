/-!
# Strings in TOML

A string is written basic, between double quotes and with escapes, or literal, between single
quotes and without; three quotes open a form that may run over lines. In the forms over lines a
line break directly after the opening quotes is left out, a line break of two characters counts
as one, and up to two quotes may stand before the closing three. In the basic form over lines a
backslash at the end of a line joins the next text that is not blank.

## Main definitions

* `Toml.string?`: reads a string in any of the four forms.
* `Toml.Form`: the four forms.
* `Toml.Form.preferred`: the form in which a string is written.
* `Toml.Form.write`: the string written in a form.
-/

namespace LeasePool.Toml

/-- The blanks within a line. -/
def isSpace (c : Char) : Bool := c == ' ' || c == '\t'

/-- A character that strings and comments hold as it is: no control character except the tab. -/
def isPlain (c : Char) : Bool := c == '\t' || (0x20 ≤ c.toNat && c.toNat != 0x7f)

/-- The text begins with a line break of one or two characters. -/
def startsLine : List Char → Bool
  | '\n' :: _ => true
  | '\r' :: '\n' :: _ => true
  | _ => false

/-- The text without a line break at its beginning. -/
def dropLineBreak : List Char → List Char
  | '\n' :: rest => rest
  | '\r' :: '\n' :: rest => rest
  | rest => rest

/-- The value of a hexadecimal digit. -/
def hexValue? (c : Char) : Option Nat :=
  if '0' ≤ c ∧ c ≤ '9' then some (c.toNat - '0'.toNat)
  else if 'a' ≤ c ∧ c ≤ 'f' then some (c.toNat - 'a'.toNat + 10)
  else if 'A' ≤ c ∧ c ≤ 'F' then some (c.toNat - 'A'.toNat + 10)
  else none

/-- The number that hexadecimal digits write, the most significant first. -/
def hexNumber? (cs : List Char) : Option Nat :=
  cs.foldlM (fun n c => (hexValue? c).map (16 * n + ·)) 0

/-- The character given by its number in so many hexadecimal digits, and what follows. -/
def codePoint? (digits : Nat) (cs : List Char) : Option (Char × List Char) :=
  if cs.length < digits then none
  else (hexNumber? (cs.take digits)).bind fun n =>
    if n.isValidChar then some (Char.ofNat n, cs.drop digits) else none

/-- The character that an escape stands for, given what follows the backslash. -/
def escape? : List Char → Option (Char × List Char)
  | 'b' :: rest => some ('\x08', rest)
  | 't' :: rest => some ('\t', rest)
  | 'n' :: rest => some ('\n', rest)
  | 'f' :: rest => some ('\x0c', rest)
  | 'r' :: rest => some ('\r', rest)
  | '"' :: rest => some ('"', rest)
  | '\\' :: rest => some ('\\', rest)
  | 'u' :: rest => codePoint? 4 rest
  | 'U' :: rest => codePoint? 8 rest
  | _ => none

theorem length_le_of_codePoint? {digits : Nat} {cs rest : List Char} {c : Char}
    (h : codePoint? digits cs = some (c, rest)) : rest.length ≤ cs.length := by
  unfold codePoint? at h
  split at h
  · simp at h
  · obtain ⟨n, -, h⟩ := Option.bind_eq_some_iff.mp h
    split at h <;> simp at h
    rw [← h.2, List.length_drop]
    omega

theorem length_le_of_escape? {cs rest : List Char} {c : Char}
    (h : escape? cs = some (c, rest)) : rest.length ≤ cs.length := by
  unfold escape? at h
  split at h
  case h_10 => contradiction
  case h_8 | h_9 =>
    have := length_le_of_codePoint? h
    simp only [List.length_cons]
    omega
  all_goals
    simp only [Option.some.injEq, Prod.mk.injEq] at h
    simp [← h.2]

/-- A text that was read, and what follows it. -/
abbrev Read := Option (List Char × List Char)

/-- Puts a character before the text that was read. -/
def Read.cons (c : Char) (r : Read) : Read := r.map fun (body, rest) => (c :: body, rest)

/-- Reads a basic string after its opening quote. -/
def readBasic : List Char → Read
  | [] => none
  | c :: rest =>
    if c = '"' then some ([], rest)
    else if c = '\\' then
      match _h : escape? rest with
      | some (e, rest') => (readBasic rest').cons e
      | none => none
    else if isPlain c then (readBasic rest).cons c
    else none
termination_by cs => cs.length
decreasing_by
  · have := length_le_of_escape? _h
    simp only [List.length_cons]
    omega
  · simp

/-- Reads a literal string after its opening quote. -/
def readLiteral : List Char → Read
  | [] => none
  | c :: rest =>
    if c = '\'' then some ([], rest)
    else if isPlain c then (readLiteral rest).cons c
    else none

/-- The quotes before the closing three, at most two, and what follows the closing ones. -/
def closing? (quote : Char) (cs : List Char) : Read :=
  let run := (cs.takeWhile (· == quote)).length
  if run < 3 then none
  else
    let extra := min (run - 3) 2
    some (List.replicate extra quote, cs.drop (extra + 3))

/-- A backslash before this text ends its line. -/
def continuesLine (cs : List Char) : Bool := startsLine (cs.dropWhile isSpace)

/-- Reads a basic string over lines, after its opening quotes. While `joining`, blanks and line
breaks are skipped. -/
def readBasicLines (joining : Bool) : List Char → Read
  | [] => none
  | c :: rest =>
    if joining ∧ (isSpace c ∨ startsLine (c :: rest)) then readBasicLines true rest
    else match closing? '"' (c :: rest) with
    | some closed => some closed
    | none =>
      if c = '\\' then
        if continuesLine rest then readBasicLines true rest
        else match _h : escape? rest with
          | some (e, rest') => (readBasicLines false rest').cons e
          | none => none
      else if c = '\n' ∨ isPlain c then (readBasicLines false rest).cons c
      else if startsLine (c :: rest) then readBasicLines false rest
      else none
termination_by cs => cs.length
decreasing_by
  · simp
  · simp
  · have := length_le_of_escape? _h
    simp only [List.length_cons]
    omega
  · simp
  · simp

/-- Reads a literal string over lines, after its opening quotes. -/
def readLiteralLines : List Char → Read
  | [] => none
  | c :: rest =>
    match closing? '\'' (c :: rest) with
    | some closed => some closed
    | none =>
      if c = '\n' ∨ isPlain c then (readLiteralLines rest).cons c
      else if startsLine (c :: rest) then readLiteralLines rest
      else none

/-- Reads a string, and gives what follows it. -/
def string? : List Char → Read
  | '"' :: '"' :: '"' :: rest => readBasicLines false (dropLineBreak rest)
  | '"' :: rest => readBasic rest
  | '\'' :: '\'' :: '\'' :: rest => readLiteralLines (dropLineBreak rest)
  | '\'' :: rest => readLiteral rest
  | _ => none

/-- The forms in which a string is written. -/
inductive Form
  | basic
  | literal
  | basicLines
  | literalLines
deriving DecidableEq

/-- What decides the form of a string. -/
structure Traits where
  /-- A control character other than the tab and the line feed must be escaped. -/
  control : Bool
  /-- There is a backslash. -/
  backslash : Bool
  /-- There is a line feed. -/
  lineFeed : Bool
  /-- The longest run of single quotes. -/
  singles : Nat
  /-- The longest run of double quotes. -/
  doubles : Nat

/-- The longest run of a character, after a run of `current` that may go on. -/
def longestRun (quote : Char) : Nat → List Char → Nat
  | current, [] => current
  | current, c :: rest =>
    if c = quote then longestRun quote (current + 1) rest
    else max current (longestRun quote 0 rest)

/-- The traits of a string. -/
def Traits.of (cs : List Char) : Traits where
  control := cs.any fun c => !isPlain c && c != '\n'
  backslash := cs.contains '\\'
  lineFeed := cs.contains '\n'
  singles := longestRun '\'' 0 cs
  doubles := longestRun '"' 0 cs

/-- The first form that needs no escape, in the order basic, literal, basic over lines, literal
over lines. A string that needs escapes is basic, over lines if it has a line feed. -/
def Form.preferred (cs : List Char) : Form :=
  let t := Traits.of cs
  if ¬ t.control ∧ ¬ t.backslash ∧ t.doubles = 0 ∧ ¬ t.lineFeed then .basic
  else if ¬ t.control ∧ t.singles = 0 ∧ ¬ t.lineFeed then .literal
  else if ¬ t.control ∧ ¬ t.backslash ∧ t.doubles ≤ 2 then .basicLines
  else if ¬ t.control ∧ t.singles ≤ 2 then .literalLines
  else if t.lineFeed then .basicLines
  else .basic

/-- The escape of a character that is given by its number, in four digits. -/
def numberedEscape (c : Char) : List Char :=
  let digits := (Nat.toDigits 16 c.toNat).map Char.toUpper
  ['\\', 'u'] ++ List.replicate (4 - digits.length) '0' ++ digits

/-- The characters that must be escaped in a basic form, quotes and line feeds apart. -/
def escaped? (c : Char) : Option (List Char) :=
  match c with
  | '\x08' => some ['\\', 'b']
  | '\t' => some ['\\', 't']
  | '\x0c' => some ['\\', 'f']
  | '\r' => some ['\\', 'r']
  | '\\' => some ['\\', '\\']
  | '\n' => none
  | c => if isPlain c then none else some (numberedEscape c)

/-- The body of a basic string. A quote is escaped when it would be more than the `spared`th of
its run, counted since the last escape; a line feed is kept in the form over lines. -/
def writeBasic (spared : Nat) (keepLineFeed : Bool) : Nat → List Char → List Char
  | _, [] => []
  | run, c :: rest =>
    if c = '"' then
      if run < spared then '"' :: writeBasic spared keepLineFeed (run + 1) rest
      else ['\\', '"'] ++ writeBasic spared keepLineFeed 0 rest
    else if c = '\n' then
      (if keepLineFeed then ['\n'] else ['\\', 'n']) ++ writeBasic spared keepLineFeed 0 rest
    else (escaped? c).getD [c] ++ writeBasic spared keepLineFeed 0 rest

/-- The string written in a form. A string with a line feed starts on a line of its own in the
forms over lines. -/
def Form.write (form : Form) (cs : List Char) : List Char :=
  let opening := if cs.contains '\n' then ['\n'] else []
  match form with
  | .basic => ['"'] ++ writeBasic 0 false 0 cs ++ ['"']
  | .literal => ['\''] ++ cs ++ ['\'']
  | .basicLines => ['"', '"', '"'] ++ opening ++ writeBasic 2 true 0 cs ++ ['"', '"', '"']
  | .literalLines => ['\'', '\'', '\''] ++ opening ++ cs ++ ['\'', '\'', '\'']

/-- The written form of a string. -/
def writeString (s : String) : String :=
  String.ofList ((Form.preferred s.toList).write s.toList)

end LeasePool.Toml
