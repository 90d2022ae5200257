import LeasePool.Toml.Value

/-!
# Words in TOML

Every value that is not a string, an array or a table is one word: an integer, a floating-point
number, a boolean, or a date or time. Digits may be parted by single underscores. Only a date and
a time may be parted by a space instead of a `T`, and then make two words.

## Main definitions

* `Toml.isWordChar`: the characters of words.
* `Toml.integer?`, `Toml.float?`, `Toml.boolean?`, `Toml.moment?`: the four kinds of words.
* `Toml.word?`: the value of a word.
-/

namespace LeasePool.Toml

/-- A character that words are made of. -/
def isWordChar (c : Char) : Bool :=
  c.isAlphanum || c == '_' || c == '+' || c == '-' || c == '.' || c == ':'

/-- One or more digits, parted by single underscores; gives the digits alone. -/
def grouped? (isDigit : Char → Bool) : List Char → Option (List Char)
  | [] => none
  | [c] => if isDigit c then some [c] else none
  | c :: '_' :: rest => if isDigit c then (grouped? isDigit rest).map (c :: ·) else none
  | c :: rest => if isDigit c then (grouped? isDigit rest).map (c :: ·) else none

/-- A digit of a base up to sixteen. -/
def isDigitOf (base : Nat) (c : Char) : Bool :=
  if c.isDigit then c.toNat - '0'.toNat < base
  else base == 16 && (('a' ≤ c && c ≤ 'f') || ('A' ≤ c && c ≤ 'F'))

/-- The value of a digit of a base up to sixteen. -/
def digitValue (c : Char) : Nat :=
  if c.isDigit then c.toNat - '0'.toNat else c.toLower.toNat - 'a'.toNat + 10

/-- The number that digits write in a base. -/
def numberOf (base : Nat) (digits : List Char) : Nat :=
  digits.foldl (fun n c => base * n + digitValue c) 0

/-- The sign of a number, if it has one, and the rest; true for a minus. -/
def splitSign : List Char → Bool × List Char
  | '-' :: rest => (true, rest)
  | '+' :: rest => (false, rest)
  | rest => (false, rest)

/-- Decimal digits in groups that do not begin with a zero, or a zero alone. -/
def wholeDigits? (cs : List Char) : Option (List Char) :=
  (grouped? Char.isDigit cs).filter fun digits => digits.length == 1 || digits.head? != some '0'

/-- An integer that fits in 64 bits with a sign. -/
def signed? (negative : Bool) (magnitude : Nat) : Option Int :=
  if negative then if magnitude ≤ integerLimit then some (-magnitude) else none
  else if magnitude < integerLimit then some magnitude else none

/-- An integer: decimal with an optional sign, or with a mark for the base and without one. -/
def integer? (word : List Char) : Option Int :=
  match word with
  | '0' :: 'x' :: rest =>
    (grouped? (isDigitOf 16) rest).bind fun ds => signed? false (numberOf 16 ds)
  | '0' :: 'o' :: rest =>
    (grouped? (isDigitOf 8) rest).bind fun ds => signed? false (numberOf 8 ds)
  | '0' :: 'b' :: rest =>
    (grouped? (isDigitOf 2) rest).bind fun ds => signed? false (numberOf 2 ds)
  | word =>
    let (negative, rest) := splitSign word
    (wholeDigits? rest).bind fun ds => signed? negative (numberOf 10 ds)

/-- A power of ten: an optional sign and digits. -/
def exponent? (cs : List Char) : Option Int :=
  let (negative, rest) := splitSign cs
  (grouped? Char.isDigit rest).map fun ds =>
    if negative then -(numberOf 10 ds : Int) else numberOf 10 ds

/-- A decimal number with a fraction, a power of ten, or both. -/
def decimal? (negative : Bool) (cs : List Char) : Option Binary64 := do
  -- what comes before the mark of the power of ten is split at its point
  let isMark := fun c => c == 'e' || c == 'E'
  let mantissa := cs.takeWhile fun c => !isMark c
  let whole ← wholeDigits? (mantissa.takeWhile (· != '.'))
  let fraction ← match mantissa.dropWhile (· != '.') with
    | [] => some []
    | _ :: rest => grouped? Char.isDigit rest
  let power ← match cs.dropWhile fun c => !isMark c with
    | [] => if fraction = [] then none else some 0
    | _ :: rest => exponent? rest
  return .ofDecimal negative (numberOf 10 (whole ++ fraction)) (power - fraction.length)

/-- A floating-point number. A decimal number may be too low for any finite one, but not too
high. -/
def float? (word : List Char) : Option Binary64 :=
  let (negative, rest) := splitSign word
  match rest with
  | ['i', 'n', 'f'] => some (.infinite negative)
  | ['n', 'a', 'n'] => some .nan
  | rest => (decimal? negative rest).filter (· ≠ .infinite false)

/-- A boolean. -/
def boolean? : List Char → Option Bool
  | ['t', 'r', 'u', 'e'] => some true
  | ['f', 'a', 'l', 's', 'e'] => some false
  | _ => none

/-- A number of exactly two digits, and what follows. -/
def twoDigits? : List Char → Option (Nat × List Char)
  | a :: b :: rest =>
    if a.isDigit ∧ b.isDigit then some (numberOf 10 [a, b], rest) else none
  | _ => none

/-- A number of exactly two digits in a range, and what follows. -/
def inRange? (low high : Nat) (cs : List Char) : Option (List Char) :=
  (twoDigits? cs).bind fun (n, rest) => if low ≤ n ∧ n ≤ high then some rest else none

/-- What follows a given character. -/
def after? (c : Char) : List Char → Option (List Char)
  | d :: rest => if c = d then some rest else none
  | [] => none

/-- The number of days of a month. -/
def daysIn (year month : Nat) : Nat :=
  if month = 2 then
    if year % 4 = 0 ∧ (year % 100 ≠ 0 ∨ year % 400 = 0) then 29 else 28
  else if month ∈ [4, 6, 9, 11] then 30
  else 31

/-- A day of the calendar at the front, and what follows it. -/
def date? (cs : List Char) : Option (List Char) := do
  let (century, cs) ← twoDigits? cs
  let (year, cs) ← twoDigits? cs
  let (month, cs) ← (after? '-' cs).bind twoDigits?
  let cs ← after? '-' cs
  if 1 ≤ month ∧ month ≤ 12 then inRange? 1 (daysIn (100 * century + year) month) cs else none

/-- A time of day at the front, to the second or finer, and what follows it. A leap second is a
sixtieth second. -/
def time? (cs : List Char) : Option (List Char) := do
  let cs ← inRange? 0 23 cs
  let cs ← (after? ':' cs).bind (inRange? 0 59)
  let cs ← (after? ':' cs).bind (inRange? 0 60)
  match cs with
  | '.' :: rest =>
    if (rest.takeWhile Char.isDigit).isEmpty then none else some (rest.dropWhile Char.isDigit)
  | cs => some cs

/-- The text is an offset from universal time, or nothing. -/
def isOffset : List Char → Bool
  | [] => true
  | [c] => c == 'Z' || c == 'z'
  | c :: rest =>
    (c == '+' || c == '-') &&
      ((inRange? 0 23 rest).bind (after? ':') |>.bind (inRange? 0 59)) == some []

/-- The text is a time of day with an optional offset. -/
def isTimeWithOffset (cs : List Char) : Bool := (time? cs).any isOffset

/-- A moment in one word: a date, a time, or a date and a time joined by a `T`. -/
def isMoment (word : List Char) : Bool :=
  time? word == some [] ||
    match date? word with
    | some [] => true
    | some (c :: rest) => (c == 'T' || c == 't') && isTimeWithOffset rest
    | none => false

/-- The value of a word. -/
def word? (word : List Char) : Option Value :=
  if isMoment word then some .moment
  else ((boolean? word).map .boolean).or
    (((integer? word).map .integer).or ((float? word).map .float))

end LeasePool.Toml
