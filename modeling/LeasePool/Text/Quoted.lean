import LeasePool.Text.Printable

/-!
# Quoted text

Text between double quotes, with every character that would not show on its own written as an
escape. Reports of handles and settings, and complaints about a value of a wrong type, show
strings in this form.

## Main definitions

* `Text.escape`: the escaped form of one character.
* `Text.quoted`: a whole text between quotes.
-/

namespace LeasePool.Text

/-- The digits of a number in base sixteen, in lower case. -/
def hexDigits (n : Nat) : List Char := Nat.toDigits 16 n

/-- The quote and the backslash take a backslash; tab, line feed, carriage return and NUL have
letters of their own; what does not print, or would join the character before it, is given by its
number. -/
def escape (c : Char) : List Char :=
  match c with
  | '\x00' => ['\\', '0']
  | '\t' => ['\\', 't']
  | '\r' => ['\\', 'r']
  | '\n' => ['\\', 'n']
  | '"' => ['\\', '"']
  | '\\' => ['\\', '\\']
  | c =>
    if isPrintable c && !extendsGrapheme c then [c]
    else ['\\', 'u', '{'] ++ hexDigits c.toNat ++ ['}']

/-- The text between double quotes, escaped. -/
def quoted (s : String) : String :=
  String.ofList ('"' :: s.toList.flatMap escape ++ ['"'])

end LeasePool.Text
