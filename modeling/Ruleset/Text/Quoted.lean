import Ruleset.Text.Printable

/-!
# Quoted text

Error messages show offending text between double quotes. Inside the quotes a backslash
escapes the quote, the backslash itself, tab, carriage return, line feed and NUL; a character
that would not show or would merge with its neighbour (`Text.isGraphemeExtend`, or not
`Text.isPrintable`) is written `\u{hex}` with lower-case digits; every other character is
written as it is. Paths are quoted the same way.

* `Text.quote` — quoting of a text value.
* `Text.quotePath` — quoting of a path.
* `Text.quoteChar` — a single character between apostrophes.
-/

namespace Ruleset

namespace Text

/-- Whether a character is written as `\u{hex}`: it attaches to the character before it, or
it does not print. -/
def isHidden (c : Char) : Bool := isGraphemeExtend c || !isPrintable c

/-- Lower-case hexadecimal digits of a number, without leading zeros. -/
def hexDigits (n : Nat) : List Char := Nat.toDigits 16 n

/-- The written form of one character inside quotes; `apostrophe` and `doubleQuote` say
which quote characters are escaped. -/
def escape (apostrophe doubleQuote : Bool) (c : Char) : List Char :=
  match c with
  | '\x00' => ['\\', '0']
  | '\t' => ['\\', 't']
  | '\r' => ['\\', 'r']
  | '\n' => ['\\', 'n']
  | '\\' => ['\\', '\\']
  | '"' => if doubleQuote then ['\\', '"'] else ['"']
  | '\'' => if apostrophe then ['\\', '\''] else ['\'']
  | c => if isHidden c then ['\\', 'u', '\x7b'] ++ hexDigits c.toNat ++ ['\x7d'] else [c]

/-- A text value between double quotes. -/
def quote (s : String) : String :=
  String.ofList ('"' :: s.toList.flatMap (escape false true) ++ ['"'])

/-- A path between double quotes, written as a text value. -/
def quotePath (s : String) : String := quote s

/-- A character between single quotes; the apostrophe is escaped, the double quote is not. -/
def quoteChar (c : Char) : String :=
  String.ofList ('\'' :: escape true false c ++ ['\''])

end Text

end Ruleset
