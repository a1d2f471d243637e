import Pressroom.Text.Printable

/-!
Quoted text: the text between quote marks, single ones unless it holds a single mark and no double
one, with the mark itself, the backslash and all that cannot be printed written as escapes.
-/
namespace Pressroom

/-- One hexadecimal digit, lower case. -/
def hexDigit (n : Nat) : Char := (Nat.digitChar (n % 16))

/-- The last `width` hexadecimal digits of a number. -/
def hexDigits (width : Nat) (n : Nat) : List Char :=
  match width with
  | 0 => []
  | k + 1 => hexDigits k (n / 16) ++ [hexDigit n]

namespace Text

/-- The mark to quote a text with. -/
def quoteMark (t : Text) : Char :=
  if t.any (· == Point.char '\'') && !t.any (· == Point.char '"') then '"' else '\''

/-- A code point inside quotes. -/
def quotePoint (mark : Char) (p : Point) : Text :=
  let n := p.code
  if p = .char mark || p = .char '\\' then [.char '\\', p]
  else if n = 9 then ofString "\\t"
  else if n = 10 then ofString "\\n"
  else if n = 13 then ofString "\\r"
  else if p.isPrintable then [p]
  else if n < 0x100 then ofString "\\x" ++ ofChars (hexDigits 2 n)
  else if n < 0x10000 then ofString "\\u" ++ ofChars (hexDigits 4 n)
  else ofString "\\U" ++ ofChars (hexDigits 8 n)

/-- The text in quotes. -/
def quoted (t : Text) : Text :=
  let mark := t.quoteMark
  .char mark :: t.flatMap (quotePoint mark) ++ [.char mark]

end Text

end Pressroom
