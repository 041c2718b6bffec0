/-
Quoted text.

A text is quoted in single quotes, or in double quotes when it holds a single quote and no double
one.  The quote itself and the backslash are escaped, tab, line feed and carriage return have short
escapes, and every other character that is not printable is written by its code point.  In a spelled
path U+0000 and the character after it stand for a byte; it is written by the code point that is set
aside for it.
-/
import SpecifierLint.Text.Printable

namespace SpecifierLint.Text

/-- The quote that surrounds a text. -/
def quoteFor (t : Text) : Char :=
  if t.contains '\'' && !t.contains '"' then '"' else '\''

/-- A character by its code point, in the shortest of the three escapes that can hold it. -/
def codePointEscape (c : Char) : Text :=
  if c.toNat ≤ 0xff then "\\x" ++ hex 2 c.toNat
  else if c.toNat ≤ 0xffff then "\\u" ++ hex 4 c.toNat
  else "\\U" ++ hex 8 c.toNat

/-- A character as it is written inside the given quotes. -/
def quotedChar (quote c : Char) : Text :=
  if c = quote || c = '\\' then ['\\', c]
  else if c = '\t' then ['\\', 't']
  else if c = '\n' then ['\\', 'n']
  else if c = '\r' then ['\\', 'r']
  else if isPrintable c then [c]
  else codePointEscape c

/-- The text in quotes. -/
def quoted (t : Text) : Text :=
  let quote := quoteFor t
  [quote] ++ t.flatMap (quotedChar quote) ++ [quote]

/-- Texts in quotes, as a list of them. -/
def quotedList (ts : List Text) : Text := "[" ++ join ", " (ts.map quoted) ++ "]"

/-- The text of a spelled path inside the given quotes. -/
def spelledChars (quote : Char) : Text → Text
  | [] => []
  | [c] => quotedChar quote c
  | c :: b :: rest =>
    if c = '\x00' then "\\udc" ++ hex 2 b.toNat ++ spelledChars quote rest
    else quotedChar quote c ++ spelledChars quote (b :: rest)

/-- A spelled path in quotes. -/
def quotedPath (t : Text) : Text :=
  let quote := quoteFor t
  [quote] ++ spelledChars quote t ++ [quote]

example : quoted "it's" = ("\"it's\"" : Text) := by decide +kernel

example : quotedPath "a\x00\x80" = ("'a\\udc80'" : Text) := by decide +kernel

example : quoted "a'b\"\x00" = ("'a\\'b\"\\x00'" : Text) := by decide +kernel

end SpecifierLint.Text
