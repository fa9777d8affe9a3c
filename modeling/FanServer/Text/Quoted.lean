import FanServer.Text.Printable
import FanServer.Text.GraphemeExtend

/-!
# Quoted text

A message that shows a piece of source text puts it in double quotes and writes every character
that a reader could miss or mistake in an escaped form:

* the quote and the backslash get a backslash, and NUL, tab, carriage return and line feed have
  their usual short forms;
* a character that is not printable, or that would merge with the one before it, is written as
  its code point in braces;
* everything else, the single quote included, stands for itself.
-/

namespace FanServer.Text

/-- The code point in lower case hexadecimal digits, without leading zeros. -/
def hexDigits (c : Char) : List Char :=
  Nat.toDigits 16 c.toNat

/-- The written form of one character inside double quotes. -/
def quoteChar (c : Char) : List Char :=
  if c = '\x00' then ['\\', '0']
  else if c = '\t' then ['\\', 't']
  else if c = '\r' then ['\\', 'r']
  else if c = '\n' then ['\\', 'n']
  else if c = '"' ∨ c = '\\' then ['\\', c]
  else if extendsGrapheme c || !isPrintable c then
    ['\\', 'u', '\x7b'] ++ hexDigits c ++ ['\x7d']
  else [c]

/-- The text in double quotes, with its unclear characters escaped. -/
def quoted (text : String) : String :=
  String.ofList ('"' :: text.toList.flatMap quoteChar ++ ['"'])

end FanServer.Text
