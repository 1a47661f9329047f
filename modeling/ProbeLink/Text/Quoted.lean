import ProbeLink.Text.Digits
import ProbeLink.Text.Printable

/-!
# ProbeLink.Text.Quoted

**Quoted text**, as messages show a text that was not understood: in double quotes, with a
backslash before a quote and a backslash, short escapes for tab, newline, return and NUL, and the
code point in hexadecimal for every other character that cannot be shown as it is.
-/

namespace ProbeLink.Text

/-- What stands for one character inside the quotes. -/
def quoteChar (c : Char) : List Char :=
  if c = '"' then ['\\', '"']
  else if c = '\\' then ['\\', '\\']
  else if c = '\t' then ['\\', 't']
  else if c = '\n' then ['\\', 'n']
  else if c = '\r' then ['\\', 'r']
  else if c.toNat = 0 then ['\\', '0']
  else if isShown c then [c]
  else ['\\', 'u', '\x7b'] ++ hex c.toNat ++ ['\x7d']

/-- The text in quotes, with escapes. -/
def quote (text : String) : String :=
  String.ofList ('"' :: text.toList.flatMap quoteChar ++ ['"'])

end ProbeLink.Text
