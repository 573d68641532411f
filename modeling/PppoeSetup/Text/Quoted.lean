import PppoeSetup.Text.Hex
import PppoeSetup.Text.Printable

/-!
# Quoted text

A text in double quotes on one line: five characters have short escapes with a backslash, every
other character that is not printable is written by its code point in braces.
-/

namespace PppoeSetup.Text

/-- How one character is written between the quotes. -/
def escaped (c : Char) : List Char :=
  if c = '\x00' then ['\\', '0']
  else if c = '\t' then ['\\', 't']
  else if c = '\n' then ['\\', 'n']
  else if c = '\r' then ['\\', 'r']
  else if c = '\\' then ['\\', '\\']
  else if c = '"' then ['\\', '"']
  else if isPrintable c then [c]
  else ['\\', 'u', '{'] ++ hexDigits c.toNat ++ ['}']

def quotedChars (cs : List Char) : List Char :=
  '"' :: cs.flatMap escaped ++ ['"']

def quoted (s : String) : String :=
  String.ofList (quotedChars s.toList)

end PppoeSetup.Text
