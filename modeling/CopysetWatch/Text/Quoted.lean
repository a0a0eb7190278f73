import CopysetWatch.Text.Visible

/-!
# Quoted texts

A message quotes a text so that a reader sees where it begins and ends: quotation marks and
backslashes are escaped, line ends, tabs and nulls have short names, and every other character
that does not show as itself is written by its code point in hexadecimal.
-/

namespace CopysetWatch.Text

/-- One character inside quotation marks. -/
def quoteChar (c : Char) : List Char :=
  if c = '"' then ['\\', '"']
  else if c = '\\' then ['\\', '\\']
  else if c = '\t' then ['\\', 't']
  else if c = '\n' then ['\\', 'n']
  else if c = '\r' then ['\\', 'r']
  else if c.toNat = 0 then ['\\', '0']
  else if isVisible c then [c]
  else ['\\', 'u', '{'] ++ Nat.toDigits 16 c.toNat ++ ['}']

/-- The text between quotation marks, with everything escaped that would not show. -/
def quote (text : String) : String :=
  String.ofList ('"' :: text.toList.flatMap quoteChar ++ ['"'])

end CopysetWatch.Text
