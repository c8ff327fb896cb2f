import Placement.Text.Invisible

/-!
# Quoted texts

How a text is shown where its ends must be visible: in quotes, with quotes and backslashes escaped,
and everything invisible as a short escape or as its code point.
-/

namespace Placement

namespace Text

/-- A character inside quotes. -/
def quoteChar (c : Char) : Text :=
  if c = '"' then ['\\', '"']
  else if c = '\\' then ['\\', '\\']
  else if c = '\t' then ['\\', 't']
  else if c = '\n' then ['\\', 'n']
  else if c = '\r' then ['\\', 'r']
  else if c = '\x00' then ['\\', '0']
  else if isInvisible c then ['\\', 'u', '\x7b'] ++ Nat.toDigits 16 c.toNat ++ ['\x7d']
  else [c]

/-- The text in quotes. -/
def quoted (t : Text) : Text := ['"'] ++ t.flatMap quoteChar ++ ['"']

end Text

end Placement
