import GraphIngest.Text.Visible

/-!
# Texts shown in messages

A text that a message names is put in quotes, with everything invisible spelled out.

## Main definitions

* `Shown.escape`: how one character is shown.
* `Shown.quoted`: a text in quotes.
-/

namespace GraphIngest

namespace Shown

/-- How a character is shown between double quotes. -/
def escape (c : Char) : List Char :=
  if c = '"' then ['\\', '"']
  else if c = '\\' then ['\\', '\\']
  else if c = '\n' then ['\\', 'n']
  else if c = '\r' then ['\\', 'r']
  else if c = '\t' then ['\\', 't']
  else if c.toNat = 0 then ['\\', '0']
  else if Visible.isVisible c then [c]
  else '\\' :: 'u' :: '\x7b' :: (Nat.toDigits 16 c.toNat ++ ['\x7d'])

/-- A text in double quotes, its invisible characters spelled out. -/
def quoted (s : String) : String := String.ofList ('"' :: (s.toList.flatMap escape ++ ['"']))

end Shown

end GraphIngest
