import OrderDesk.Text.Digits
import OrderDesk.Text.LowerCase
import OrderDesk.Text.UnprintableTable

/-!
# Quoted texts

A text between double quotes in the way diagnostics show it: quotes and backslashes escaped, the
common controls by letter, and every character without a glyph of its own by number.
-/

namespace OrderDesk.Text

/-- The digits of a number in lower-case hexadecimal, without leading zeros. -/
def hexOfNat (n : Nat) : List Char :=
  Nat.toDigits 16 n

/-- How one character stands between the quotes. -/
def quotedChar (c : Char) : List Char :=
  if c = '"' then ['\\', '"']
  else if c = '\\' then ['\\', '\\']
  else if c = '\n' then ['\\', 'n']
  else if c = '\r' then ['\\', 'r']
  else if c = '\t' then ['\\', 't']
  else if c.toNat = 0 then ['\\', '0']
  else if inRanges unprintableRanges c.toNat then
    ['\\', 'u', '\x7b'] ++ hexOfNat c.toNat ++ ['\x7d']
  else [c]

def quoted (s : String) : String :=
  String.ofList ('"' :: s.toList.flatMap quotedChar ++ ['"'])

end OrderDesk.Text
