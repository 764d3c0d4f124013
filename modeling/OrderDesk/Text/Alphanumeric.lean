import OrderDesk.Text.AlphanumericTable
import OrderDesk.Text.LowerCase

/-!
# Letters and numbers

The ASCII class and the Unicode class of letters and numbers.
-/

namespace OrderDesk.Text

def isAsciiLetter (c : Char) : Bool :=
  let n := c.toNat
  (65 ≤ n && n ≤ 90) || (97 ≤ n && n ≤ 122)

def isAsciiAlphanumeric (c : Char) : Bool :=
  isAsciiLetter c || (48 ≤ c.toNat && c.toNat ≤ 57)

def isAlphanumeric (c : Char) : Bool :=
  if c.toNat < 128 then isAsciiAlphanumeric c else inRanges alphanumericRanges c.toNat

end OrderDesk.Text
