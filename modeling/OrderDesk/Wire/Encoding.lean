/-!
# Message fields as bytes

The binary form of a message: each field is a key, which holds its number and its kind, and its
contents. A field with the default value is left out.
-/

namespace OrderDesk.Wire

/-- A number in groups of seven bits, least significant first; all but the last byte have the high
bit set. -/
def varint (n : Nat) : List UInt8 :=
  if h : n < 128 then [UInt8.ofNat n]
  else UInt8.ofNat (n % 128 + 128) :: varint (n / 128)
termination_by n
decreasing_by omega

/-- How the contents of a field are delimited. -/
inductive FieldKind where
  | number
  | bytes

def fieldKey (number : Nat) (kind : FieldKind) : List UInt8 :=
  varint (number * 8 + match kind with | .number => 0 | .bytes => 2)

/-- An integer field: negative numbers are written as 64-bit words. -/
def integerField (number : Nat) (value : Int) : List UInt8 :=
  if value = 0 then [] else fieldKey number .number ++ varint (value % 0x10000000000000000).toNat

def bytesField (number : Nat) (contents : List UInt8) : List UInt8 :=
  fieldKey number .bytes ++ varint contents.length ++ contents

def textField (number : Nat) (text : String) : List UInt8 :=
  if text = "" then [] else bytesField number text.toUTF8.toList

/-- A message field: left out only when it is absent. -/
def messageField (number : Nat) (contents : Option (List UInt8)) : List UInt8 :=
  match contents with
  | none => []
  | some bytes => bytesField number bytes

end OrderDesk.Wire
