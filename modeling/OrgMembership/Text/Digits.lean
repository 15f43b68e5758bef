import Mathlib.Algebra.Order.Ring.Nat
import Mathlib.Data.List.Basic

/-!
# Numbers in texts

Texts are lists of bytes.  Numbers are written with a fixed width in a base up to sixteen.
-/

namespace Text

/-- The bytes of a text of ASCII characters. -/
def ascii (text : List Char) : List UInt8 :=
  text.map fun char => char.toNat.toUInt8

/-! ## Digits -/

/-- The digit of a value below sixteen, in lower case. -/
def digit (value : Nat) : UInt8 :=
  if value < 10 then (48 + value).toUInt8 else (87 + value).toUInt8

/-- The last digits of a number, with leading zeros. -/
def digits (base : Nat) : Nat → Nat → List UInt8
  | 0, _ => []
  | width + 1, value => digits base width (value / base) ++ [digit (value % base)]

end Text
