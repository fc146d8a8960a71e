import FrontEnd.Text.Basic

namespace FrontEnd

namespace Text

/-- The value of a text that consists of decimal digits, at least one. -/
def digits? (text : Text) : Option Nat :=
  if text ≠ [] ∧ text.all Char.isDigit then
    some (text.foldl (fun value digit => value * 10 + (digit.toNat - '0'.toNat)) 0)
  else
    none

/-- The value of a text of digits that may have a plus sign in front. -/
def natural? : Text → Option Nat
  | '+' :: digits => digits? digits
  | digits => digits? digits

/-- The value of a text of digits that may have a sign in front. -/
def integer? : Text → Option Int
  | '-' :: digits => (digits? digits).map fun value => -(value : Int)
  | text => (natural? text).map fun value => (value : Int)

/-- The value of an integer that fits in 32 bits with its sign. -/
def int32? (text : Text) : Option Int :=
  (integer? text).filter fun value => -2147483648 ≤ value ∧ value ≤ 2147483647

end Text

end FrontEnd
