import BlockOrder.Text.Basic
import BlockOrder.Text.Numeral

/-!
# Numerals within bounds

Numbers that users write, with the reason why a text is none.
-/

namespace BlockOrder

/-- Why a text is no number of the kind asked for. -/
inductive NumeralError where
  | empty
  | invalidDigit
  | tooLarge
  | tooSmall
deriving DecidableEq

namespace NumeralError

def message : NumeralError → String
  | empty => "cannot parse integer from empty string"
  | invalidDigit => "invalid digit found in string"
  | tooLarge => "number too large to fit in target type"
  | tooSmall => "number too small to fit in target type"

end NumeralError

namespace BoundedNumeral

/-- The value of digits up to a bound, after digits with value `high`.  The first digit that is
none, or that exceeds the bound, decides. -/
def magnitude (bound : Nat) (overflow : NumeralError) :
    (high : Nat) → Text → Except NumeralError Nat
  | high, [] => .ok high
  | high, c :: rest =>
      match digitValue? c with
      | none => .error .invalidDigit
      | some d =>
          let value := high * 10 + d
          if bound < value then .error overflow else magnitude bound overflow value rest

/-- A number from 0 to `bound`, with an optional plus sign. -/
def nat (bound : Nat) : Text → Except NumeralError Nat
  | [] => .error .empty
  | ['+'] => .error .invalidDigit
  | '+' :: digits => magnitude bound .tooLarge 0 digits
  | digits => magnitude bound .tooLarge 0 digits

/-- A number from `-(bound + 1)` to `bound`, with an optional sign. -/
def int (bound : Nat) : Text → Except NumeralError Int
  | [] => .error .empty
  | ['+'] => .error .invalidDigit
  | ['-'] => .error .invalidDigit
  | '+' :: digits => (magnitude bound .tooLarge 0 digits).map Int.ofNat
  | '-' :: digits => (magnitude (bound + 1) .tooSmall 0 digits).map fun n => -(n : Int)
  | digits => (magnitude bound .tooLarge 0 digits).map Int.ofNat

/-- A number from 0 to 2^64 - 1. -/
def nat64 (t : Text) : Except NumeralError Nat := nat 0xFFFFFFFFFFFFFFFF t

/-- A number from -2^63 to 2^63 - 1. -/
def int64 (t : Text) : Except NumeralError Int := int 0x7FFFFFFFFFFFFFFF t

end BoundedNumeral

end BlockOrder
