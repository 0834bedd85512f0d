import BlockOrder.Text.Digit

/-!
# Numerals

Values of written numbers.
-/

namespace BlockOrder

/-- The value of a digit `0` to `9`. -/
def digitValue? (c : Char) : Option Nat :=
  if isAsciiDigit c then some (c.toNat - '0'.toNat) else none

def hexValue? (c : Char) : Option Nat :=
  if isAsciiDigit c then some (c.toNat - '0'.toNat)
  else if 'a' ≤ c && c ≤ 'f' then some (c.toNat - 'a'.toNat + 10)
  else if 'A' ≤ c && c ≤ 'F' then some (c.toNat - 'A'.toNat + 10)
  else none

/-- The value of a list of digits in a base, most significant first, after the digits with value
`high`. -/
def numeralFrom (digit? : Char → Option Nat) (base : Nat) : (high : Nat) → List Char → Option Nat
  | high, [] => some high
  | high, c :: rest => do
      let d ← digit? c
      numeralFrom digit? base (high * base + d) rest

/-- The value of a nonempty decimal numeral without sign. -/
def decimal? : List Char → Option Nat
  | [] => none
  | digits => numeralFrom digitValue? 10 0 digits

def hexadecimal? : List Char → Option Nat
  | [] => none
  | digits => numeralFrom hexValue? 16 0 digits

/-- The character with a given code point, if it is a Unicode scalar value. -/
def charOfCode? (n : Nat) : Option Char :=
  if n.isValidChar then some (Char.ofNat n) else none

end BlockOrder
