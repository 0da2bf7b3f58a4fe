/-!
# Numerals

A number as it is written. A numeral is finite if the binary64 number it
stands for is; of its significant digits only the leading ones count that
fit into 64 bits together.
-/

namespace VpcOperator.Json

def digitsValue (digits : List Char) : Nat :=
  digits.foldl (fun value c => 10 * value + (c.toNat - '0'.toNat)) 0

structure Numeral where
  negative : Bool
  whole : List Char
  /-- The digits after the point; there is no point without digits. -/
  fraction : List Char
  /-- Whether the exponent is negative, and its digits. -/
  exponent : Option (Bool × List Char)
  deriving DecidableEq

namespace Numeral

def exponentValue (numeral : Numeral) : Int :=
  match numeral.exponent with
  | none => 0
  | some (false, digits) => digitsValue digits
  | some (true, digits) => -digitsValue digits

/-- Appends digits to a number as long as it stays below 2^64. Also gives the digits left. -/
def appendDigits (value : Nat) : List Char → Nat × List Char
  | [] => (value, [])
  | c :: rest =>
    if 10 * value + (c.toNat - '0'.toNat) < UInt64.size then
      appendDigits (10 * value + (c.toNat - '0'.toNat)) rest
    else
      (value, c :: rest)

/-- The digits that count, as one number, and the power of ten to multiply it with. -/
def significand (numeral : Numeral) : Nat × Int :=
  let (value, wholeLeft) := appendDigits 0 numeral.whole
  let (value, fractionLeft) := appendDigits value numeral.fraction
  (value,
    wholeLeft.length - (numeral.fraction.length - fractionLeft.length : Nat) + numeral.exponentValue)

/-- The nearest number with 53 significant bits; a tie goes to the even one. -/
def nearestBinary64 (n : Nat) : Nat :=
  let unit := 1 <<< (n.log2 + 1 - 53)
  let below := n / unit
  let excess := 2 * (n % unit)
  (if excess < unit ∨ (excess = unit ∧ below % 2 = 0) then below else below + 1) * unit

/-- From here on numbers round to infinity. -/
def infiniteFrom : Nat :=
  (1 <<< 1024) - (1 <<< 970)

/-- The significand and the power of ten are rounded before they are multiplied. -/
def isFinite (numeral : Numeral) : Bool :=
  let (value, exponent) := numeral.significand
  value = 0 || exponent < 0 ||
    (exponent ≤ 308 &&
      nearestBinary64 value * nearestBinary64 (Nat.pow 10 exponent.toNat) < infiniteFrom)

/-- The integer, if it is written as one. The negative zero is none. -/
def integer? (numeral : Numeral) : Option Int :=
  if numeral.fraction = [] ∧ numeral.exponent = none then
    match numeral.negative, digitsValue numeral.whole with
    | false, value => some value
    | true, 0 => none
    | true, value => some (-value)
  else
    none

def exponentText : Option (Bool × List Char) → List Char
  | none => []
  | some (false, digits) => 'e' :: digits
  | some (true, digits) => 'e' :: '-' :: digits

def text (numeral : Numeral) : List Char :=
  (if numeral.negative then ['-'] else []) ++ numeral.whole ++
    (if numeral.fraction = [] then [] else '.' :: numeral.fraction) ++ exponentText numeral.exponent

end Numeral

end VpcOperator.Json
