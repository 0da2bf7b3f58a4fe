import VpcOperator.Text.Blank

/-!
# Numbers of seconds

A number of seconds is written in decimal digits, with one plus sign before
them at most and blanks around it. It has to fit into 64 bits.
-/

namespace VpcOperator

inductive NumberFault where
  | empty
  | invalidDigit
  | tooLarge
  deriving DecidableEq

def NumberFault.message : NumberFault → String
  | empty => "cannot parse integer from empty string"
  | invalidDigit => "invalid digit found in string"
  | tooLarge => "number too large to fit in target type"

namespace Seconds

def bound : Nat :=
  UInt64.size

def digit? (c : Char) : Option Nat :=
  if '0' ≤ c ∧ c ≤ '9' then some (c.toNat - '0'.toNat) else none

/-- Digit by digit, after those that make up the given number. The first fault counts; of a
digit's own two, that it is none. -/
def readDigits (value : Nat) : List Char → Except NumberFault Nat
  | [] => .ok value
  | c :: rest =>
    match digit? c with
    | none => .error .invalidDigit
    | some digit =>
      if 10 * value + digit < bound then readDigits (10 * value + digit) rest
      else .error .tooLarge

/-- A lone sign is no number. -/
def readNumber : List Char → Except NumberFault Nat
  | [] => .error .empty
  | ['+'] => .error .invalidDigit
  | '+' :: rest => readDigits 0 rest
  | text => readDigits 0 text

def read (text : String) : Except NumberFault Nat :=
  readNumber (Text.trim text.toList)

end Seconds

end VpcOperator
