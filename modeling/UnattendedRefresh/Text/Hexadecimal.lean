/-!
# Hexadecimal digits

Digits of base sixteen: written in lower case, read in either.
-/

namespace UnattendedRefresh.Hexadecimal

def digit (value : Nat) : Char :=
  if value < 10 then Char.ofNat ('0'.toNat + value) else Char.ofNat ('a'.toNat + (value - 10))

def value? (digit : Char) : Option Nat :=
  if '0' ≤ digit ∧ digit ≤ '9' then some (digit.toNat - '0'.toNat)
  else if 'a' ≤ digit ∧ digit ≤ 'f' then some (digit.toNat - 'a'.toNat + 10)
  else if 'A' ≤ digit ∧ digit ≤ 'F' then some (digit.toNat - 'A'.toNat + 10)
  else none

/-- The last digits of a number, as many as asked for, the highest first. -/
def digits : Nat → Nat → List Char
  | 0, _ => []
  | count + 1, number => digits count (number / 16) ++ [digit (number % 16)]

def numberFrom? (number : Nat) : List Char → Option Nat
  | [] => some number
  | character :: rest =>
    match value? character with
    | some value => numberFrom? (number * 16 + value) rest
    | none => none

def shortest (number : Nat) : List Char :=
  match (digits 16 number).dropWhile (· = '0') with
  | [] => ['0']
  | digits => digits

end UnattendedRefresh.Hexadecimal
