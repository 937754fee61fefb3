/-!
# Decimal digits

Runs of decimal digits and the numbers they spell.
-/

namespace UnattendedRefresh.Decimal

def digitValue (digit : Char) : Nat :=
  digit.toNat - '0'.toNat

/-- The number that digits spell, continuing a number already read. -/
def valueFrom (number : Nat) (digits : List Char) : Nat :=
  digits.foldl (fun number digit => number * 10 + digitValue digit) number

def value (digits : List Char) : Nat :=
  valueFrom 0 digits

def takeDigits (characters : List Char) : List Char × List Char :=
  characters.span Char.isDigit

def natural? (characters : List Char) : Option Nat :=
  if characters.isEmpty ∨ ¬ characters.all Char.isDigit then none else some (value characters)

/-- A number below a bound, where one plus sign may stand before the digits. -/
def unsigned? (bound : Nat) (characters : List Char) : Option Nat :=
  (natural? (match characters with | '+' :: rest => rest | rest => rest)).filter (· < bound)

end UnattendedRefresh.Decimal
