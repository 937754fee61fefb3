import UnattendedRefresh.Duration
import UnattendedRefresh.Text.Blank
import UnattendedRefresh.Text.Decimal
import UnattendedRefresh.Text.Quoting

/-!
# Reading durations

A duration is written as a decimal number with an optional exponent and one of
the units `ms`, `s`, `m`, `h`, seconds if none is given, or as an infinity. The
number is taken exactly to eighteen decimals, and what it amounts to is cut to
whole nanoseconds. Nothing negative is a duration.
-/

namespace UnattendedRefresh.Duration

inductive TimeUnit where
  | millisecond
  | second
  | minute
  | hour
  deriving DecidableEq

namespace TimeUnit

def ofSymbol? : List Char → Option TimeUnit
  | [] => some second
  | ['m', 's'] => some millisecond
  | ['s'] => some second
  | ['m'] => some minute
  | ['h'] => some hour
  | _ => none

/-- By how many decimal places a count of the unit is moved to become seconds. -/
def places : TimeUnit → Nat
  | millisecond => 3
  | _ => 0

/-- Seconds per unit once the places are moved. -/
def seconds : TimeUnit → Nat
  | minute => 60
  | hour => 3600
  | _ => 1

end TimeUnit

/-- A number as written: its digits as one whole number, how many of them stand
after the point, and the exponent. -/
structure Numeral where
  digits : Nat
  fraction : Nat
  exponent : Int

/-- A sign at the front, true for minus. -/
def takeSign : List Char → Bool × List Char
  | '+' :: rest => (false, rest)
  | '-' :: rest => (true, rest)
  | rest => (false, rest)

/-- An exponent at the front, zero if there is none; it fits sixteen bits. -/
def takeExponent : List Char → Option (Int × List Char)
  | [] => some (0, [])
  | letter :: rest =>
    if letter = 'e' ∨ letter = 'E' then
      let (negated, rest) := takeSign rest
      let (digits, rest) := Decimal.takeDigits rest
      let magnitude := Decimal.value digits
      if digits.isEmpty then none
      else if negated then
        if magnitude ≤ 32768 then some (-(magnitude : Int), rest) else none
      else
        if magnitude ≤ 32767 then some ((magnitude : Int), rest) else none
    else
      some (0, letter :: rest)

def takeNumeral (characters : List Char) : Option (Numeral × List Char) :=
  let (whole, rest) := Decimal.takeDigits characters
  let (fraction, rest) := match rest with
    | '.' :: rest => Decimal.takeDigits rest
    | rest => ([], rest)
  if whole.isEmpty ∧ fraction.isEmpty then none
  else
    (takeExponent rest).map fun (exponent, rest) =>
      (⟨Decimal.value (whole ++ fraction), fraction.length, exponent⟩, rest)

/-- The numeral moved down by some places, cut to eighteen decimals, in units of
the eighteenth. -/
def Numeral.eighteenths (numeral : Numeral) (places : Nat) : Nat :=
  let shift := numeral.exponent - numeral.fraction - places + 18
  if 0 ≤ shift then numeral.digits * Nat.pow 10 shift.toNat
  else numeral.digits / Nat.pow 10 (-shift).toNat

def ofNumeral? (negated : Bool) (numeral : Numeral) (unit : TimeUnit) : Option Duration :=
  let amount := numeral.eighteenths unit.places
  if negated ∧ amount ≠ 0 then none
  else some (saturating (amount * unit.seconds / 1000000000))

def isInfinity (characters : List Char) : Bool :=
  let lower := characters.map Char.toLower
  lower = "inf".toList || lower = "infinity".toList

def parse? (source : String) : Option Duration :=
  let (negated, rest) := takeSign (Text.trim source.toList)
  if isInfinity rest then
    if negated then none else some greatest
  else
    match takeNumeral rest with
    | some (numeral, rest) => (TimeUnit.ofSymbol? rest).bind (ofNumeral? negated numeral)
    | none => none

def refusal (source : String) : String :=
  "invalid duration " ++ Text.quote source

end UnattendedRefresh.Duration
