/-!
# Durations

A length of time in whole nanoseconds, up to the largest that 64 bits of seconds
can hold, and its text with two decimals.
-/

namespace UnattendedRefresh

/-- One more than the greatest duration in nanoseconds. -/
def durationBound : Nat := UInt64.size * 1000000000

structure Duration where
  nanoseconds : Nat
  nanoseconds_lt : nanoseconds < durationBound
  deriving DecidableEq

namespace Duration

theorem pred_bound_lt : durationBound - 1 < durationBound := by
  decide

def greatest : Duration := ⟨durationBound - 1, pred_bound_lt⟩

/-- The duration of a number of nanoseconds, or the greatest one. -/
def saturating (nanoseconds : Nat) : Duration :=
  if small : nanoseconds < durationBound then ⟨nanoseconds, small⟩ else greatest

def ofSeconds (seconds : Nat) : Duration :=
  saturating (seconds * 1000000000)

def ofMilliseconds (milliseconds : Nat) : Duration :=
  saturating (milliseconds * 1000000)

def zero : Duration := ofSeconds 0

instance : Inhabited Duration := ⟨zero⟩

def wholeSeconds (duration : Duration) : Nat :=
  duration.nanoseconds / 1000000000

def subsecond (duration : Duration) : Nat :=
  duration.nanoseconds % 1000000000

structure Scale where
  symbol : String
  length : Nat

/-- The greatest unit in which the duration is at least one. -/
def scale (duration : Duration) : Scale :=
  if 1000000000 ≤ duration.nanoseconds then ⟨"s", 1000000000⟩
  else if 1000000 ≤ duration.nanoseconds then ⟨"ms", 1000000⟩
  else if 1000 ≤ duration.nanoseconds then ⟨"µs", 1000⟩
  else ⟨"ns", 1⟩

/-- The quotient rounded to the nearest whole number, ties to the even one. -/
def roundedQuotient (dividend divisor : Nat) : Nat :=
  let quotient := dividend / divisor
  let remainder := dividend % divisor
  if 2 * remainder < divisor then quotient
  else if divisor < 2 * remainder then quotient + 1
  else quotient + quotient % 2

def hundredths (duration : Duration) : Nat :=
  roundedQuotient (duration.nanoseconds * 100) duration.scale.length

def text (duration : Duration) : String :=
  let hundredths := duration.hundredths
  toString (hundredths / 100) ++ "." ++ toString (hundredths / 10 % 10)
    ++ toString (hundredths % 10) ++ duration.scale.symbol

end Duration

end UnattendedRefresh
