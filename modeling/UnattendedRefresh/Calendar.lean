/-!
# Instants and minutes of the day

An instant counts whole seconds from the epoch, before it with a negative sign,
and nanoseconds forward from there. A leap second is written with a thousand
million nanoseconds or more and still belongs to the minute it ends.
-/

namespace UnattendedRefresh

/-- The nanoseconds of a minute. -/
def minuteTicks : Nat := 60000000000

structure Instant where
  seconds : Int
  nanoseconds : Nat
  deriving DecidableEq, Inhabited

namespace Instant

/-- Nanoseconds since the epoch. -/
def ticks (instant : Instant) : Int :=
  instant.seconds * 1000000000 + instant.nanoseconds

/-- The exact difference of two instants in nanoseconds. A leap second is told apart
by its notation alone and no second of its own here; neither a clock that is read nor a
date that is stored is ever written so. -/
def since (later earlier : Instant) : Int :=
  later.ticks - earlier.ticks

def ofTicks (ticks : Int) : Instant :=
  ⟨ticks / 1000000000, (ticks % 1000000000).toNat⟩

def after (instant : Instant) (nanoseconds : Int) : Instant :=
  ofTicks (instant.ticks + nanoseconds)

/-- Nanoseconds left until the next whole minute; a leap second counts as the
second before it. -/
def untilNextMinute (instant : Instant) : Int :=
  60000000000
    - ((instant.seconds % 60) * 1000000000 + (instant.nanoseconds % 1000000000 : Nat))

end Instant

def minutesPerDay : Nat := 1440

/-- A minute of the day, counted from midnight. -/
structure MinuteOfDay where
  index : Nat
  index_lt : index < minutesPerDay
  deriving DecidableEq

namespace MinuteOfDay

def ofNat? (index : Nat) : Option MinuteOfDay :=
  if inside : index < minutesPerDay then some ⟨index, inside⟩ else none

theorem minute_index_lt (seconds : Int) : (seconds / 60 % 1440).toNat < minutesPerDay := by
  have := Int.emod_lt_of_pos (seconds / 60) (show (0 : Int) < 1440 by decide)
  have := Int.emod_nonneg (seconds / 60) (show (1440 : Int) ≠ 0 by decide)
  simp only [minutesPerDay]
  omega

def ofInstant (instant : Instant) : MinuteOfDay :=
  ⟨(instant.seconds / 60 % 1440).toNat, minute_index_lt instant.seconds⟩

def twoDigits (value : Nat) : String :=
  if value < 10 then "0" ++ toString value else toString value

def text (minute : MinuteOfDay) : String :=
  twoDigits (minute.index / 60) ++ ":" ++ twoDigits (minute.index % 60)

end MinuteOfDay

/-! ### Dates -/

/-- A day of the calendar; the year 0 is the one before the year 1. -/
structure Date where
  year : Int
  month : Nat
  day : Nat
  deriving DecidableEq

namespace Date

/-- Years that begin in March have their leap day last, and 400 of them have the same
number of days, whichever they are. The day and the months are counted from 0 there. -/
def ofDays (days : Int) : Date :=
  let fromMarch := days + 719468
  let inEra := (fromMarch % 146097).toNat
  let yearOfEra := (inEra - inEra / 1460 + inEra / 36524 - inEra / 146096) / 365
  let inYear := inEra - (365 * yearOfEra + yearOfEra / 4 - yearOfEra / 100)
  let monthFromMarch := (5 * inYear + 2) / 153
  let month := if monthFromMarch < 10 then monthFromMarch + 3 else monthFromMarch - 9
  { year := fromMarch / 146097 * 400 + yearOfEra + (if month ≤ 2 then 1 else 0)
    month
    day := inYear - (153 * monthFromMarch + 2) / 5 + 1 }

/-- At least so many digits. -/
def padded (width number : Nat) : String :=
  let digits := toString number
  "".pushn '0' (width - digits.length) ++ digits

/-- Years of more or less than four digits are written with their sign. -/
def yearText (year : Int) : String :=
  if 0 ≤ year ∧ year ≤ 9999 then padded 4 year.toNat
  else (if year < 0 then "-" else "+") ++ padded 4 year.natAbs

def text (date : Date) : String :=
  yearText date.year ++ "-" ++ MinuteOfDay.twoDigits date.month ++ "-" ++
    MinuteOfDay.twoDigits date.day

end Date

namespace Instant

/-- The fraction of a second, in as many groups of three digits as it takes. -/
def fractionText (nanoseconds : Nat) : String :=
  if nanoseconds = 0 then ""
  else if nanoseconds % 1000000 = 0 then "." ++ Date.padded 3 (nanoseconds / 1000000)
  else if nanoseconds % 1000 = 0 then "." ++ Date.padded 6 (nanoseconds / 1000)
  else "." ++ Date.padded 9 nanoseconds

/-- The instant as a date and a time of day, as RFC 3339 has it. A leap second is the
sixtieth of its minute. -/
def text (instant : Instant) : String :=
  let ofDay := (instant.seconds % 86400).toNat
  let second := ofDay % 60 + instant.nanoseconds / 1000000000
  (Date.ofDays (instant.seconds / 86400)).text ++ "T" ++
    MinuteOfDay.twoDigits (ofDay / 3600) ++ ":" ++ MinuteOfDay.twoDigits (ofDay / 60 % 60) ++
    ":" ++ MinuteOfDay.twoDigits second ++ fractionText (instant.nanoseconds % 1000000000) ++
    "+00:00"

end Instant

end UnattendedRefresh
