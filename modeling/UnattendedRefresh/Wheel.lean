import UnattendedRefresh.Calendar
import UnattendedRefresh.Identifier.Spelling
import UnattendedRefresh.Journal

/-!
# The wheel of buckets

The identifier space is cut into one bucket per minute of the day. A tenant
refreshed `f` times a day is served, at each minute, the users on the next `f`
buckets, so the wheel goes round `f` times a day. A bucket's upper end is the
lower end of the next one, both inclusive; the last bucket keeps the remainder
of the division.
-/

namespace UnattendedRefresh

/-- The most unattended refreshes per day that regulation allows. -/
def refreshCeiling : Nat := 4

inductive WheelFault where
  | invalidFrequency (frequency : Nat)
  | minuteOutOfRange (minute : Nat)
  deriving DecidableEq

namespace WheelFault

def message : WheelFault → String
  | invalidFrequency frequency =>
    "refresh frequency must be at least 1, got " ++ toString frequency
  | minuteOutOfRange minute =>
    "minute of day must be below 1440, got " ++ toString minute

end WheelFault

def MinuteOfDay.check (index : Nat) : Except WheelFault MinuteOfDay :=
  match MinuteOfDay.ofNat? index with
  | some minute => .ok minute
  | none => .error (.minuteOutOfRange index)

/-- An inclusive range of identifiers. If its left end is above its right end it
runs through the top of the space and goes on from the bottom. -/
structure IdRange where
  left : Identifier
  right : Identifier
  deriving DecidableEq

namespace IdRange

def wraps (range : IdRange) : Bool :=
  range.right.number < range.left.number

/-- The pieces that do not wrap, the tail of the space first. -/
def segments (range : IdRange) : List (Identifier × Identifier) :=
  if range.wraps then
    [(range.left, Identifier.greatest), (Identifier.least, range.right)]
  else
    [(range.left, range.right)]

def contains (range : IdRange) (identifier : Identifier) : Bool :=
  if range.wraps then
    range.left.number ≤ identifier.number || identifier.number ≤ range.right.number
  else
    range.left.number ≤ identifier.number && identifier.number ≤ range.right.number

def text (range : IdRange) : String :=
  "[" ++ range.left.text ++ ", " ++ range.right.text ++ "]"

end IdRange

namespace Wheel

/-- Width of every bucket but the last. -/
def step : Nat := ((1 <<< 128) - 1) / minutesPerDay

structure Bucket where
  lower : Nat
  upper : Nat
  deriving DecidableEq

def bucket (index : Nat) : Bucket :=
  { lower := index * step
    upper := if index = minutesPerDay - 1 then (1 <<< 128) - 1 else (index + 1) * step }

def bucket? (index : Nat) : Option Bucket :=
  if index < minutesPerDay then some (bucket index) else none

/-- The range of `count` buckets from a first one on, around the wheel. -/
def span (first count : Nat) : IdRange :=
  { left := Identifier.ofNat (bucket first).lower
    right := Identifier.ofNat (bucket ((first + count - 1) % minutesPerDay)).upper }

/-- The identifiers due at a minute for a tenant refreshed this often. Zero means
that the tenant takes no part; above the ceiling the ceiling holds. -/
def dueRange (frequency : Nat) (minute : MinuteOfDay) : Except WheelFault IdRange :=
  if frequency = 0 then
    .error (.invalidFrequency frequency)
  else
    let rate := min frequency refreshCeiling
    .ok (span (rate * minute.index % minutesPerDay) rate)

def clampNotice (frequency : Nat) : List Journal.Entry :=
  if refreshCeiling < frequency then
    [Journal.note .warn "Refresh frequency above ceiling, clamping"]
  else
    []

def dueMinutes (frequency : Nat) (identifier : Identifier) : Except WheelFault (List Nat) :=
  if frequency = 0 then
    .error (.invalidFrequency frequency)
  else
    .ok <| (List.range minutesPerDay).filter fun index =>
      match MinuteOfDay.ofNat? index with
      | some minute =>
        match dueRange frequency minute with
        | .ok range => range.contains identifier
        | .error _ => false
      | none => false

end Wheel

end UnattendedRefresh
