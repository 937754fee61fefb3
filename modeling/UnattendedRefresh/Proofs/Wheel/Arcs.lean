import UnattendedRefresh.Wheel

/-!
# Arcs of the wheel

The buckets and the ranges made of consecutive buckets, as numbers. No bound is
cut down to 128 bits on the way, and a range that does not run past the last
bucket is an interval whose two ends are multiples of the bucket width, save for
the very top of the space.
-/

namespace UnattendedRefresh

namespace Identifier

/-- A number inside the space is the number of its identifier. -/
theorem number_ofNat {number : Nat} (inside : number < 1 <<< 128) :
    (ofNat number).number = number :=
  Nat.mod_eq_of_lt inside

end Identifier

namespace IdRange

theorem contains_of_not_wraps {range : IdRange} (straight : range.wraps = false)
    (identifier : Identifier) :
    range.contains identifier = true ↔
      range.left.number ≤ identifier.number ∧
        identifier.number ≤ range.right.number := by
  simp [contains, straight]

end IdRange

namespace Wheel

theorem step_pos : 0 < step := by
  decide

/-- The widths of all buckets together stay inside the space. -/
theorem minutesPerDay_mul_step_lt : minutesPerDay * step < 1 <<< 128 := by
  decide

theorem mul_step_lt {index : Nat} (inside : index ≤ minutesPerDay) :
    index * step < 1 <<< 128 :=
  Nat.lt_of_le_of_lt (Nat.mul_le_mul_right step inside) minutesPerDay_mul_step_lt

theorem bucket_lower_lt {index : Nat} (inside : index < minutesPerDay) :
    (bucket index).lower < 1 <<< 128 :=
  mul_step_lt (Nat.le_of_lt inside)

theorem bucket_upper_lt {index : Nat} (inside : index < minutesPerDay) :
    (bucket index).upper < 1 <<< 128 := by
  simp only [bucket]
  split
  · decide
  · exact mul_step_lt inside

/-- The upper end of an arc of buckets that stops before the given one. -/
def endBefore (index : Nat) : Nat :=
  if index = minutesPerDay then (1 <<< 128) - 1 else index * step

theorem bucket_upper (index : Nat) :
    (bucket index).upper = endBefore (index + 1) := by
  have sameCase : index = minutesPerDay - 1 ↔ index + 1 = minutesPerDay := by
    simp only [minutesPerDay]
    omega
  simp only [bucket, endBefore, sameCase]

theorem mul_step_le_endBefore {first past : Nat} (ordered : first ≤ past)
    (inside : past ≤ minutesPerDay) : first * step ≤ endBefore past := by
  unfold endBefore
  split
  · have := mul_step_lt (Nat.le_trans ordered inside)
    omega
  · exact Nat.mul_le_mul_right step ordered

section Span

variable {first count : Nat}

theorem span_left (inside : first < minutesPerDay) :
    (span first count).left.number = first * step :=
  Identifier.number_ofNat (bucket_lower_lt inside)

/-- The right end of an arc that stays before the last bucket's end. -/
theorem span_right (positive : 0 < count) (inside : first + count ≤ minutesPerDay) :
    (span first count).right.number = endBefore (first + count) := by
  have lastInside : first + count - 1 < minutesPerDay := by omega
  have pastLast : first + count - 1 + 1 = first + count := by omega
  calc
    (span first count).right.number =
        (Identifier.ofNat (bucket (first + count - 1)).upper).number := by
      rw [span, Nat.mod_eq_of_lt lastInside]
    _ = (bucket (first + count - 1)).upper :=
      Identifier.number_ofNat (bucket_upper_lt lastInside)
    _ = endBefore (first + count) := by
      rw [bucket_upper, pastLast]

theorem span_not_wraps (positive : 0 < count) (inside : first + count ≤ minutesPerDay) :
    (span first count).wraps = false := by
  have ordered := mul_step_le_endBefore (Nat.le_add_right first count) inside
  rw [IdRange.wraps, span_left (by omega), span_right positive inside]
  simpa using ordered

theorem span_contains (positive : 0 < count) (inside : first + count ≤ minutesPerDay)
    (identifier : Identifier) :
    (span first count).contains identifier = true ↔
      first * step ≤ identifier.number ∧
        identifier.number ≤ endBefore (first + count) := by
  rw [IdRange.contains_of_not_wraps (span_not_wraps positive inside),
    span_left (by omega), span_right positive inside]

end Span

end Wheel

end UnattendedRefresh
