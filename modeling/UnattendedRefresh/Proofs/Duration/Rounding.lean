import Mathlib.Algebra.Order.Field.Basic
import Mathlib.Algebra.Order.Field.Rat
import Mathlib.Algebra.Ring.Parity
import Mathlib.Tactic.Linarith
import Mathlib.Tactic.Ring
import UnattendedRefresh.Proofs.Text.Digits

/-!
# Durations in writing

A duration is written in the largest unit of which it is at least one. The unit is chosen
first, and then the number is rounded to two decimals: what is written is the nearest such
number, and of two that are equally near the one whose last digit is even.
-/

namespace UnattendedRefresh

namespace Duration

/-! ### Rounding to whole numbers -/

section Quotient

variable {dividend divisor larger rounded : Nat}

/-- A whole number that no other is nearer to a quotient than; where another is as near, it
is even. -/
structure NearestEven (dividend divisor : Nat) (rounded : ℤ) : Prop where
  nearest : ∀ other : ℤ, |rounded * divisor - dividend| ≤ |other * divisor - dividend|
  even : ∀ other : ℤ, other ≠ rounded →
    |other * divisor - dividend| = |rounded * divisor - dividend| → Even rounded

/-- At most half a divisor is rounded off, and if it is half the result is even. -/
structure Halved (dividend divisor rounded : Nat) : Prop where
  above : 2 * (rounded * divisor) ≤ 2 * dividend + divisor
  below : 2 * dividend ≤ 2 * (rounded * divisor) + divisor
  even : 2 * (rounded * divisor) = 2 * dividend + divisor ∨
    2 * dividend = 2 * (rounded * divisor) + divisor → rounded % 2 = 0

theorem halved_roundedQuotient (dividend : Nat) (positive : 0 < divisor) :
    Halved dividend divisor (roundedQuotient dividend divisor) := by
  have split := Nat.div_add_mod' dividend divisor
  have small := Nat.mod_lt dividend positive
  have next := Nat.add_one_mul (dividend / divisor) divisor
  simp only [roundedQuotient]
  split
  next low => constructor <;> omega
  next =>
    split
    next high => constructor <;> omega
    next =>
      -- Half a divisor is left, and the quotient goes to the even one of its neighbours.
      rcases Nat.mod_two_eq_zero_or_one (dividend / divisor) with even | odd
      · rw [even, Nat.add_zero]
        constructor <;> omega
      · rw [odd]
        constructor <;> omega

theorem Halved.off (halved : Halved dividend divisor rounded) :
    2 * |(rounded : ℤ) * divisor - dividend| ≤ divisor := by
  have above := halved.above
  have below := halved.below
  zify at above below
  rw [Int.abs_eq_natAbs]
  omega

theorem Halved.nearestEven (halved : Halved dividend divisor rounded) (positive : 0 < divisor) :
    NearestEven dividend divisor rounded := by
  have off := halved.off
  have width : 0 < (divisor : ℤ) := by exact_mod_cast positive
  -- Another number lies a whole divisor or more away from this one, on either side.
  have apart (other : ℤ) (ne : other ≠ rounded) :
      other * divisor + divisor ≤ rounded * divisor ∨
        (rounded : ℤ) * divisor + divisor ≤ other * divisor := by
    rcases lt_or_gt_of_ne ne with less | more
    · left
      have := mul_le_mul_of_nonneg_right (Int.add_one_le_of_lt less) width.le
      linarith
    · right
      have := mul_le_mul_of_nonneg_right (Int.add_one_le_of_lt more) width.le
      linarith
  simp only [Int.abs_eq_natAbs] at off
  constructor
  · intro other
    by_cases same : other = rounded
    · rw [same]
    · have := apart other same
      simp only [Int.abs_eq_natAbs]
      omega
  · intro other ne tie
    have := apart other ne
    simp only [Int.abs_eq_natAbs] at tie
    have half : 2 * (rounded * divisor) = 2 * dividend + divisor ∨
        2 * dividend = 2 * (rounded * divisor) + divisor := by
      zify
      omega
    exact_mod_cast Nat.even_iff.mpr (halved.even half)

/-- Rounding keeps the order. -/
theorem roundedQuotient_mono (positive : 0 < divisor) (ordered : dividend ≤ larger) :
    roundedQuotient dividend divisor ≤ roundedQuotient larger divisor := by
  rcases Nat.eq_or_lt_of_le ordered with rfl | less
  · exact Nat.le_refl _
  · by_contra inverted
    have above := (halved_roundedQuotient dividend positive).above
    have below := (halved_roundedQuotient larger positive).below
    have step := Nat.mul_le_mul_right divisor (Nat.not_le.mp inverted)
    rw [Nat.succ_mul] at step
    omega

end Quotient

/-! ### The unit -/

/-- The units, the largest first. -/
def units : List Scale :=
  [⟨"s", 1000000000⟩, ⟨"ms", 1000000⟩, ⟨"µs", 1000⟩, ⟨"ns", 1⟩]

/-- The unit is the largest of which the duration is at least one, or else the smallest. -/
structure Suits (duration : Duration) (unit : Scale) : Prop where
  known : unit ∈ units
  reached : unit.length ≤ duration.nanoseconds ∨ unit.length = 1
  largest : ∀ other ∈ units, other.length ≤ duration.nanoseconds → other.length ≤ unit.length

theorem suits_scale (duration : Duration) : duration.Suits duration.scale := by
  unfold scale
  split
  next seconds =>
    exact ⟨by simp [units], Or.inl seconds, by simp [units]⟩
  next =>
    split
    next milliseconds =>
      exact ⟨by simp [units], Or.inl milliseconds, by simp [units]; omega⟩
    next =>
      split
      next microseconds =>
        exact ⟨by simp [units], Or.inl microseconds, by simp [units]; omega⟩
      next =>
        exact ⟨by simp [units], Or.inr rfl, by simp [units]; omega⟩

theorem scale_length_bounds (duration : Duration) :
    0 < duration.scale.length ∧ duration.scale.length ≤ 1000000000 := by
  have known := (suits_scale duration).known
  simp only [units, List.mem_cons, List.not_mem_nil, or_false] at known
  rcases known with scale | scale | scale | scale <;> rw [scale] <;> decide

theorem scale_length_pos (duration : Duration) : 0 < duration.scale.length :=
  duration.scale_length_bounds.1

/-! ### The number -/

/-- A number of hundredths and a unit in writing: two digits after the point, at least one
before it, and no zero at the front that is not needed. -/
def IsWritten (source : String) (hundredths : Nat) (symbol : String) : Prop :=
  ∃ whole tenth hundredth,
    source.toList = whole ++ '.' :: tenth :: hundredth :: symbol.toList ∧
      Decimal.natural? (whole ++ [tenth, hundredth]) = some hundredths ∧
      whole ≠ [] ∧ (whole.head? = some '0' → whole = ['0'])

theorem isWritten_text (duration : Duration) :
    IsWritten duration.text duration.hundredths duration.scale.symbol := by
  have tenth := Nat.toDigits_of_lt_base (b := 10)
    (Nat.mod_lt (duration.hundredths / 10) (by decide))
  have hundredth := Nat.toDigits_of_lt_base (b := 10)
    (Nat.mod_lt duration.hundredths (by decide))
  refine ⟨Nat.toDigits 10 (duration.hundredths / 100),
    Nat.digitChar (duration.hundredths / 10 % 10), Nat.digitChar (duration.hundredths % 10),
    ?_, ?_, Nat.toDigits_ne_nil, fun zero => ?_⟩
  · simp [text, tenth, hundredth]
  · have spelled := Decimal.natural?_append
      (Decimal.natural?_toDigits (duration.hundredths / 100))
      (Decimal.natural?_append (Decimal.natural?_toDigits (duration.hundredths / 10 % 10))
        (Decimal.natural?_toDigits (duration.hundredths % 10)))
    rw [tenth, hundredth] at spelled
    refine spelled.trans (congrArg some ?_)
    simp only [List.length_append, List.length_singleton]
    omega
  · rcases Nat.eq_zero_or_pos (duration.hundredths / 100) with none | positive
    · rw [none]
      rfl
    · exact absurd zero (Decimal.head?_toDigits positive)

/-- How far a number of the unit is from the duration, in nanoseconds. -/
def error (duration : Duration) (number : ℚ) : ℚ :=
  |number * duration.scale.length - duration.nanoseconds|

theorem error_hundredths (duration : Duration) (number : ℤ) :
    duration.error (number / 100) =
      (|number * duration.scale.length - (duration.nanoseconds * 100 : Nat)| : ℤ) / 100 := by
  have scaled : (number : ℚ) / 100 * duration.scale.length - duration.nanoseconds =
      ((number * duration.scale.length - (duration.nanoseconds * 100 : Nat) : ℤ) : ℚ) / 100 := by
    push_cast
    ring
  rw [error, scaled, abs_div, abs_of_pos (by norm_num : (0 : ℚ) < 100)]
  norm_cast

theorem hundredths_mono {one other : Duration} (alike : one.scale = other.scale)
    (ordered : one.nanoseconds ≤ other.nanoseconds) : one.hundredths ≤ other.hundredths := by
  rw [hundredths, hundredths, alike]
  exact roundedQuotient_mono (scale_length_pos other) (Nat.mul_le_mul_right 100 ordered)

theorem hundredths_greatest : greatest.hundredths = 1844674407370955161600 := by
  decide

/-- Nothing is written with a greater number than the greatest duration. -/
theorem hundredths_le_greatest (duration : Duration) :
    duration.hundredths ≤ greatest.hundredths := by
  obtain ⟨positive, bounded⟩ := duration.scale_length_bounds
  have above : 2 * (duration.hundredths * duration.scale.length) ≤
      2 * (duration.nanoseconds * 100) + duration.scale.length :=
    (halved_roundedQuotient _ positive).above
  have small := duration.nanoseconds_lt
  rw [hundredths_greatest]
  simp only [durationBound, UInt64.size] at small
  rcases Nat.lt_or_ge duration.nanoseconds 1000000000 with less | reached
  · have spread := Nat.le_mul_of_pos_right duration.hundredths positive
    omega
  · have unit : duration.scale.length = 1000000000 := by
      rw [scale, if_pos reached]
    rw [unit] at above
    omega

/-- What is written of a duration is the nearest number of two decimals, in its unit. -/
theorem text_nearest (duration : Duration) :
    duration.Suits duration.scale ∧
    IsWritten duration.text duration.hundredths duration.scale.symbol ∧
    (∀ other : ℤ, duration.error (duration.hundredths / 100) ≤ duration.error (other / 100)) ∧
    (∀ other : ℤ, other ≠ duration.hundredths →
      duration.error (other / 100) = duration.error (duration.hundredths / 100) →
      Even duration.hundredths) ∧
    duration.error (duration.hundredths / 100) ≤ 0.005 * duration.scale.length ∧
    (∀ other : Duration, duration.scale = other.scale →
      duration.nanoseconds ≤ other.nanoseconds → duration.hundredths ≤ other.hundredths) ∧
    duration.hundredths ≤ greatest.hundredths ∧
    greatest.text = "18446744073709551616.00s" := by
  have halved := halved_roundedQuotient (duration.nanoseconds * 100) (scale_length_pos duration)
  have rounds := halved.nearestEven (scale_length_pos duration)
  have own : duration.error (duration.hundredths / 100) = _ :=
    error_hundredths duration duration.hundredths
  refine ⟨suits_scale duration, isWritten_text duration, fun other => ?_, fun other ne tie => ?_,
    ?_, fun other => hundredths_mono, hundredths_le_greatest duration, by decide +kernel⟩
  · rw [own, error_hundredths]
    exact div_le_div_of_nonneg_right (by exact_mod_cast rounds.nearest other) (by norm_num)
  · rw [own, error_hundredths, div_left_inj' (by norm_num)] at tie
    exact_mod_cast rounds.even other ne (by exact_mod_cast tie)
  · have off : 2 * ((|(duration.hundredths : ℤ) * duration.scale.length -
        (duration.nanoseconds * 100 : Nat)| : ℤ) : ℚ) ≤ duration.scale.length := by
      exact_mod_cast halved.off
    rw [own]
    linarith

section Tie

/-- A second and five thousandths: half way between two numbers of hundredths. -/
private def halfWay : Duration := ⟨1005000000, by decide⟩

theorem text_nearest_halfWay :
    (101 ≠ halfWay.hundredths ∧ halfWay.error (101 / 100) = halfWay.error (100 / 100)) ∧
      Even halfWay.hundredths ∧ halfWay.text = "1.00s" := by
  have tie : halfWay.error (101 / 100) = halfWay.error (100 / 100) := by
    norm_num [error, scale, halfWay]
  have number : halfWay.hundredths = 100 := by decide
  have even := (text_nearest halfWay).2.2.2.1 101 (by decide) (by rw [number]; simpa using tie)
  exact ⟨⟨by decide, tie⟩, even, by decide +kernel⟩

end Tie

end Duration

end UnattendedRefresh
