import Mathlib.Order.Monotone.Basic
import UnattendedRefresh.Proofs.Identifier.Bytes
import UnattendedRefresh.Proofs.Wheel.Arcs

/-!
# Spans around the wheel

The buckets tile the space of identifiers: each ends where the next one begins, and that
edge belongs to both. A span of fewer buckets than there are holds what its buckets hold,
also where it runs past the last bucket and goes on from the first.
-/

namespace UnattendedRefresh

namespace Wheel

/-- Both ends of a bucket belong to it. -/
def Bucket.Holds (bucket : Bucket) (identifier : Identifier) : Prop :=
  bucket.lower ≤ identifier.number ∧ identifier.number ≤ bucket.upper

instance (bucket : Bucket) (identifier : Identifier) : Decidable (bucket.Holds identifier) :=
  inferInstanceAs (Decidable (_ ∧ _))

variable {identifier : Identifier} {first past count index other : Nat}

theorem holds_bucket_iff :
    (bucket index).Holds identifier ↔
      index * step ≤ identifier.number ∧ identifier.number ≤ endBefore (index + 1) := by
  rw [Bucket.Holds, bucket_upper]
  rfl

theorem endBefore_of_lt (inside : past < minutesPerDay) : endBefore past = past * step :=
  if_neg (Nat.ne_of_lt inside)

theorem le_endBefore_all (identifier : Identifier) :
    identifier.number ≤ endBefore minutesPerDay :=
  identifier.le_greatest

theorem endBefore_le {later : Nat} (ordered : past ≤ later) (inside : later ≤ minutesPerDay) :
    endBefore past ≤ endBefore later := by
  rcases Nat.lt_or_eq_of_le (Nat.le_trans ordered inside) with before | rfl
  · rw [endBefore_of_lt before]
    exact mul_step_le_endBefore ordered inside
  · rw [Nat.le_antisymm inside ordered]

/-- Each bucket ends where the next one begins. -/
theorem bucket_upper_eq_lower (inside : index + 1 < minutesPerDay) :
    (bucket index).upper = (bucket (index + 1)).lower := by
  rw [bucket_upper, endBefore_of_lt inside]
  rfl

theorem bucket_lower_lt_upper (inside : index < minutesPerDay) :
    (bucket index).lower < (bucket index).upper := by
  rw [bucket_upper]
  calc
    index * step < (index + 1) * step :=
      Nat.mul_lt_mul_of_pos_right (Nat.lt_succ_self index) step_pos
    _ ≤ endBefore (index + 1) := mul_step_le_endBefore (Nat.le_refl _) inside

/-- Consecutive buckets hold together what lies between their ends, by induction on the
bucket before which they stop. -/
theorem exists_holds_iff (identifier : Identifier) (first : Nat) (ordered : first < past)
    (inside : past ≤ minutesPerDay) :
    (∃ index, first ≤ index ∧ index < past ∧ (bucket index).Holds identifier) ↔
      first * step ≤ identifier.number ∧ identifier.number ≤ endBefore past := by
  simp only [holds_bucket_iff]
  constructor
  · rintro ⟨index, lower, upper, begins, ends⟩
    exact ⟨(Nat.mul_le_mul_right step lower).trans begins, ends.trans (endBefore_le upper inside)⟩
  · rintro ⟨begins, ends⟩
    induction past, ordered using Nat.le_induction with
    | base => exact ⟨first, Nat.le_refl first, Nat.lt_succ_self first, begins, ends⟩
    | succ past ordered ih =>
        rcases Nat.lt_or_ge (endBefore past) identifier.number with beyond | within
        · rw [endBefore_of_lt inside] at beyond
          exact ⟨past, Nat.le_of_lt ordered, Nat.lt_succ_self past, Nat.le_of_lt beyond, ends⟩
        · obtain ⟨index, lower, upper, holds⟩ := ih (Nat.le_of_succ_le inside) within
          exact ⟨index, lower, Nat.lt_succ_of_lt upper, holds⟩

theorem exists_holds (identifier : Identifier) :
    ∃ index, index < minutesPerDay ∧ (bucket index).Holds identifier := by
  obtain ⟨index, -, inside, holds⟩ :=
    (exists_holds_iff identifier 0 (by decide) (Nat.le_refl minutesPerDay)).mpr
      ⟨by simp, le_endBefore_all identifier⟩
  exact ⟨index, inside, holds⟩

/-- Two buckets hold an identifier only if it is the edge at which they meet. -/
theorem edge_of_holds (ordered : index < other) (inside : other < minutesPerDay)
    (holds : (bucket index).Holds identifier) (holdsToo : (bucket other).Holds identifier) :
    other = index + 1 ∧ identifier.number = (bucket other).lower := by
  obtain ⟨-, ends⟩ := holds_bucket_iff.mp holds
  rw [endBefore_of_lt (Nat.lt_of_le_of_lt ordered inside)] at ends
  obtain ⟨begins, -⟩ := holds_bucket_iff.mp holdsToo
  have meets : other ≤ index + 1 := Nat.le_of_mul_le_mul_right (begins.trans ends) step_pos
  obtain rfl : other = index + 1 := Nat.le_antisymm meets ordered
  exact ⟨rfl, Nat.le_antisymm ends begins⟩

/-! ### Spans that go on from the first bucket -/

section Around

variable (inside : first < minutesPerDay) (around : minutesPerDay < first + count)
  (few : count < minutesPerDay)

include inside around few

/-- The right end of a span that goes around: it stops before the bucket that is left. -/
theorem span_right_around :
    (span first count).right.number = (first + count - minutesPerDay) * step := by
  have last : (first + count - 1) % minutesPerDay = first + count - minutesPerDay - 1 := by
    rw [Nat.mod_eq_sub_mod (by omega), Nat.mod_eq_of_lt (by omega)]
    omega
  have next : first + count - minutesPerDay - 1 + 1 = first + count - minutesPerDay := by omega
  calc
    (span first count).right.number =
        (Identifier.ofNat (bucket (first + count - minutesPerDay - 1)).upper).number := by
      rw [span, last]
    _ = endBefore (first + count - minutesPerDay) := by
      rw [Identifier.number_ofNat (bucket_upper_lt (by omega)), bucket_upper, next]
    _ = (first + count - minutesPerDay) * step := endBefore_of_lt (by omega)

theorem span_wraps_around : (span first count).wraps = true := by
  rw [IdRange.wraps, span_left inside, span_right_around inside around few, decide_eq_true_iff]
  exact Nat.mul_lt_mul_of_pos_right (by omega) step_pos

theorem span_contains_around :
    (span first count).contains identifier = true ↔
      first * step ≤ identifier.number ∨
        identifier.number ≤ (first + count - minutesPerDay) * step := by
  simp [IdRange.contains, span_wraps_around inside around few, span_left inside,
    span_right_around inside around few]

end Around

/-! ### All spans -/

section Span

variable (inside : first < minutesPerDay) (positive : 1 ≤ count) (few : count < minutesPerDay)

include inside positive few

theorem span_wraps_iff :
    (span first count).wraps = true ↔ minutesPerDay < first + count := by
  constructor
  · intro wraps
    by_contra straight
    rw [span_not_wraps positive (Nat.not_lt.mp straight)] at wraps
    cases wraps
  · exact fun around => span_wraps_around inside around few

theorem span_contains_iff (identifier : Identifier) :
    (span first count).contains identifier = true ↔
      ∃ offset < count, (bucket ((first + offset) % minutesPerDay)).Holds identifier := by
  rcases Nat.lt_or_ge minutesPerDay (first + count) with around | straight
  · have front := exists_holds_iff identifier first inside (Nat.le_refl minutesPerDay)
    have back := exists_holds_iff identifier 0 (Nat.sub_pos_of_lt around) (by omega)
    rw [endBefore_of_lt (by omega)] at back
    rw [span_contains_around inside around few]
    constructor
    · rintro (begins | ends)
      · obtain ⟨index, lower, upper, holds⟩ :=
          front.mpr ⟨begins, le_endBefore_all identifier⟩
        refine ⟨index - first, by omega, ?_⟩
        rwa [Nat.add_sub_of_le lower, Nat.mod_eq_of_lt upper]
      · obtain ⟨index, -, upper, holds⟩ := back.mpr ⟨by simp, ends⟩
        refine ⟨index + minutesPerDay - first, by omega, ?_⟩
        rwa [Nat.add_sub_of_le (by omega), Nat.add_mod_right, Nat.mod_eq_of_lt (by omega)]
    · rintro ⟨offset, below, holds⟩
      rcases Nat.lt_or_ge (first + offset) minutesPerDay with before | after
      · rw [Nat.mod_eq_of_lt before] at holds
        exact Or.inl (front.mp ⟨_, Nat.le_add_right first offset, before, holds⟩).1
      · rw [Nat.mod_eq_sub_mod after, Nat.mod_eq_of_lt (by omega)] at holds
        exact Or.inr (back.mp ⟨_, Nat.zero_le _, by omega, holds⟩).2
  · rw [span_contains positive straight, ← exists_holds_iff identifier first (by omega) straight]
    constructor
    · rintro ⟨index, lower, upper, holds⟩
      refine ⟨index - first, by omega, ?_⟩
      rwa [Nat.add_sub_of_le lower, Nat.mod_eq_of_lt (by omega)]
    · rintro ⟨offset, below, holds⟩
      rw [Nat.mod_eq_of_lt (by omega)] at holds
      exact ⟨_, Nat.le_add_right first offset, by omega, holds⟩

end Span

/-- Spans and the buckets they are made of, around the wheel as well. -/
theorem span_around :
    (∀ first count, first < minutesPerDay → 1 ≤ count → count < minutesPerDay →
      (∀ identifier, (span first count).contains identifier = true ↔
        ∃ offset < count, (bucket ((first + offset) % minutesPerDay)).Holds identifier) ∧
      ((span first count).wraps = true ↔ minutesPerDay < first + count)) ∧
    (bucket 0).lower = 0 ∧
    (∀ index, index + 1 < minutesPerDay → (bucket index).upper = (bucket (index + 1)).lower) ∧
    (∀ index < minutesPerDay, (bucket index).lower < (bucket index).upper) ∧
    (bucket (minutesPerDay - 1)).upper = 2 ^ 128 - 1 ∧
    ∀ identifier,
      (∃ index, index < minutesPerDay ∧ (bucket index).Holds identifier) ∧
      ∀ index other, index < other → other < minutesPerDay →
        (bucket index).Holds identifier → (bucket other).Holds identifier →
        other = index + 1 ∧ identifier.number = (bucket other).lower := by
  refine ⟨fun first count inside positive few => ⟨?_, ?_⟩, ?_, ?_, ?_, ?_,
    fun identifier => ⟨?_, ?_⟩⟩
  · exact span_contains_iff inside positive few
  · exact span_wraps_iff inside positive few
  · exact Nat.zero_mul step
  · exact fun index inside => bucket_upper_eq_lower inside
  · exact fun index inside => bucket_lower_lt_upper inside
  · rfl
  · exact exists_holds identifier
  · exact fun index other ordered inside => edge_of_holds ordered inside

/-- The last bucket and the first two: both ends of the space, and nothing of its middle. -/
theorem span_around_lastBucket :
    (1439 < minutesPerDay ∧ 1 ≤ 3 ∧ 3 < minutesPerDay) ∧ (span 1439 3).wraps = true ∧
      (span 1439 3).contains Identifier.greatest = true ∧
      (span 1439 3).contains Identifier.least = true ∧
      ¬ (span 1439 3).contains (Identifier.ofNat (bucket 720).lower) = true := by
  obtain ⟨contains, wraps⟩ := span_around.1 1439 3 (by decide) (by decide) (by decide)
  refine ⟨by decide, wraps.mpr (by decide), (contains _).mpr ⟨0, by decide, by decide⟩,
    (contains _).mpr ⟨1, by decide, by decide⟩, fun held => ?_⟩
  exact absurd ((contains _).mp held) (by decide)

end Wheel

end UnattendedRefresh
