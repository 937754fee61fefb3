import UnattendedRefresh.Proofs.Wheel.Arcs
import Mathlib.Data.List.Perm.Lattice
import Mathlib.Data.List.Range
import Mathlib.Tactic.Ring

/-!
# When an identifier is due

A tenant refreshed `rate` times a day is served one arc of `rate` buckets a
minute, so the wheel goes round once in `cycle` minutes and arc number `turn` is
served at every minute that leaves `turn` modulo `cycle`. Both ends of an arc are
inclusive, and an end inside the space belongs to two arcs.
-/

namespace UnattendedRefresh

namespace Wheel

/-- How often a day the wheel goes round: the frequency, cut to the ceiling. -/
def rate (frequency : Nat) : Nat :=
  min frequency refreshCeiling

/-- Minutes in which the wheel goes round once. -/
def cycle (frequency : Nat) : Nat :=
  minutesPerDay / rate frequency

/-- An end of an arc inside the space, where two consecutive arcs meet. -/
def IsSharedEdge (frequency number : Nat) : Prop :=
  ∃ turn, 1 ≤ turn ∧ turn ≤ cycle frequency - 1 ∧
    number = rate frequency * turn * step

def IsDue (frequency : Nat) (minute : MinuteOfDay) (identifier : Identifier) : Prop :=
  ∃ range, dueRange frequency minute = .ok range ∧ range.contains identifier = true

instance (frequency : Nat) (minute : MinuteOfDay) (identifier : Identifier) :
    Decidable (IsDue frequency minute identifier) :=
  match due : dueRange frequency minute with
  | .ok range => decidable_of_iff (range.contains identifier = true) (by simp [IsDue, due])
  | .error _ => isFalse (by simp [IsDue, due])

theorem rate_mem {frequency : Nat} (positive : 0 < frequency) :
    rate frequency = 1 ∨ rate frequency = 2 ∨ rate frequency = 3 ∨
      rate frequency = 4 := by
  simp only [rate, refreshCeiling]
  omega

theorem rate_pos {frequency : Nat} (positive : 0 < frequency) : 0 < rate frequency := by
  rcases rate_mem positive with rate | rate | rate | rate <;> omega

theorem rate_le_ceiling (frequency : Nat) : rate frequency ≤ refreshCeiling :=
  Nat.min_le_right _ _

/-- Every rate up to the ceiling divides the day. -/
theorem rate_mul_cycle {frequency : Nat} (positive : 0 < frequency) :
    rate frequency * cycle frequency = minutesPerDay := by
  rcases rate_mem positive with rate | rate | rate | rate <;>
    simp [cycle, rate, minutesPerDay]

theorem cycle_ge {frequency : Nat} (positive : 0 < frequency) :
    360 ≤ cycle frequency := by
  rcases rate_mem positive with rate | rate | rate | rate <;>
    simp [cycle, rate, minutesPerDay]

theorem cycle_dvd {frequency : Nat} (positive : 0 < frequency) :
    cycle frequency ∣ minutesPerDay :=
  Dvd.intro_left _ (rate_mul_cycle positive)

/-- The first bucket served at a minute depends on the minute within its round. -/
theorem first_bucket_eq {frequency : Nat} (positive : 0 < frequency) (index : Nat) :
    rate frequency * index % minutesPerDay =
      rate frequency * (index % cycle frequency) := by
  rw [← rate_mul_cycle positive, Nat.mul_mod_mul_left]

theorem dueRange_zero (minute : MinuteOfDay) :
    dueRange 0 minute = .error (.invalidFrequency 0) :=
  rfl

theorem dueRange_eq {frequency : Nat} (positive : 0 < frequency) (minute : MinuteOfDay) :
    dueRange frequency minute =
      .ok (span (rate frequency * (minute.index % cycle frequency)) (rate frequency)) := by
  rw [← first_bucket_eq positive]
  simp [dueRange, rate, Nat.ne_of_gt positive]

theorem dueRange_error_iff (frequency : Nat) (minute : MinuteOfDay) :
    (∃ fault, dueRange frequency minute = .error fault) ↔ frequency = 0 := by
  rcases Nat.eq_zero_or_pos frequency with zero | positive
  · simp [zero, dueRange_zero]
  · simp [dueRange_eq positive, Nat.ne_of_gt positive]

section Turn

variable {frequency turn : Nat}

/-- An arc ends before the bucket at which the next one begins. -/
theorem arc_end_le (positive : 0 < frequency) (inRound : turn < cycle frequency) :
    rate frequency * turn + rate frequency ≤ minutesPerDay := by
  have next : rate frequency * turn + rate frequency =
      rate frequency * (turn + 1) := (Nat.mul_succ _ _).symm
  rw [next, ← rate_mul_cycle positive]
  exact Nat.mul_le_mul_left _ inRound

/-- Only the last arc reaches the top of the space. -/
theorem arc_end_eq_iff (positive : 0 < frequency) :
    rate frequency * turn + rate frequency = minutesPerDay ↔
      turn + 1 = cycle frequency := by
  have next : rate frequency * turn + rate frequency =
      rate frequency * (turn + 1) := (Nat.mul_succ _ _).symm
  rw [next, ← rate_mul_cycle positive]
  exact Nat.mul_right_inj (Nat.ne_of_gt (rate_pos positive))

/-- The numbers on an arc, told by the width of the arcs. -/
theorem arc_contains_iff (positive : 0 < frequency) (inRound : turn < cycle frequency)
    (identifier : Identifier) :
    (span (rate frequency * turn) (rate frequency)).contains identifier = true ↔
      turn * (rate frequency * step) ≤ identifier.number ∧
        (turn + 1 = cycle frequency ∨
          identifier.number ≤ (turn + 1) * (rate frequency * step)) := by
  have leftEnd : rate frequency * turn * step = turn * (rate frequency * step) := by
    ring
  have rightEnd : (rate frequency * turn + rate frequency) * step =
      (turn + 1) * (rate frequency * step) := by
    ring
  rw [span_contains (rate_pos positive) (arc_end_le positive inRound), leftEnd]
  simp only [endBefore, arc_end_eq_iff positive, rightEnd]
  have inSpace := identifier.number_lt
  split
  next last => simp only [last, true_or, and_true]; omega
  next notLast => simp [notLast]

end Turn

/-- Which of `count` consecutive closed intervals of one width a number lies in,
the last of them without an upper end. -/
theorem mem_interval_iff {width count number turn : Nat} (positive : 0 < width)
    (inside : turn < count) :
    (turn * width ≤ number ∧ (turn + 1 = count ∨ number ≤ (turn + 1) * width)) ↔
      turn = min (number / width) (count - 1) ∨
        (turn + 1 ≤ count - 1 ∧ number = (turn + 1) * width) := by
  have below : turn * width ≤ number ↔ turn ≤ number / width :=
    (Nat.le_div_iff_mul_le positive).symm
  have above : number < (turn + 1) * width ↔ number / width < turn + 1 :=
    (Nat.div_lt_iff_lt_mul positive).symm
  have grows : turn * width ≤ (turn + 1) * width :=
    Nat.mul_le_mul_right _ (Nat.le_succ turn)
  omega

/-- On a shared edge the arc that begins there is found by division. -/
theorem div_of_sharedEdge {frequency turn : Nat} (positive : 0 < frequency) :
    rate frequency * turn * step / (rate frequency * step) = turn := by
  have product : rate frequency * turn * step = turn * (rate frequency * step) := by
    ring
  have widthPos : 0 < rate frequency * step := Nat.mul_pos (rate_pos positive) step_pos
  rw [product, Nat.mul_div_cancel _ widthPos]

theorem isSharedEdge_iff (frequency number : Nat) :
    IsSharedEdge frequency number ↔
      1 ≤ number / (rate frequency * step) ∧
        number / (rate frequency * step) ≤ cycle frequency - 1 ∧
        number = rate frequency * (number / (rate frequency * step)) * step := by
  constructor
  · rintro ⟨turn, lower, upper, rfl⟩
    have positive : 0 < frequency := by
      rcases Nat.eq_zero_or_pos frequency with zero | positive
      · simp [zero, cycle, rate] at upper
        omega
      · exact positive
    rw [div_of_sharedEdge positive]
    exact ⟨lower, upper, rfl⟩
  · rintro ⟨lower, upper, edge⟩
    exact ⟨_, lower, upper, edge⟩

/-- Where nobody is due there are no edges. -/
theorem pos_of_sharedEdge {frequency number : Nat} (edge : IsSharedEdge frequency number) :
    0 < frequency := by
  obtain ⟨turn, lower, upper, -⟩ := edge
  by_contra none
  obtain rfl : frequency = 0 := Nat.eq_zero_of_not_pos none
  simp [cycle, rate] at upper
  omega

instance (frequency number : Nat) : Decidable (IsSharedEdge frequency number) :=
  decidable_of_iff _ (isSharedEdge_iff frequency number).symm

/-- The arcs that a number lies on: two for a shared edge, else one. The last
arc keeps the remainder of the division. -/
def turns (frequency number : Nat) : List Nat :=
  let turn := number / (rate frequency * step)
  if IsSharedEdge frequency number then [turn - 1, turn]
  else [min turn (cycle frequency - 1)]

theorem turns_ne_nil (frequency number : Nat) : turns frequency number ≠ [] := by
  rw [turns]
  split <;> simp

theorem turns_nodup (frequency number : Nat) : (turns frequency number).Nodup := by
  rw [turns]
  split
  next edge =>
    have bounds := (isSharedEdge_iff frequency number).mp edge
    simp
    omega
  next inner => simp

theorem length_turns (frequency number : Nat) :
    (turns frequency number).length = if IsSharedEdge frequency number then 2 else 1 := by
  rw [turns]
  split <;> simp

theorem turns_of_not_sharedEdge {frequency number : Nat}
    (inner : ¬ IsSharedEdge frequency number) :
    turns frequency number =
      [min (number / (rate frequency * step)) (cycle frequency - 1)] := by
  rw [turns, if_neg inner]

theorem turns_sharedEdge {frequency turn : Nat} (positive : 0 < frequency)
    (lower : 1 ≤ turn) (upper : turn ≤ cycle frequency - 1) :
    turns frequency (rate frequency * turn * step) = [turn - 1, turn] := by
  rw [turns, if_pos ⟨turn, lower, upper, rfl⟩, div_of_sharedEdge positive]

section Turns

variable {frequency : Nat} (positive : 0 < frequency) (number : Nat)

include positive

theorem mem_turns_iff {turn : Nat} (inRound : turn < cycle frequency) :
    turn ∈ turns frequency number ↔
      turn * (rate frequency * step) ≤ number ∧
        (turn + 1 = cycle frequency ∨
          number ≤ (turn + 1) * (rate frequency * step)) := by
  have widthPos : 0 < rate frequency * step := Nat.mul_pos (rate_pos positive) step_pos
  have edgeForm : ∀ other, rate frequency * other * step =
      other * (rate frequency * step) := fun other => by ring
  rw [mem_interval_iff widthPos inRound, turns]
  by_cases edge : IsSharedEdge frequency number
  · obtain ⟨other, lower, upper, same⟩ := edge
    have quotient : number / (rate frequency * step) = other := by
      rw [same, div_of_sharedEdge positive]
    have sameMultiple : number = (turn + 1) * (rate frequency * step) ↔
        other = turn + 1 := by
      rw [same, edgeForm, Nat.mul_left_inj (Nat.ne_of_gt widthPos)]
    simp only [if_pos (show IsSharedEdge frequency number from ⟨other, lower, upper, same⟩),
      quotient, sameMultiple, List.mem_cons, List.not_mem_nil, or_false]
    omega
  · have notMultiple : ¬ (turn + 1 ≤ cycle frequency - 1 ∧
        number = (turn + 1) * (rate frequency * step)) := by
      rintro ⟨upper, same⟩
      exact edge ⟨turn + 1, by omega, upper, by rw [same, edgeForm]⟩
    simp only [if_neg edge, notMultiple, List.mem_singleton, or_false]

theorem turns_lt {turn : Nat} (member : turn ∈ turns frequency number) :
    turn < cycle frequency := by
  have := cycle_ge positive
  rw [turns] at member
  split at member
  next edge =>
    have bounds := (isSharedEdge_iff frequency number).mp edge
    simp only [List.mem_cons, List.not_mem_nil, or_false] at member
    omega
  next inner =>
    simp only [List.mem_singleton] at member
    omega

end Turns

/-- An identifier is due at the minutes that leave one of its turns. -/
theorem isDue_iff {frequency : Nat} (positive : 0 < frequency) (minute : MinuteOfDay)
    (identifier : Identifier) :
    IsDue frequency minute identifier ↔
      minute.index % cycle frequency ∈ turns frequency identifier.number := by
  have inRound : minute.index % cycle frequency < cycle frequency := by
    apply Nat.mod_lt
    have := cycle_ge positive
    omega
  simp only [IsDue, dueRange_eq positive, Except.ok.injEq, exists_eq_left']
  rw [arc_contains_iff positive inRound, mem_turns_iff positive _ inRound]

section Count

/-- The numbers below a whole number of rounds that leave one remainder. -/
theorem filter_range_mod_eq {round turn : Nat} (inRound : turn < round) (rounds : Nat) :
    (List.range (rounds * round)).filter (fun index => index % round = turn) =
      (List.range rounds).map fun index => turn + index * round := by
  induction rounds with
  | zero => simp
  | succ rounds ih =>
      have remainder : ∀ index ∈ List.range round,
          decide ((rounds * round + index) % round = turn) = decide (index = turn) := by
        intro index member
        have small := List.mem_range.mp member
        rw [Nat.mul_comm rounds, Nat.mul_add_mod, Nat.mod_eq_of_lt small]
      have only : (List.range round).filter (fun index => decide (index = turn)) = [turn] := by
        have counted := (List.nodup_range (n := round)).count (a := turn)
        rw [if_pos (List.mem_range.mpr inRound)] at counted
        rw [List.filter_eq, counted]
        rfl
      rw [Nat.succ_mul, List.range_add, List.filter_append, ih, List.filter_map,
        List.range_succ, List.map_append]
      simp only [Function.comp_def]
      rw [List.filter_congr remainder, only]
      simp [Nat.add_comm]

/-- How many numbers below a whole number of rounds leave one of some remainders. -/
theorem length_filter_range_mod {round : Nat} {remainders : List Nat}
    (nodup : remainders.Nodup) (inRound : ∀ turn ∈ remainders, turn < round)
    (rounds : Nat) :
    ((List.range (rounds * round)).filter fun index => index % round ∈ remainders).length =
      rounds * remainders.length := by
  induction rounds with
  | zero => simp
  | succ rounds ih =>
      have remainder : ∀ index ∈ List.range round,
          decide ((rounds * round + index) % round ∈ remainders) =
            decide (index ∈ remainders) := by
        intro index member
        have small := List.mem_range.mp member
        rw [Nat.mul_comm rounds, Nat.mul_add_mod, Nat.mod_eq_of_lt small]
      have same : ((List.range round).filter fun index => index ∈ remainders).Perm
          remainders := by
        rw [List.perm_ext_iff_of_nodup (List.nodup_range.filter _) nodup]
        intro turn
        simp only [List.mem_filter, List.mem_range, decide_eq_true_eq, and_iff_right_iff_imp]
        exact inRound turn
      rw [Nat.succ_mul, List.range_add, List.filter_append, List.length_append, ih,
        List.filter_map, List.length_map]
      simp only [Function.comp_def]
      rw [List.filter_congr remainder, same.length_eq, Nat.succ_mul]

end Count

theorem dueMinutes_eq {frequency : Nat} (positive : 0 < frequency) (identifier : Identifier) :
    dueMinutes frequency identifier =
      .ok ((List.range minutesPerDay).filter fun index =>
        index % cycle frequency ∈ turns frequency identifier.number) := by
  simp only [dueMinutes, if_neg (Nat.ne_of_gt positive), Except.ok.injEq]
  apply List.filter_congr
  intro index member
  have inside := List.mem_range.mp member
  have due := isDue_iff positive ⟨index, inside⟩ identifier
  simp only [IsDue, dueRange_eq positive, Except.ok.injEq, exists_eq_left'] at due
  rw [Bool.eq_iff_iff, decide_eq_true_eq, ← due]
  simp only [MinuteOfDay.ofNat?, dif_pos inside, dueRange_eq positive]

theorem length_dueMinutes {frequency : Nat} (positive : 0 < frequency)
    (identifier : Identifier) :
    ∃ minutes, dueMinutes frequency identifier = .ok minutes ∧
      minutes.length =
        if IsSharedEdge frequency identifier.number then 2 * rate frequency
        else rate frequency := by
  refine ⟨_, dueMinutes_eq positive identifier, ?_⟩
  have inRound : ∀ turn ∈ turns frequency identifier.number, turn < cycle frequency :=
    fun turn member => turns_lt positive _ member
  have counted := length_filter_range_mod (turns_nodup _ _) inRound (rate frequency)
  rw [rate_mul_cycle positive] at counted
  rw [counted, length_turns]
  split <;> omega

/-- Over all minutes of a day, in whatever order. -/
theorem countP_isDue {minutes : List MinuteOfDay}
    (everyMinute : ∀ minute, minutes.count minute = 1) (frequency : Nat)
    (identifier : Identifier) :
    minutes.countP (fun minute => IsDue frequency minute identifier) =
      if IsSharedEdge frequency identifier.number then 2 * rate frequency
      else rate frequency := by
  rcases Nat.eq_zero_or_pos frequency with rfl | positive
  · have never (minute : MinuteOfDay) : ¬ IsDue 0 minute identifier := by
      simp [IsDue, dueRange_zero]
    simp [never, rate]
  · have distinct : minutes.Nodup :=
      List.nodup_iff_count_le_one.mpr fun minute => Nat.le_of_eq (everyMinute minute)
    have indices : (minutes.map (·.index)).Perm (List.range minutesPerDay) := by
      have injective : Function.Injective MinuteOfDay.index := by
        rintro ⟨first, _⟩ ⟨second, _⟩ rfl
        rfl
      rw [List.perm_ext_iff_of_nodup (distinct.map injective) List.nodup_range]
      intro index
      simp only [List.mem_map, List.mem_range]
      constructor
      · rintro ⟨minute, -, rfl⟩
        exact minute.index_lt
      · intro inside
        refine ⟨⟨index, inside⟩, List.count_pos_iff.mp ?_, rfl⟩
        rw [everyMinute]
        exact Nat.one_pos
    have same (minute : MinuteOfDay) : decide (IsDue frequency minute identifier) =
        decide (minute.index % cycle frequency ∈ turns frequency identifier.number) :=
      decide_eq_decide.mpr (isDue_iff positive minute identifier)
    obtain ⟨due, listed, count⟩ := length_dueMinutes positive identifier
    rw [dueMinutes_eq positive, Except.ok.injEq] at listed
    calc
      minutes.countP (fun minute => IsDue frequency minute identifier) =
          minutes.countP fun minute =>
            minute.index % cycle frequency ∈ turns frequency identifier.number := by
        simp only [same]
      _ = (minutes.map (·.index)).countP fun index =>
            index % cycle frequency ∈ turns frequency identifier.number := by
        rw [List.countP_map, Function.comp_def]
      _ = (List.range minutesPerDay).countP fun index =>
            index % cycle frequency ∈ turns frequency identifier.number :=
        indices.countP_eq _
      _ = _ := by rw [List.countP_eq_length_filter, listed, count]

/-- Among as many consecutive minutes as the wheel needs for one round, around
midnight as well, an identifier is due at one at least. -/
theorem exists_due_in_window {frequency : Nat} (positive : 0 < frequency)
    (identifier : Identifier) (start : Nat) :
    ∃ offset < cycle frequency, ∃ minute : MinuteOfDay,
      minute.index = (start + offset) % minutesPerDay ∧
        IsDue frequency minute identifier := by
  obtain ⟨turn, member⟩ := List.exists_mem_of_ne_nil _
    (turns_ne_nil frequency identifier.number)
  have inRound := turns_lt positive _ member
  have startInRound : start % cycle frequency < cycle frequency := Nat.mod_lt _ (by omega)
  let offset := (turn + (cycle frequency - start % cycle frequency)) % cycle frequency
  have reached : (start + offset) % cycle frequency = turn := by
    have rounded : start % cycle frequency + (turn + (cycle frequency - start % cycle frequency)) =
        turn + cycle frequency := by omega
    rw [Nat.add_mod, Nat.mod_mod, ← Nat.add_mod, ← Nat.mod_add_mod, rounded,
      Nat.add_mod_right, Nat.mod_eq_of_lt inRound]
  refine ⟨offset, Nat.mod_lt _ (by omega),
    ⟨(start + offset) % minutesPerDay, Nat.mod_lt _ (by decide)⟩, rfl, ?_⟩
  rw [isDue_iff positive, Nat.mod_mod_of_dvd _ (cycle_dvd positive), reached]
  exact member

/-- Every number met on the way to a due range fits where it is kept: the product
of rate and minute in 32 bits, positions in the table of buckets and their sums
in 64 bits, and the ends, which are those of two buckets, in 128 bits. -/
structure FitsWords (frequency : Nat) (minute : MinuteOfDay) (range : IdRange) : Prop where
  product_lt : rate frequency * minute.index < 2 ^ 32
  rate_pos : 1 ≤ rate frequency
  sum_lt : rate frequency * minute.index % minutesPerDay + rate frequency < 2 ^ 64
  first_lt : rate frequency * minute.index % minutesPerDay < minutesPerDay
  last_lt : (rate frequency * minute.index % minutesPerDay + rate frequency - 1) %
    minutesPerDay < minutesPerDay
  left_eq : range.left.number =
    (bucket (rate frequency * minute.index % minutesPerDay)).lower
  right_eq : range.right.number =
    (bucket ((rate frequency * minute.index % minutesPerDay + rate frequency - 1) %
      minutesPerDay)).upper

theorem dueRange_fitsWords {frequency : Nat} (positive : 0 < frequency)
    (minute : MinuteOfDay) :
    ∃ range, dueRange frequency minute = .ok range ∧ range.wraps = false ∧
      FitsWords frequency minute range := by
  have inRound : minute.index % cycle frequency < cycle frequency := by
    apply Nat.mod_lt
    have := cycle_ge positive
    omega
  have firstInside :
      rate frequency * minute.index % minutesPerDay < minutesPerDay :=
    Nat.mod_lt _ (by decide)
  have lastInside : (rate frequency * minute.index % minutesPerDay + rate frequency - 1) %
      minutesPerDay < minutesPerDay :=
    Nat.mod_lt _ (by decide)
  have small := rate_le_ceiling frequency
  have minuteInside := minute.index_lt
  have product : rate frequency * minute.index ≤ refreshCeiling * minutesPerDay :=
    Nat.mul_le_mul small (Nat.le_of_lt minuteInside)
  simp only [refreshCeiling, minutesPerDay] at small product
  refine ⟨_, dueRange_eq positive minute,
    span_not_wraps (rate_pos positive) (arc_end_le positive inRound), ?_⟩
  rw [← first_bucket_eq positive]
  exact
    { product_lt := by omega
      rate_pos := rate_pos positive
      sum_lt := by simp only [minutesPerDay] at firstInside ⊢; omega
      first_lt := firstInside
      last_lt := lastInside
      left_eq := Identifier.number_ofNat (bucket_lower_lt firstInside)
      right_eq := Identifier.number_ofNat (bucket_upper_lt lastInside) }

/-- When an identifier is due, for every frequency and every identifier. -/
theorem dueRange_schedule (frequency : Nat) :
    (∀ minute, (∃ fault, dueRange frequency minute = .error fault) ↔ frequency = 0) ∧
    (∀ index < minutesPerDay, (index + 1) * step < 2 ^ 128) ∧
    (0 < frequency →
      (∀ minute, ∃ range, dueRange frequency minute = .ok range ∧ range.wraps = false ∧
        FitsWords frequency minute range) ∧
      (∀ turn, 1 ≤ turn → turn ≤ cycle frequency - 1 →
        turns frequency (rate frequency * turn * step) = [turn - 1, turn]) ∧
      (∀ number, ¬ IsSharedEdge frequency number →
        turns frequency number =
          [min (number / (rate frequency * step)) (cycle frequency - 1)]) ∧
      ∀ identifier : Identifier,
        (∀ minute, IsDue frequency minute identifier ↔
          minute.index % cycle frequency ∈ turns frequency identifier.number) ∧
        (∀ start, ∃ offset < cycle frequency, ∃ minute : MinuteOfDay,
          minute.index = (start + offset) % minutesPerDay ∧
            IsDue frequency minute identifier) ∧
        (∀ turn ∈ turns frequency identifier.number,
          (List.range minutesPerDay).filter (fun index => index % cycle frequency = turn) =
            (List.range (rate frequency)).map
              fun round => turn + round * cycle frequency) ∧
        ∃ minutes, dueMinutes frequency identifier = .ok minutes ∧
          minutes.length =
            if IsSharedEdge frequency identifier.number then 2 * rate frequency
            else rate frequency) := by
  refine ⟨dueRange_error_iff frequency, fun index inside => mul_step_lt inside, ?_⟩
  intro positive
  refine ⟨dueRange_fitsWords positive, fun turn => turns_sharedEdge positive,
    fun number => turns_of_not_sharedEdge, fun identifier => ⟨?_, ?_, ?_, ?_⟩⟩
  · exact fun minute => isDue_iff positive minute identifier
  · exact exists_due_in_window positive identifier
  · intro turn member
    have listed := filter_range_mod_eq (turns_lt positive _ member) (rate frequency)
    rwa [rate_mul_cycle positive] at listed
  · exact length_dueMinutes positive identifier

end Wheel

end UnattendedRefresh
