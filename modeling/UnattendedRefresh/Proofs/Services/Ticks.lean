import UnattendedRefresh.Services.Clock
import Mathlib.Data.List.Iterate

/-!
# Every minute once

The clock sleeps to the end of the minute it has read. However late it wakes: as long
as it has triggered the pass and read the time again before another minute is over, the
pass it triggers is that of the next minute, and the next wait is counted from there. The
clock that the program registers is the one whose every turn is in time.
-/

namespace UnattendedRefresh

namespace Instant

variable {instant : Instant}

/-- No leap second. -/
def IsOrdinary (instant : Instant) : Prop :=
  instant.nanoseconds < 1000000000

theorem isOrdinary_after (instant : Instant) (wait : Int) : (instant.after wait).IsOrdinary := by
  simp only [IsOrdinary, after, ofTicks]
  omega

@[simp]
theorem ticks_ofTicks (ticks : Int) : (ofTicks ticks).ticks = ticks := by
  simp only [Instant.ticks, ofTicks]
  omega

@[simp]
theorem after_after (instant : Instant) (wait more : Int) :
    (instant.after wait).after more = instant.after (wait + more) := by
  simp [after, Int.add_assoc]

theorem untilNextMinute_pos (instant : Instant) : 0 < instant.untilNextMinute := by
  simp only [untilNextMinute]
  omega

theorem untilNextMinute_le (instant : Instant) : instant.untilNextMinute ≤ minuteTicks := by
  simp only [untilNextMinute, minuteTicks]
  omega

/-- The wait leads to the very end of the minute. -/
theorem ticks_add_untilNextMinute (ordinary : instant.IsOrdinary) :
    instant.ticks + instant.untilNextMinute = (instant.seconds / 60 + 1) * minuteTicks := by
  simp only [IsOrdinary] at ordinary
  simp only [ticks, untilNextMinute, minuteTicks]
  omega

theorem minute_after_wait (ordinary : instant.IsOrdinary) {delay : Nat}
    (prompt : delay < minuteTicks) :
    (instant.after (instant.untilNextMinute + delay)).seconds / 60 = instant.seconds / 60 + 1 := by
  have boundary := ticks_add_untilNextMinute ordinary
  simp only [minuteTicks] at boundary prompt
  simp only [after, ofTicks, ← Int.add_assoc, boundary]
  omega

end Instant

namespace MinuteOfDay

/-- The minute that follows, after the last of a day the first. -/
def next (minute : MinuteOfDay) : MinuteOfDay :=
  ⟨(minute.index + 1) % minutesPerDay, Nat.mod_lt _ (by decide)⟩

theorem ofInstant_eq_next {earlier later : Instant}
    (following : later.seconds / 60 = earlier.seconds / 60 + 1) :
    ofInstant later = (ofInstant earlier).next := by
  simp only [ofInstant, next, following, minutesPerDay, MinuteOfDay.mk.injEq]
  omega

end MinuteOfDay

namespace Instant

variable {instant : Instant}

/-- A whole minute is a minute away from the next. -/
theorem untilNextMinute_after_wait (ordinary : instant.IsOrdinary) :
    (instant.after instant.untilNextMinute).untilNextMinute = minuteTicks := by
  rw [after, ticks_add_untilNextMinute ordinary]
  simp only [ofTicks, untilNextMinute, minuteTicks]
  omega

end Instant

namespace Services.Clock

variable {turn : Turn} {turns : List Turn} {now : Instant}

/-- The turns that the clock takes: it stops after the first answer that ends it. -/
def taken : List Turn → List Turn
  | [] => []
  | turn :: rest => if goesOn turn.answer then turn :: taken rest else [turn]

/-- Every reading of the time in the turn comes before another minute is over. -/
def Turn.IsPrompt (turn : Turn) : Prop :=
  turn.lateness + (if goesOn turn.answer then turn.pause else 0) < minuteTicks

/-- Whatever might come, no pass is triggered any more. -/
def HasEnded (now : Instant) (turns : List Turn) : Prop :=
  ∀ later, minutes now (turns ++ later) = minutes now turns

theorem goesOn_eq_false_iff {answer : Except PoolFault Unit} :
    goesOn answer = false ↔ ∃ pool, answer = .error (.closed pool) := by
  rcases answer with (⟨pool, capacity⟩ | pool) | ⟨⟩ <;> simp [goesOn]

/-- What one turn triggers, and the time the next is counted from. -/
theorem minute_of_turn (ordinary : now.IsOrdinary) (prompt : turn.IsPrompt) :
    MinuteOfDay.ofInstant (now.after (now.untilNextMinute + turn.lateness)) =
        (MinuteOfDay.ofInstant now).next ∧
      (goesOn turn.answer = true →
        MinuteOfDay.ofInstant
            ((now.after (now.untilNextMinute + turn.lateness)).after turn.pause) =
          (MinuteOfDay.ofInstant now).next) := by
  simp only [Turn.IsPrompt] at prompt
  constructor
  · exact MinuteOfDay.ofInstant_eq_next (Instant.minute_after_wait ordinary (by omega))
  · intro onward
    rw [if_pos onward] at prompt
    apply MinuteOfDay.ofInstant_eq_next
    rw [Instant.after_after, Int.add_assoc, ← Int.natCast_add]
    exact Instant.minute_after_wait ordinary prompt

/-- By induction on the turns: the minute read last is the one triggered last. -/
theorem minutes_eq_iterate (ordinary : now.IsOrdinary)
    (prompt : ∀ turn ∈ taken turns, turn.IsPrompt) :
    minutes now turns =
      List.iterate MinuteOfDay.next (MinuteOfDay.ofInstant now).next (taken turns).length := by
  induction turns generalizing now with
  | nil => rfl
  | cons turn rest ih =>
      cases onward : goesOn turn.answer with
      | false =>
          simp only [taken, onward, Bool.false_eq_true, if_false, List.mem_singleton,
            forall_eq] at prompt
          simp [minutes, taken, onward, (minute_of_turn ordinary prompt).1]
      | true =>
          simp only [taken, onward, if_true, List.mem_cons, forall_eq_or_imp] at prompt
          obtain ⟨triggered, read⟩ := minute_of_turn ordinary prompt.1
          let awake := now.after (now.untilNextMinute + turn.lateness)
          have later := ih (Instant.isOrdinary_after awake turn.pause) prompt.2
          rw [read onward] at later
          simp only [minutes, taken, onward, if_true, triggered, List.length_cons]
          exact congrArg _ later

theorem minutes_append_of_goesOn (onward : ∀ turn ∈ turns, goesOn turn.answer = true)
    (now : Instant) (later : List Turn) :
    ∃ reached, minutes now (turns ++ later) = minutes now turns ++ minutes reached later := by
  induction turns generalizing now with
  | nil => exact ⟨now, rfl⟩
  | cons turn rest ih =>
      rw [List.forall_mem_cons] at onward
      let awake := now.after (now.untilNextMinute + turn.lateness)
      obtain ⟨reached, same⟩ := ih onward.2 (awake.after turn.pause)
      refine ⟨reached, ?_⟩
      simp only [List.cons_append, minutes, onward.1, if_true]
      exact congrArg _ same

theorem hasEnded_of_mem (member : turn ∈ turns) (last : goesOn turn.answer = false) :
    HasEnded now turns := by
  intro later
  induction turns generalizing now with
  | nil => exact absurd member List.not_mem_nil
  | cons first rest ih =>
      cases onward : goesOn first.answer with
      | false => simp [minutes, onward]
      | true =>
          rcases List.mem_cons.mp member with rfl | member
          · simp [last] at onward
          · simp [minutes, onward, ih member]

theorem hasEnded_iff :
    HasEnded now turns ↔ ∃ turn ∈ turns, ∃ pool, turn.answer = .error (.closed pool) := by
  simp only [← goesOn_eq_false_iff]
  refine ⟨fun ended => ?_, fun ⟨turn, member, last⟩ => hasEnded_of_mem member last⟩
  cases all : turns.all (goesOn ·.answer) with
  | false => simpa using all
  | true =>
      obtain ⟨reached, same⟩ :=
        minutes_append_of_goesOn (by simpa using all) now [⟨0, .ok (), 0⟩]
      rw [ended] at same
      simp [minutes, goesOn] at same

/-- However late the clock wakes and whatever the trigger answers: the passes it
triggers are those of the minutes after the one it began in, each once and in turn, one
for each turn up to the answer that ends it. -/
theorem every_minute_once :
    (∀ (start : Instant) (turns : List Turn), start.IsOrdinary →
      (∀ turn ∈ taken turns, turn.IsPrompt) →
        minutes start turns =
          List.iterate MinuteOfDay.next (MinuteOfDay.ofInstant start).next
            (taken turns).length) ∧
    (∀ (start : Instant) (turns : List Turn),
      HasEnded start turns ↔
        ∃ turn ∈ turns, ∃ pool, turn.answer = .error (.closed pool)) ∧
    ∀ instant : Instant,
      0 < instant.untilNextMinute ∧ instant.untilNextMinute ≤ minuteTicks ∧
        ((MinuteOfDay.ofInstant instant).index : Int) = instant.seconds / 60 % minutesPerDay ∧
        (MinuteOfDay.ofInstant instant).index < minutesPerDay := by
  refine ⟨fun _ _ ordinary prompt => minutes_eq_iterate ordinary prompt, fun _ _ => hasEnded_iff,
    fun instant => ⟨instant.untilNextMinute_pos, instant.untilNextMinute_le, ?_,
      (MinuteOfDay.ofInstant instant).index_lt⟩⟩
  simp only [MinuteOfDay.ofInstant, minutesPerDay]
  omega

/-- From before the epoch across midnight: late, skipped because the passes are busy,
and stopped at last. -/
def overMidnight : List Turn :=
  [⟨1, .ok (), 30000000000⟩, ⟨59999999999, .error (.saturated "minute-pass" 2), 0⟩,
    ⟨0, .error (.closed "minute-pass"), 0⟩, ⟨0, .ok (), 0⟩]

theorem every_minute_once_overMidnight :
    Instant.IsOrdinary ⟨-120, 0⟩ ∧ (∀ turn ∈ taken overMidnight, turn.IsPrompt) ∧
      (minutes ⟨-120, 0⟩ overMidnight).map MinuteOfDay.text = ["23:59", "00:00", "00:01"] ∧
      HasEnded ⟨-120, 0⟩ overMidnight := by
  have ordinary : Instant.IsOrdinary ⟨-120, 0⟩ := by
    simp [Instant.IsOrdinary]
  have prompt : ∀ turn ∈ taken overMidnight, turn.IsPrompt := by
    simp [taken, overMidnight, goesOn, Turn.IsPrompt, minuteTicks]
  obtain ⟨fired, ended, -⟩ := every_minute_once
  have stopped : ∃ turn ∈ overMidnight, ∃ pool, turn.answer = .error (.closed pool) := by
    simp [overMidnight]
  refine ⟨ordinary, prompt, ?_, (ended _ _).mpr stopped⟩
  rw [fired ⟨-120, 0⟩ overMidnight ordinary prompt]
  decide +kernel

/-! ### A clock that is in time -/

/-- The clock wakes as the minute is over, and reads the time again at once. -/
def Turn.inTime (answer : Except PoolFault Unit) : Turn :=
  ⟨0, answer, 0⟩

variable {answer : Except PoolFault Unit} {first wait moment at_ : Nat}

/-- The clock fires at the end of its first wait and of every further one, and at no
other moment. -/
theorem mem_fired_iff (within : first ≤ wait) (positive : 0 < wait) :
    at_ ∈ fired first wait moment ↔ at_ ≤ moment ∧ ∃ count, at_ = first + count * wait := by
  simp only [fired, List.mem_map, List.mem_range, Nat.lt_iff_add_one_le,
    Nat.le_div_iff_mul_le positive, Nat.add_mul]
  constructor
  · rintro ⟨count, due, rfl⟩
    exact ⟨by omega, count, rfl⟩
  · rintro ⟨past, count, rfl⟩
    exact ⟨count, by omega, rfl⟩

/-- By induction on the turns: a turn in time ends on a whole minute, so that the next
takes a minute. -/
theorem minutes_inTime (ordinary : now.IsOrdinary) (onward : goesOn answer = true)
    (count : Nat) :
    minutes now (List.replicate count (Turn.inTime answer)) =
      (List.range count).map fun turns =>
        MinuteOfDay.ofInstant (now.after (now.untilNextMinute + (turns * minuteTicks : Nat))) := by
  induction count generalizing now with
  | zero => rfl
  | succ count ih =>
      let awake := now.after now.untilNextMinute
      have later := ih (Instant.isOrdinary_after now now.untilNextMinute)
      have whole : awake.untilNextMinute = minuteTicks :=
        Instant.untilNextMinute_after_wait ordinary
      have first : minutes now (List.replicate (count + 1) (Turn.inTime answer)) =
          MinuteOfDay.ofInstant awake ::
            minutes awake (List.replicate count (Turn.inTime answer)) := by
        simp [List.replicate_succ, minutes, Turn.inTime, onward, awake]
      rw [first, later, List.range_succ_eq_map, List.map_cons, List.map_map]
      congr 1
      · simp [awake]
      · apply List.map_congr_left
        intro turns _
        have span : now.untilNextMinute + (awake.untilNextMinute + (turns * minuteTicks : Nat)) =
            now.untilNextMinute + ((turns + 1) * minuteTicks : Nat) := by
          rw [whole, Nat.add_mul]
          omega
        exact congrArg MinuteOfDay.ofInstant ((Instant.after_after _ _ _).trans (by rw [span]))

/-- Up to a moment, the clock fires at the minutes of as many turns that are in time. -/
theorem fired_eq_minutes (ordinary : now.IsOrdinary) (onward : goesOn answer = true)
    (moment : Nat) :
    (fired now.untilNextMinute.toNat minuteTicks moment).map (fun at_ : Nat =>
        MinuteOfDay.ofInstant (now.after at_)) =
      minutes now (List.replicate
        ((moment + minuteTicks - now.untilNextMinute.toNat) / minuteTicks)
          (Turn.inTime answer)) := by
  rw [minutes_inTime ordinary onward, fired, List.map_map]
  apply List.map_congr_left
  intro turns _
  have first := Int.toNat_of_nonneg now.untilNextMinute_pos.le
  simp [first]

/-- A clock that has its first answer as its last fires once, if its first minute ends up
to the moment. -/
theorem fired_eq_minutes_of_last (last : goesOn answer = false) (moment : Nat) :
    (fired now.untilNextMinute.toNat minuteTicks
        (min moment now.untilNextMinute.toNat)).map (fun at_ : Nat =>
          MinuteOfDay.ofInstant (now.after at_)) =
      minutes now (List.replicate
        ((moment + minuteTicks - now.untilNextMinute.toNat) / minuteTicks)
          (Turn.inTime answer)) := by
  have first := Int.toNat_of_nonneg now.untilNextMinute_pos.le
  have positive : 0 < minuteTicks := by decide
  rcases Nat.lt_or_ge moment now.untilNextMinute.toNat with early | due
  · have none : (moment + minuteTicks - now.untilNextMinute.toNat) / minuteTicks = 0 :=
      Nat.div_eq_of_lt (by omega)
    rw [Nat.min_eq_left early.le, fired, none]
    rfl
  · have some : 0 < (moment + minuteTicks - now.untilNextMinute.toNat) / minuteTicks :=
      Nat.div_pos (by omega) positive
    obtain ⟨count, count_eq⟩ := Nat.exists_eq_add_of_lt some
    have one : (now.untilNextMinute.toNat + minuteTicks - now.untilNextMinute.toNat) /
        minuteTicks = 1 := by
      rw [Nat.add_sub_cancel_left, Nat.div_self positive]
    rw [Nat.min_eq_right due, fired, one, count_eq, List.replicate_succ]
    simp [minutes, Turn.inTime, last, first]

/-- The clock of the program, from whatever instant on: what it does up to a moment it does
on the whole minutes up to there, once for each, and the passes it triggers are those of as
many turns that are in time. -/
theorem run_in_time (ordinary : now.IsOrdinary) (answer : Except PoolFault Unit)
    (pass : List Journal.Entry) (moment : Nat) :
    ∃ moments : List Nat,
      (run now.untilNextMinute.toNat minuteTicks answer pass).notices moment =
        (0, .reported name .active) :: (moments.flatMap fun at_ =>
          ((answerNote answer :: pass).map Notice.wrote).map fun notice => (at_, notice)) ∧
      (∀ at_ ∈ moments, at_ ≤ moment ∧ (minuteTicks : Int) ∣ now.ticks + at_) ∧
      moments.map (fun at_ : Nat => MinuteOfDay.ofInstant (now.after at_)) =
        minutes now (List.replicate
          ((moment + minuteTicks - now.untilNextMinute.toNat) / minuteTicks)
            (Turn.inTime answer)) := by
  have whole {moment at_ : Nat}
      (member : at_ ∈ fired now.untilNextMinute.toNat minuteTicks moment) :
      at_ ≤ moment ∧ (minuteTicks : Int) ∣ now.ticks + at_ := by
    have within := now.untilNextMinute_le
    obtain ⟨past, count, rfl⟩ := (mem_fired_iff (by omega) (by decide)).mp member
    have first := Int.toNat_of_nonneg now.untilNextMinute_pos.le
    refine ⟨past, now.seconds / 60 + 1 + count, ?_⟩
    rw [Int.natCast_add, first, ← Int.add_assoc, Instant.ticks_add_untilNextMinute ordinary,
      Int.natCast_mul, ← Int.add_mul, Int.mul_comm]
  cases onward : goesOn answer with
  | true =>
      refine ⟨fired now.untilNextMinute.toNat minuteTicks moment, ?_, fun _ => whole,
        fired_eq_minutes ordinary onward moment⟩
      simp [run, onward, firings]
  | false =>
      refine ⟨fired now.untilNextMinute.toNat minuteTicks (min moment now.untilNextMinute.toNat),
        ?_, fun _ member => ?_, fired_eq_minutes_of_last onward moment⟩
      · simp [run, onward, firings]
      · exact ⟨(whole member).1.trans (Nat.min_le_left _ _), (whole member).2⟩

end Services.Clock

end UnattendedRefresh
