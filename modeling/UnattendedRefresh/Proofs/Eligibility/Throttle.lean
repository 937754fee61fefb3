import Mathlib.Algebra.Ring.Int.Defs
import UnattendedRefresh.Proofs.Eligibility.Rules
import UnattendedRefresh.Proofs.Services.Ticks

/-!
# The throttle in machine words

The machine keeps an interval as a signed word of seconds and the nanoseconds that go
forward from there, and none longer than the greatest word counts in milliseconds. The
time for which a fetch keeps a site out is cut off at that length, but no two instants of
the calendar are so far apart. So the throttle compares what it would compare with
numbers of any size, and nothing that it computes on the way leaves its word.
-/

namespace UnattendedRefresh

/-- The word that holds a number, if one does. -/
def word? (number : Int) : Option Int64 :=
  if -2 ^ 63 ≤ number ∧ number < 2 ^ 63 then some (Int64.ofInt number) else none

theorem exists_word (number : Int) (low : -2 ^ 63 ≤ number) (high : number < 2 ^ 63) :
    ∃ word, word? number = some word ∧ word.toInt = number :=
  ⟨_, if_pos ⟨low, high⟩, Int64.toInt_ofInt_of_le low high⟩

/-- An interval as the machine keeps it. -/
structure Interval where
  seconds : Int64
  nanoseconds : Nat
  nanoseconds_lt : nanoseconds < 1000000000

namespace Interval

def ticks (interval : Interval) : Int :=
  interval.seconds.toInt * 1000000000 + interval.nanoseconds

/-- The longest interval: its milliseconds fill a word. -/
def greatest : Interval :=
  ⟨9223372036854775, 807000000, by decide⟩

theorem ticks_greatest : greatest.ticks = (2 ^ 63 - 1) * 1000000 := by
  decide

/-- An interval of so many seconds and nanoseconds, unless it is too long. -/
def ofParts? (seconds : Int64) (nanoseconds : Nat) : Option Interval :=
  if bounded : nanoseconds < 1000000000 then
    let interval : Interval := ⟨seconds, nanoseconds, bounded⟩
    if -greatest.ticks ≤ interval.ticks ∧ interval.ticks ≤ greatest.ticks then some interval
    else none
  else
    none

instance : LT Interval :=
  ⟨fun shorter longer => shorter.seconds < longer.seconds ∨
    shorter.seconds = longer.seconds ∧ shorter.nanoseconds < longer.nanoseconds⟩

/-- Intervals are compared by their seconds first, and so by their lengths. -/
theorem lt_iff {shorter longer : Interval} : shorter < longer ↔ shorter.ticks < longer.ticks := by
  have first := shorter.nanoseconds_lt
  have second := longer.nanoseconds_lt
  have unfolded : shorter < longer ↔ shorter.seconds < longer.seconds ∨
    shorter.seconds = longer.seconds ∧ shorter.nanoseconds < longer.nanoseconds := Iff.rfl
  rw [unfolded, Int64.lt_iff_toInt_lt, ← Int64.toInt_inj, ticks, ticks]
  omega

theorem exists_ofParts (seconds : Int64) (nanoseconds : Nat)
    (bounded : nanoseconds < 1000000000)
    (low : -greatest.ticks ≤ seconds.toInt * 1000000000 + nanoseconds)
    (high : seconds.toInt * 1000000000 + nanoseconds ≤ greatest.ticks) :
    ∃ interval, ofParts? seconds nanoseconds = some interval ∧
      interval.ticks = seconds.toInt * 1000000000 + nanoseconds := by
  refine ⟨⟨seconds, nanoseconds, bounded⟩, ?_, rfl⟩
  rw [ofParts?, dif_pos bounded]
  exact if_pos ⟨low, high⟩

end Interval

/-! ### The time that has passed -/

namespace Instant

/-- The seconds from the epoch to the beginning of a year. -/
def yearStart (year : Int) : Int :=
  let past := year - 1
  (365 * past + past / 4 - past / 100 + past / 400 - 719162) * 86400

/-- The years of the calendar fill nineteen bits. -/
def firstYear : Int := -2 ^ 18

def lastYear : Int := 2 ^ 18 - 1

/-- The calendar has the instant, and it is no leap second. -/
structure IsDated (instant : Instant) : Prop where
  ordinary : instant.IsOrdinary
  begun : yearStart firstYear ≤ instant.seconds
  notOver : instant.seconds < yearStart (lastYear + 1)

/-- What the machine computes for the time from one instant to another: it subtracts the
seconds, then the nanoseconds, which may take one second with them. -/
def elapsed? (now last : Instant) : Option Interval := do
  let whole ← word? (now.seconds - last.seconds)
  let rest : Int := now.nanoseconds - last.nanoseconds
  let seconds ← word? (whole.toInt + rest / 1000000000)
  Interval.ofParts? seconds (rest % 1000000000).toNat

variable {now last : Instant}

theorem yearStart_firstYear : yearStart firstYear = -8334632851200 := by
  decide

theorem yearStart_lastYear : yearStart (lastYear + 1) = 8210298412800 := by
  decide

/-- The calendar spans about half a million years. -/
theorem seconds_apart (nowDated : now.IsDated) (lastDated : last.IsDated) :
    -2 ^ 44 < now.seconds - last.seconds ∧ now.seconds - last.seconds < 2 ^ 44 := by
  have nowBegun := nowDated.begun
  have nowNotOver := nowDated.notOver
  have lastBegun := lastDated.begun
  have lastNotOver := lastDated.notOver
  rw [yearStart_firstYear] at nowBegun lastBegun
  rw [yearStart_lastYear] at nowNotOver lastNotOver
  omega

theorem since_bounded (nowDated : now.IsDated) (lastDated : last.IsDated) :
    -(2 ^ 44 + 1) * 1000000000 < now.since last ∧
      now.since last < (2 ^ 44 + 1) * 1000000000 := by
  have nowOrdinary : now.nanoseconds < 1000000000 := nowDated.ordinary
  have lastOrdinary : last.nanoseconds < 1000000000 := lastDated.ordinary
  have apart := seconds_apart nowDated lastDated
  simp only [since, ticks]
  omega

/-- Between two instants of the calendar the machine computes the exact difference. -/
theorem exists_elapsed (nowDated : now.IsDated) (lastDated : last.IsDated) :
    ∃ elapsed, now.elapsed? last = some elapsed ∧ elapsed.ticks = now.since last := by
  have nowOrdinary : now.nanoseconds < 1000000000 := nowDated.ordinary
  have lastOrdinary : last.nanoseconds < 1000000000 := lastDated.ordinary
  have apart := seconds_apart nowDated lastDated
  have bounded := since_bounded nowDated lastDated
  simp only [since, ticks] at bounded
  obtain ⟨whole, subtracted, whole_eq⟩ :=
    exists_word (now.seconds - last.seconds) (by omega) (by omega)
  let rest : Int := now.nanoseconds - last.nanoseconds
  obtain ⟨seconds, carried, seconds_eq⟩ :=
    exists_word (whole.toInt + rest / 1000000000) (by omega) (by omega)
  have parts : seconds.toInt * 1000000000 + (rest % 1000000000).toNat = now.since last := by
    rw [seconds_eq, whole_eq]
    simp only [since, ticks]
    omega
  obtain ⟨elapsed, kept, elapsed_eq⟩ :=
    Interval.exists_ofParts seconds (rest % 1000000000).toNat
      (by omega) (by rw [Interval.ticks_greatest, parts, since, ticks, ticks]; omega)
      (by rw [Interval.ticks_greatest, parts, since, ticks, ticks]; omega)
  refine ⟨elapsed, ?_, elapsed_eq.trans parts⟩
  simp only [elapsed?, subtracted, carried, kept, Option.bind_eq_bind, Option.bind_some, rest]

end Instant

/-! ### The time that keeps a site out -/

namespace Settings

variable {settings : Settings}

/-- What the machine computes for the time that keeps a site out. -/
def interval (settings : Settings) : Interval :=
  ((word? settings.minSecondsSinceLastRefresh.toNat).bind fun seconds =>
    Interval.ofParts? seconds 0).getD Interval.greatest

/-- The settings with another number of seconds. -/
def keepingOut (settings : Settings) (seconds : UInt64) : Settings :=
  { settings with minSecondsSinceLastRefresh := seconds }

/-- The greatest interval is no whole number of seconds, so the numbers of seconds that are
cut off are those above it. -/
theorem minInterval_eq_min (settings : Settings) :
    settings.minInterval =
      min ((settings.minSecondsSinceLastRefresh.toNat : Int) * 1000000000)
        Interval.greatest.ticks := by
  rw [Interval.ticks_greatest, minInterval, greatestIntervalMilliseconds]
  split <;> omega

theorem ticks_interval (settings : Settings) : settings.interval.ticks = settings.minInterval := by
  rw [minInterval_eq_min, interval, Interval.ticks_greatest]
  by_cases fits : (settings.minSecondsSinceLastRefresh.toNat : Int) < 2 ^ 63
  · obtain ⟨word, held, word_eq⟩ := exists_word _ (by omega) fits
    rw [held, Option.bind_some]
    by_cases short : word.toInt * 1000000000 + (0 : Nat) ≤ Interval.greatest.ticks
    · obtain ⟨interval, kept, interval_eq⟩ := Interval.exists_ofParts word 0
        (by decide) (by rw [Interval.ticks_greatest]; omega) short
      rw [kept, Option.getD_some, interval_eq, word_eq]
      rw [Interval.ticks_greatest, word_eq] at short
      omega
    · have refused : Interval.ofParts? word 0 = none :=
        (dif_pos (by decide)).trans (if_neg fun within => short within.2)
      rw [refused, Option.getD_none, Interval.ticks_greatest]
      rw [Interval.ticks_greatest, word_eq] at short
      omega
  · rw [word?, if_neg (by omega), Option.bind_none, Option.getD_none, Interval.ticks_greatest]
    omega

/-- No two instants of the calendar are so far apart that the cut would matter. -/
theorem since_lt_minInterval_iff {now last : Instant} (nowDated : now.IsDated)
    (lastDated : last.IsDated) : now.since last < settings.minInterval ↔
      now.since last < (settings.minSecondsSinceLastRefresh.toNat : Int) * 1000000000 := by
  have bounded := Instant.since_bounded nowDated lastDated
  rw [minInterval_eq_min, Interval.ticks_greatest]
  omega

theorem minInterval_mono {seconds : UInt64}
    (longer : settings.minSecondsSinceLastRefresh ≤ seconds) :
    settings.minInterval ≤ (settings.keepingOut seconds).minInterval := by
  have longer := UInt64.le_iff_toNat_le.mp longer
  have kept : (settings.keepingOut seconds).minSecondsSinceLastRefresh = seconds := rfl
  rw [minInterval_eq_min, minInterval_eq_min, kept]
  omega

end Settings

namespace Assessment

variable {assessment : Assessment} {site : UserSite} {last : Instant}

theorem excluded_throttled_iff :
    assessment.evaluate site = .excluded .throttled ↔
      ¬ Exclusion.blacklisted.Holds assessment site ∧
        ¬ Exclusion.complianceExhausted.Holds assessment site ∧ assessment.force = false ∧
        ¬ Exclusion.actionRequired.Holds assessment site ∧
        Exclusion.throttled.Holds assessment site := by
  rw [evaluate_eq_excluded_iff, exclusion?]
  simp only [isBlacklisted_iff, isExhausted_iff, isRefused_iff, isThrottled_iff]
  repeat' split
  all_goals simp [*]

/-- The same judgement, where a fetch keeps a site out for so many seconds. -/
def keepingOut (assessment : Assessment) (seconds : UInt64) : Assessment :=
  { assessment with settings := assessment.settings.keepingOut seconds }

theorem isThrottled_of_fetched (fetched : site.lastDataFetch = some last) :
    assessment.isThrottled site = true ↔
      assessment.now.since last < assessment.settings.minInterval := by
  simp [isThrottled, fetched]

/-- What is throttled stays so if a fetch keeps a site out for longer: no other rule asks
for how long that is. -/
theorem throttled_of_longer {seconds : UInt64}
    (longer : assessment.settings.minSecondsSinceLastRefresh ≤ seconds)
    (throttled : assessment.evaluate site = .excluded .throttled) :
    (assessment.keepingOut seconds).evaluate site = .excluded .throttled := by
  obtain ⟨listed, exhausted, unforced, refused, last, fetched, short⟩ :=
    excluded_throttled_iff.mp throttled
  refine excluded_throttled_iff.mpr ⟨listed, exhausted, unforced, refused, last, fetched, ?_⟩
  exact Int.lt_of_lt_of_le short (Settings.minInterval_mono longer)

/-- At instants of the calendar the throttle holds exactly if fewer seconds have passed than
the settings say. The machine gets to the difference without leaving its words and compares
it with the interval as it should; and the more seconds, the longer the interval, so that
more of them let no site go. -/
theorem throttle_exact (fetched : site.lastDataFetch = some last)
    (nowDated : assessment.now.IsDated) (lastDated : last.IsDated) :
    (assessment.isThrottled site = true ↔ assessment.now.since last <
      (assessment.settings.minSecondsSinceLastRefresh.toNat : Int) * 1000000000) ∧
    (assessment.settings.interval.ticks = assessment.settings.minInterval ∧
      ∃ elapsed, assessment.now.elapsed? last = some elapsed ∧
        elapsed.ticks = assessment.now.since last ∧
        (elapsed < assessment.settings.interval ↔ assessment.isThrottled site = true)) ∧
    ∀ seconds, assessment.settings.minSecondsSinceLastRefresh ≤ seconds →
      assessment.settings.minInterval ≤ (assessment.settings.keepingOut seconds).minInterval ∧
      (assessment.evaluate site = .excluded .throttled →
        (assessment.keepingOut seconds).evaluate site = .excluded .throttled) := by
  have compares : assessment.isThrottled site = true ↔
      assessment.now.since last < assessment.settings.minInterval :=
    isThrottled_of_fetched fetched
  obtain ⟨elapsed, computed, exact_⟩ := Instant.exists_elapsed nowDated lastDated
  have length_eq := assessment.settings.ticks_interval
  refine ⟨compares.trans (Settings.since_lt_minInterval_iff nowDated lastDated),
    ⟨length_eq, elapsed, computed, exact_, ?_⟩, fun seconds longer =>
      ⟨Settings.minInterval_mono longer, throttled_of_longer longer⟩⟩
  rw [Interval.lt_iff, exact_, length_eq, compares]

section Farthest

/-- The first instant of the calendar and the last. -/
private def dawn : Instant := ⟨-8334632851200, 0⟩

private def dusk : Instant := ⟨8210298412799, 999999999⟩

private def fetchedAtDawn : UserSite :=
  { (default : UserSite) with lastDataFetch := some dawn }

/-- An assessment at the end of time, with the greatest number of seconds there is. -/
private def endless : Assessment :=
  { settings := Settings.default.keepingOut 18446744073709551615, gate := Gate.allowAll
    oneOff := false, force := false, now := dusk }

theorem throttle_exact_farthest :
    fetchedAtDawn.lastDataFetch = some dawn ∧ endless.now.IsDated ∧ dawn.IsDated ∧
      endless.isThrottled fetchedAtDawn = true := by
  have dusk_dated : endless.now.IsDated :=
    ⟨(by decide : 999999999 < 1000000000), by decide, by decide⟩
  have dawn_dated : dawn.IsDated := ⟨(by decide : 0 < 1000000000), by decide, by decide⟩
  exact ⟨rfl, dusk_dated, dawn_dated,
    (throttle_exact rfl dusk_dated dawn_dated).1.mpr (by decide)⟩

end Farthest

end Assessment

end UnattendedRefresh
