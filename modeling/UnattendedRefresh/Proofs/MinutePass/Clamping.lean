import UnattendedRefresh.MinutePass
import UnattendedRefresh.Proofs.Procedure.Entries
import UnattendedRefresh.Proofs.Settings.LastGood

/-!
# Rates that need no clamping

Above the ceiling the wheel goes by the ceiling and says so in the journal. Under
settings that keep to the ceiling a pass asks the wheel for no such rate, and what the
wheel would say is never written; the refreshes never write it at all.
-/

namespace UnattendedRefresh

open Procedure

namespace Wheel

/-- What the wheel says when it clamps some rate. -/
def IsClampNotice (entry : Journal.Entry) : Prop :=
  ∃ frequency, entry ∈ clampNotice frequency

theorem isClampNotice_iff {entry : Journal.Entry} :
    IsClampNotice entry ↔
      entry = Journal.note .warn "Refresh frequency above ceiling, clamping" := by
  constructor
  · rintro ⟨frequency, said⟩
    unfold clampNotice at said
    split at said
    next => exact List.mem_singleton.mp said
    next => exact absurd said List.not_mem_nil
  · rintro rfl
    exact ⟨refreshCeiling + 1, List.mem_singleton_self _⟩

theorem clampNotice_of_le {frequency : Nat} (low : frequency ≤ refreshCeiling) :
    clampNotice frequency = [] := by
  unfold clampNotice
  exact if_neg (Nat.not_lt_of_le low)

/-- Where the rate keeps to the ceiling, the arc is that of the rate itself. -/
theorem span_of_dueRange {frequency : Nat} {minute : MinuteOfDay} {range : IdRange}
    (low : frequency ≤ refreshCeiling) (due : dueRange frequency minute = .ok range) :
    frequency ≠ 0 ∧ range = span (frequency * minute.index % minutesPerDay) frequency := by
  unfold dueRange at due
  split at due
  next => simp at due
  next positive =>
    rw [Nat.min_eq_left low] at due
    exact ⟨positive, (Except.ok.inj due).symm⟩

end Wheel

/-- A journal without the wheel's notice. -/
abbrev Unclamped (entry : Journal.Entry) : Prop :=
  ¬ Wheel.IsClampNotice entry

theorem unclamped_note {level : Journal.Level} {message : String}
    (other : message ≠ "Refresh frequency above ceiling, clamping") :
    Unclamped (Journal.note level message) := by
  intro notice
  have same := Wheel.isClampNotice_iff.mp notice
  exact other (congrArg Journal.Entry.message same)

theorem writesOnly_note {level : Journal.Level} {message : String}
    (other : message ≠ "Refresh frequency above ceiling, clamping") :
    WritesOnly Unclamped (Procedure.note level message) :=
  WritesOnly.note (unclamped_note other)

namespace MinutePass

variable {settings : Settings}

theorem collectTenant_unclamped (within : settings.WithinCeiling) (minute : MinuteOfDay)
    (tenant : TenantId) (harvest : Harvest) :
    WritesOnly Unclamped (collectTenant minute settings tenant harvest) := by
  have low := within.rate_le tenant
  unfold collectTenant
  simp only [Wheel.clampNotice_of_le low]
  split
  next => exact (writesOnly_note (by simp)).bind fun _ => trivial
  next =>
    split
    next => trivial
    next =>
      apply WritesOnly.ask
      intro answer
      cases answer with
      | ok users => exact (writesOnly_note (by simp)).bind fun _ => trivial
      | error failure => exact (writesOnly_note (by simp)).bind fun _ => trivial

theorem collect_unclamped (within : settings.WithinCeiling) (minute : MinuteOfDay)
    (tenants : List TenantId) (harvest : Harvest) :
    WritesOnly Unclamped (collect minute settings tenants harvest) := by
  induction tenants generalizing harvest with
  | nil => trivial
  | cons tenant tenants ih =>
      apply (collectTenant_unclamped within minute tenant harvest).bind
      intro result
      cases result with
      | error fault => trivial
      | ok harvest => exact ih harvest

theorem enqueueAll_unclamped (settings : Settings) (queue : List Candidate)
    (queued rejected : Nat) :
    WritesOnly Unclamped (enqueueAll settings queue queued rejected) := by
  induction queue generalizing queued rejected with
  | nil => trivial
  | cons candidate queue ih =>
      apply WritesOnly.ask
      intro answer
      cases answer with
      | ok taken => exact ih (queued + 1) rejected
      | error fault => exact (writesOnly_note (by simp)).bind fun _ => ih queued (rejected + 1)

/-- What a pass writes after a snapshot that keeps to the ceiling. -/
theorem run_unclamped (minute : MinuteOfDay) :
    ∃ rest : Settings → Procedure PassOutcome, run minute = .ask .snapshot rest ∧
      ∀ snapshot, snapshot.WithinCeiling → WritesOnly Unclamped (rest snapshot) := by
  have abandoned : WritesOnly Unclamped abandon :=
    (writesOnly_note (by simp)).bind fun _ => trivial
  refine ⟨_, rfl, fun snapshot within => ?_⟩
  rw [done_bind]
  split
  next =>
    apply WritesOnly.ask
    intro answer
    cases answer with
    | error failure => exact abandoned
    | ok tenants =>
        apply (collect_unclamped within minute tenants Harvest.empty).bind
        intro result
        cases result with
        | error fault => exact abandoned
        | ok harvest =>
            apply (enqueueAll_unclamped snapshot harvest.candidates 0 0).bind
            intro counts
            exact (writesOnly_note (by simp)).bind fun _ => trivial
  next => exact (writesOnly_note (by simp)).bind fun _ => trivial

end MinutePass

namespace Dispatch

theorem send_unclamped (user : User) (eligible : List UserSite) (excluded : Nat) (force : Bool) :
    WritesOnly Unclamped (send user eligible excluded force) := by
  apply WritesOnly.ask
  intro answer
  cases answer with
  | error source => trivial
  | ok credential =>
      apply WritesOnly.ask
      intro answer
      cases answer with
      | error source => trivial
      | ok done => exact (writesOnly_note (by simp)).bind fun _ => trivial

theorem refreshUser_unclamped (gate : Gate) (user : User) (force : Bool) (settings : Settings) :
    WritesOnly Unclamped (refreshUser gate user force settings) := by
  apply WritesOnly.ask
  intro answer
  cases answer with
  | error source => trivial
  | ok sites =>
      simp only
      split
      next => exact (writesOnly_note (by simp)).bind fun _ => trivial
      next =>
        apply WritesOnly.ask
        intro now
        apply WritesOnly.reportAll
        · intro entry noted
          obtain ⟨site, -, rfl⟩ := List.mem_map.mp noted
          exact unclamped_note (by simp)
        · split
          next => exact (writesOnly_note (by simp)).bind fun _ => trivial
          next => exact send_unclamped user _ _ force

end Dispatch

namespace RefreshJob

theorem scheduled_unclamped (gate : Gate) (candidate : Candidate) (settings : Settings) :
    WritesOnly Unclamped (scheduled gate candidate settings) := by
  apply WritesOnly.ask
  intro answer
  rcases answer with failure | _ | user
  · exact writesOnly_note (by simp)
  · exact writesOnly_note (by simp)
  · simp only
    split
    next => exact writesOnly_note (by simp)
    next =>
      apply (Dispatch.refreshUser_unclamped gate user false settings).bind
      intro result
      cases result <;> exact writesOnly_note (by simp)

theorem forced_unclamped (gate : Gate) (userId : UserId) :
    WritesOnly Unclamped (forced gate userId) := by
  apply WritesOnly.ask
  intro settings
  apply WritesOnly.ask
  intro answer
  rcases answer with failure | _ | user
  · exact writesOnly_note (by simp)
  · exact writesOnly_note (by simp)
  · simp only
    split
    next => exact writesOnly_note (by simp)
    next =>
      apply (Dispatch.refreshUser_unclamped gate user true settings).bind
      intro result
      cases result <;> exact writesOnly_note (by simp)

end RefreshJob

end UnattendedRefresh
