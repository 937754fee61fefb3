import UnattendedRefresh.Proofs.MinutePass.Shares
import UnattendedRefresh.Proofs.Settings.LastGood
import UnattendedRefresh.Proofs.Trigger.Driving
import UnattendedRefresh.Proofs.Trigger.Errands

/-!
# The selections of a day

Over a day with one pass for every minute, the passes that submit a user are those
whose minute the user is due at, each once. A user is therefore submitted as often
as the tenant is to be refreshed, and twice as often if the user's identifier is an
end that two arcs share.
-/

namespace UnattendedRefresh

open Procedure

namespace Effect

/-- The task that submits the candidate with this effect. -/
def submitter? (candidate : Candidate) : Effect → Option Nat
  | answered number reply => if reply.question.submits candidate then some number else none
  | _ => none

end Effect

namespace Record

variable {record : Record} {number : Nat} {minute : MinuteOfDay} {candidate : Candidate}

/-- The tasks that submitted the candidate, once for each time. -/
def submitters (record : Record) (candidate : Candidate) : List Nat :=
  record.filterMap (Effect.submitter? candidate)

/-- How often the candidate was selected. -/
def selections (record : Record) (candidate : Candidate) : Nat :=
  (record.submitters candidate).length

theorem mem_passes_iff :
    (number, minute) ∈ record.passes ↔ .pass minute ∈ record.errands number := by
  simp only [passes, errands, List.mem_filterMap]
  refine exists_congr fun effect => and_congr_right fun _ => ?_
  cases effect with
  | begun other errand => cases errand <;> simp [Effect.passOf?]
  | _ => simp [Effect.passOf?, Effect.errandOf?]

theorem count_passes_le (record : Record) (number : Nat) :
    (record.passes.map Prod.fst).count number ≤ (record.errands number).length := by
  rw [List.count, List.countP_map, passes, List.countP_filterMap, errands,
    List.length_filterMap_eq_countP]
  refine List.countP_mono_left fun effect _ began => ?_
  cases effect with
  | begun other errand => cases errand <;> simp_all [Effect.passOf?]
  | _ => simp [Effect.passOf?] at began

theorem count_submitters (record : Record) (candidate : Candidate) (number : Nat) :
    (record.submitters candidate).count number =
      ((record.answers number).map (·.question)).countP (Question.submits candidate) := by
  rw [List.count, submitters, List.countP_filterMap, List.countP_map, answers,
    List.countP_filterMap]
  refine List.countP_congr fun effect _ => ?_
  cases effect with
  | answered other reply =>
      by_cases same : other = number <;>
        cases submits : reply.question.submits candidate <;>
          simp [Effect.submitter?, same, submits]
  | _ => simp [Effect.submitter?, Effect.answerTo?]

end Record

namespace Trigger

/-- A day of passes: valid settings that allow refreshes stay in effect, the pass of
every minute begins once and comes to its end, and the store answers truthfully. -/
structure Day (settings : Settings) (roster : Roster) (moves : List Move)
    (record : Record) : Prop where
  valid : settings.validate = .ok ()
  enabled : settings.enabled = true
  kept : ∀ other, .replaceSettings other ∈ moves → other = settings
  every_minute : ∀ minute, (record.passes.map Prod.snd).count minute = 1
  completed : ∀ number minute, (number, minute) ∈ record.passes →
    ∃ outcome, some outcome ∈ record.endings number
  truthful : ∀ number, ∀ reply ∈ record.answers number, roster.Answers reply

section Selections

variable {gate : Gate} {trigger : Trigger} {record : Record} {settings : Settings}
  {roster : Roster} {moves : List Move} {candidate : Candidate}

theorem Chronicle.passes_nodup (chronicle : Chronicle gate trigger record) :
    (record.passes.map Prod.fst).Nodup := by
  refine List.nodup_iff_count_le_one.mpr fun number => ?_
  exact Nat.le_trans (record.count_passes_le number) (chronicle.lives number).length_errands_le

theorem Chronicle.pass_of_submits (chronicle : Chronicle gate trigger record) {number : Nat}
    {reply : Reply} (answered : reply ∈ record.answers number)
    (submits : reply.question.submits candidate = true) :
    ∃ minute, (number, minute) ∈ record.passes := by
  obtain ⟨errand, rest, begun, course⟩ := (chronicle.lives number).of_answer answered
  obtain ⟨before, after, resume, -, asked⟩ := course.asked_of_mem answered
  obtain ⟨question, answer⟩ := reply
  cases question with
  | enqueue other settings =>
      obtain ⟨minute, rfl⟩ := Errand.pass_of_enqueue asked
      exact ⟨minute, Record.mem_passes_iff.mpr (by simp [begun])⟩
  | _ => simp [Question.submits] at submits

/-- The passes that submit a user of the roster are those whose minute the user is
due at. -/
theorem submitters_perm (chronicle : Chronicle gate trigger record)
    (day : Day settings roster moves record)
    (snapshots : ∀ number snapshot, ⟨.snapshot, snapshot⟩ ∈ record.answers number →
      snapshot = settings)
    (listed : candidate.tenantId ∈ roster.tenants)
    (member : candidate.userId ∈ roster.users candidate.tenantId) :
    (record.submitters candidate).Perm
      ((record.passes.filter fun pass =>
        Wheel.IsDue (settings.refreshesPerDay candidate.tenantId).toNat pass.2
          candidate.userId).map Prod.fst) := by
  -- Each number occurs equally often on both sides: once for a due pass, else never.
  rw [List.perm_iff_count]
  intro number
  rw [Record.count_submitters,
    (chronicle.passes_nodup.sublist (List.filter_sublist.map Prod.fst)).count]
  by_cases pass : ∃ minute, (number, minute) ∈ record.passes
  · obtain ⟨minute, began⟩ := pass
    obtain ⟨outcome, ended⟩ := day.completed number minute began
    obtain ⟨errand, errands, -, course⟩ := (chronicle.lives number).of_outcome ended
    have only (other : MinuteOfDay) (began : (number, other) ∈ record.passes) :
        errand = .pass other := by
      simpa [errands, eq_comm] using Record.mem_passes_iff.mp began
    obtain rfl := only minute began
    obtain ⟨told, -, course⟩ := Errand.pass_course_done course
    rw [MinutePass.countP_submits_of_run course day.enabled (snapshots number)
      (day.truthful number) listed member]
    refine if_congr ?_ rfl rfl
    simp only [List.mem_map, List.mem_filter, decide_eq_true_eq]
    constructor
    · exact fun due => ⟨(number, minute), ⟨began, due⟩, rfl⟩
    · rintro ⟨⟨other, started⟩, ⟨within, due⟩, rfl⟩
      have same := only started within
      simp only [Errand.pass.injEq] at same
      exact same ▸ due
  · have notDue : number ∉ (record.passes.filter fun pass =>
        Wheel.IsDue (settings.refreshesPerDay candidate.tenantId).toNat pass.2
          candidate.userId).map Prod.fst := by
      rintro among
      obtain ⟨⟨other, minute⟩, within, rfl⟩ := List.mem_map.mp among
      exact pass ⟨minute, (List.mem_filter.mp within).1⟩
    rw [if_neg notDue, List.countP_eq_zero]
    intro question asked submits
    obtain ⟨reply, answered, rfl⟩ := List.mem_map.mp asked
    exact pass (chronicle.pass_of_submits answered submits)

/-- How often a user is selected over a day. -/
theorem Day.selections_eq (chronicle : Chronicle gate trigger record)
    (day : Day settings roster moves record)
    (snapshots : ∀ number snapshot, ⟨.snapshot, snapshot⟩ ∈ record.answers number →
      snapshot = settings)
    (listed : candidate.tenantId ∈ roster.tenants)
    (member : candidate.userId ∈ roster.users candidate.tenantId) :
    record.selections candidate =
      if Wheel.IsSharedEdge (settings.refreshesPerDay candidate.tenantId).toNat
        candidate.userId.number
      then 2 * (settings.refreshesPerDay candidate.tenantId).toNat
      else (settings.refreshesPerDay candidate.tenantId).toNat := by
  have low := Settings.refreshesPerDay_le_ceiling day.valid candidate.tenantId
  have whole : Wheel.rate (settings.refreshesPerDay candidate.tenantId).toNat =
      (settings.refreshesPerDay candidate.tenantId).toNat := Nat.min_eq_left low
  have counted := Wheel.countP_isDue day.every_minute
    (settings.refreshesPerDay candidate.tenantId).toNat candidate.userId
  rw [whole, List.countP_map, List.countP_eq_length_filter] at counted
  rw [Record.selections, (submitters_perm chronicle day snapshots listed member).length_eq,
    List.length_map]
  exact counted

end Selections

section Existence

def allMinutes : List MinuteOfDay :=
  (List.finRange minutesPerDay).map fun index : Fin minutesPerDay => ⟨index.val, index.isLt⟩

theorem count_allMinutes (minute : MinuteOfDay) : allMinutes.count minute = 1 := by
  have injective : Function.Injective fun index : Fin minutesPerDay =>
      MinuteOfDay.mk index.val index.isLt := by
    intro first second same
    simpa [Fin.ext_iff] using same
  have distinct : allMinutes.Nodup := by
    rw [allMinutes]
    exact (List.nodup_finRange _).map injective
  refine List.count_eq_one_of_mem distinct (List.mem_map.mpr ?_)
  exact ⟨⟨minute.index, minute.index_lt⟩, List.mem_finRange _, rfl⟩

/-- A store that answers from a roster, and collaborators that do nothing else. -/
def rosterWorld (settings : Settings) (roster : Roster) : World
  | .snapshot => settings
  | .tenants => .ok roster.tenants
  | .usersInRange tenant range =>
    .ok ((roster.users tenant).filter fun user => range.contains user)
  | .user _ => .ok none
  | .sites _ => .ok []
  | .clock => ⟨0, 0⟩
  | .credential _ _ => .error "no credential"
  | .refresh _ => .ok ()
  | .enqueue _ _ => .ok ()

/-- A day of passes can be run for every roster and all valid settings. -/
theorem exists_day (gate : Gate) (sizes : PoolSizes) (roster : Roster) {settings : Settings}
    (valid : settings.validate = .ok ()) (enabled : settings.enabled = true) :
    ∃ moves, Day settings roster moves ((create gate settings sizes).run moves).2 := by
  obtain ⟨moves, runs⟩ := exists_runsPasses (rosterWorld settings roster) allMinutes
    (sound_create gate settings sizes)
  refine ⟨moves, valid, enabled, fun other replaced => ?_, fun minute => ?_, runs.completed,
    fun number reply answered => ?_⟩
  · exact absurd replaced (runs.kept other)
  · rw [runs.minutes_eq, count_allMinutes]
  · have given := runs.answered number reply (Record.mem_answers_iff.mp answered)
    obtain ⟨question, answer⟩ := reply
    cases question with
    | tenants =>
        simp only [Question.isInternal, Bool.false_eq_true, Reply.mk.injEq, heq_eq_eq, true_and,
          false_or] at given
        exact ⟨_, given, .refl _⟩
    | usersInRange tenant range =>
        simp only [Question.isInternal, Bool.false_eq_true, Reply.mk.injEq, heq_eq_eq, true_and,
          false_or] at given
        exact ⟨_, given, .refl _⟩
    | _ => trivial

end Existence

/-- Over a day of passes a user is selected as often as the tenant's rate says, or
twice as often. It is twice exactly if the user's identifier is a shared edge, and
that is above the ceiling exactly if the rate is more than half of it. -/
theorem daily_selections (gate : Gate) (settings : Settings) (sizes : PoolSizes)
    (roster : Roster) (moves : List Move) (candidate : Candidate)
    (day : Day settings roster moves ((create gate settings sizes).run moves).2)
    (listed : candidate.tenantId ∈ roster.tenants)
    (member : candidate.userId ∈ roster.users candidate.tenantId) :
    let rate := (settings.refreshesPerDay candidate.tenantId).toNat
    let count := Record.selections ((create gate settings sizes).run moves).2 candidate
    let isShared := Wheel.IsSharedEdge rate candidate.userId.number
    count = (if isShared then 2 * rate else rate) ∧
      (count = rate ↔ ¬ isShared) ∧
      (refreshCeiling < count ↔ isShared ∧ refreshCeiling < 2 * rate) := by
  intro rate count isShared
  have low : rate ≤ refreshCeiling := Settings.refreshesPerDay_le_ceiling day.valid _
  have counted : count = if isShared then 2 * rate else rate :=
    day.selections_eq (chronicle_run gate settings sizes moves)
      (fun _ _ => run_snapshots (sound_create gate settings sizes) rfl day.kept) listed member
  refine ⟨counted, ?_, ?_⟩
  · rw [counted]
    by_cases shared : isShared
    · have positive : 0 < rate := Wheel.pos_of_sharedEdge shared
      rw [if_pos shared]
      exact iff_of_false (by omega) (not_not_intro shared)
    · simp [shared]
  · rw [counted]
    by_cases shared : isShared
    · simp [shared]
    · simp [shared, Nat.not_lt_of_le low]

section EdgeRoster

/-- The end of the first arc of four buckets, where the second begins. -/
def edgeUser : UserId := Identifier.ofNat (4 * Wheel.step)

def innerUser : UserId := Identifier.ofNat 1

def edgeTenant : TenantId := Identifier.ofNat 7

/-- One tenant with two users, one of them on a shared edge. -/
def edgeRoster : Roster where
  tenants := [edgeTenant]
  users tenant := if tenant = edgeTenant then [edgeUser, innerUser] else []
  tenants_nodup := List.nodup_singleton _
  users_nodup tenant := by
    split
    · decide +kernel
    · exact List.nodup_nil

/-- The user inside the arc is selected four times, the rate of the tenant. -/
theorem daily_selections_innerUser :
    ∃ moves, Day .default edgeRoster moves
        ((create Gate.allowAll .default .default).run moves).2 ∧
      Record.selections ((create Gate.allowAll .default .default).run moves).2
        ⟨edgeTenant, innerUser⟩ = 4 := by
  obtain ⟨moves, day⟩ := exists_day Gate.allowAll .default edgeRoster
    (show Settings.default.validate = .ok () from rfl) rfl
  have counted := (daily_selections Gate.allowAll .default .default edgeRoster moves
    ⟨edgeTenant, innerUser⟩ day (by decide) (by decide +kernel)).1
  refine ⟨moves, day, counted.trans ?_⟩
  decide +kernel

/-- The user on the edge is selected eight times at the same rate, twice the ceiling. -/
theorem selections_above_ceiling :
    ∃ moves, Day .default edgeRoster moves
        ((create Gate.allowAll .default .default).run moves).2 ∧
      (Settings.default.refreshesPerDay edgeTenant).toNat = 4 ∧
      Record.selections ((create Gate.allowAll .default .default).run moves).2
        ⟨edgeTenant, edgeUser⟩ = 8 ∧ refreshCeiling < 8 := by
  obtain ⟨moves, day⟩ := exists_day Gate.allowAll .default edgeRoster
    (show Settings.default.validate = .ok () from rfl) rfl
  have member : (Candidate.mk edgeTenant edgeUser).userId ∈ edgeRoster.users edgeTenant := by
    decide +kernel
  have counted := day.selections_eq (chronicle_run Gate.allowAll .default .default moves)
    (fun _ _ => run_snapshots (sound_create Gate.allowAll .default .default) rfl day.kept)
    (by decide) member
  refine ⟨moves, day, rfl, counted.trans ?_, by decide⟩
  decide +kernel

end EdgeRoster

end Trigger

end UnattendedRefresh
