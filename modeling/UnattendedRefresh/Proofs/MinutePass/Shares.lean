import UnattendedRefresh.Proofs.MinutePass.Questions
import UnattendedRefresh.Proofs.Wheel.DueMinutes
import Mathlib.Data.List.Count

/-!
# The share of one pass

A pass that a store answers truthfully submits a user of a listed tenant once if
the user is due at the pass's minute, and otherwise not at all.
-/

namespace UnattendedRefresh

/-- The tenants that own sites and the users of every tenant. -/
structure Roster where
  tenants : List TenantId
  users : TenantId → List UserId
  tenants_nodup : tenants.Nodup
  users_nodup : ∀ tenant, (users tenant).Nodup

/-- A truthful answer, in whatever order, to a question about the roster. -/
def Roster.Answers (roster : Roster) : Reply → Prop
  | ⟨.tenants, answer⟩ => ∃ listed, answer = .ok listed ∧ listed.Perm roster.tenants
  | ⟨.usersInRange tenant range, answer⟩ => ∃ listed, answer = .ok listed ∧
      listed.Perm ((roster.users tenant).filter fun user => range.contains user)
  | _ => True

namespace Question

/-- Whether the question submits the candidate. -/
def submits (candidate : Candidate) : Question → Bool
  | enqueue other _ => other = candidate
  | _ => false

/-- Whether the question asks for users among whom the candidate is. -/
def covers (candidate : Candidate) : Question → Bool
  | usersInRange tenant range =>
    tenant = candidate.tenantId && range.contains candidate.userId
  | _ => false

end Question

namespace MinutePass

open Procedure

variable {roster : Roster} {candidate : Candidate} {minute : MinuteOfDay}
  {settings : Settings}

/-- A truthful answer names a user of the roster once or not at all. -/
theorem count_candidates {reply : Reply} (truthful : roster.Answers reply)
    (member : candidate.userId ∈ roster.users candidate.tenantId) :
    reply.candidates.count candidate = if reply.question.covers candidate then 1 else 0 := by
  obtain ⟨question, answer⟩ := reply
  cases question with
  | usersInRange tenant range =>
      obtain ⟨listed, rfl, same⟩ := truthful
      obtain ⟨own, user⟩ := candidate
      by_cases asked : tenant = own
      · subst asked
        have injective : Function.Injective fun user => Candidate.mk tenant user := by
          intro first second equal
          simpa using equal
        simp only [Reply.candidates, Question.covers]
        rw [List.count_map_of_injective _ _ injective, same.count_eq]
        by_cases covered : range.contains user = true
        · rw [List.count_filter covered, (roster.users_nodup tenant).count]
          simp [covered, member]
        · simp [covered, List.count_eq_zero]
      · simp [Reply.candidates, Question.covers, asked, List.count_eq_zero]
  | _ => simp [Reply.candidates, Question.covers]

theorem count_flatMap_candidates {found : List Reply}
    (truthful : ∀ reply ∈ found, roster.Answers reply)
    (member : candidate.userId ∈ roster.users candidate.tenantId) :
    (found.flatMap Reply.candidates).count candidate =
      (found.map (·.question)).countP (Question.covers candidate) := by
  induction found with
  | nil => rfl
  | cons reply found ih =>
      rw [List.flatMap_cons, List.count_append, List.map_cons, List.countP_cons,
        ih fun other within => truthful other (by simp [within]),
        count_candidates (truthful reply (by simp)) member, Nat.add_comm]

/-- Of all listed tenants only the candidate's own asks for the candidate. -/
theorem countP_covers {tenants : List TenantId} (distinct : tenants.Nodup)
    (listed : candidate.tenantId ∈ tenants) :
    (tenants.filterMap (rangeQuestion? minute settings)).countP (Question.covers candidate) =
      if Wheel.IsDue (settings.refreshesPerDay candidate.tenantId).toNat minute
        candidate.userId then 1 else 0 := by
  have asks (tenant : TenantId) :
      ((rangeQuestion? minute settings tenant).map (Question.covers candidate)).getD false =
        (decide (tenant = candidate.tenantId) &&
          decide (Wheel.IsDue (settings.refreshesPerDay candidate.tenantId).toNat minute
            candidate.userId)) := by
    by_cases own : tenant = candidate.tenantId
    · subst own
      cases due : Wheel.dueRange (settings.refreshesPerDay candidate.tenantId).toNat minute <;>
        simp [rangeQuestion?, Wheel.IsDue, Question.covers, due]
    · simp only [rangeQuestion?]
      split <;> simp [Question.covers, own]
  rw [List.countP_filterMap, List.countP_congr fun tenant _ => by rw [asks tenant]]
  split
  next due =>
    have once := List.count_eq_one_of_mem distinct listed
    simpa [due, List.count, beq_eq_decide] using once
  next notDue => simp [notDue]

theorem Gathering.questions_eq {replies : List Reply}
    (gathering : Gathering minute settings replies) :
    replies.map (·.question) =
      .snapshot :: .tenants :: gathering.tenants.filterMap (rangeQuestion? minute settings) := by
  rw [← gathering.asked]
  simpa using congrArg (List.map (·.question)) gathering.replies_eq

/-- Nothing is submitted while candidates are gathered. -/
theorem Gathering.countP_submits {replies : List Reply}
    (gathering : Gathering minute settings replies) (candidate : Candidate) :
    (replies.map (·.question)).countP (Question.submits candidate) = 0 := by
  have asksOnly (tenant : TenantId) : ((rangeQuestion? minute settings tenant).map
      (Question.submits candidate)).getD false = false := by
    simp only [rangeQuestion?]
    split <;> simp [Question.submits]
  rw [gathering.questions_eq, List.countP_cons, List.countP_cons, List.countP_filterMap]
  simp [Question.submits, asksOnly]

/-- A pass that ended under enabled settings and truthful answers submitted the
candidate once if the candidate was due, and otherwise not. -/
theorem countP_submits_of_run {replies : List Reply} {outcome : PassOutcome}
    (course : Course (run minute) replies (.done outcome))
    (enabled : settings.enabled = true)
    (snapshots : ∀ snapshot, ⟨.snapshot, snapshot⟩ ∈ replies → snapshot = settings)
    (truthful : ∀ reply ∈ replies, roster.Answers reply)
    (listed : candidate.tenantId ∈ roster.tenants)
    (member : candidate.userId ∈ roster.users candidate.tenantId) :
    (replies.map (·.question)).countP (Question.submits candidate) =
      if Wheel.IsDue (settings.refreshesPerDay candidate.tenantId).toNat minute
        candidate.userId then 1 else 0 := by
  obtain ⟨snapshot, ended⟩ := run_to_done course
  rcases ended with ⟨rfl, disabled⟩ | ⟨failure, rfl⟩ | ⟨before, queueing, gathering, rfl, submitted⟩
  · obtain rfl := snapshots snapshot (by simp)
    simp [enabled] at disabled
  · obtain ⟨tenants, listed, -⟩ := truthful ⟨.tenants, .error failure⟩ (by simp)
    simp at listed
  · have answers := gathering.replies_eq
    obtain rfl := snapshots snapshot (by simp [answers])
    obtain ⟨known, told, same⟩ := truthful ⟨.tenants, .ok gathering.tenants⟩ (by simp [answers])
    obtain rfl := Except.ok.inj told
    have found (reply : Reply) (within : reply ∈ gathering.found) : roster.Answers reply :=
      truthful reply (by simp [answers, within])
    have queued : (queueing.map (·.question)).countP (Question.submits candidate) =
        (gathering.found.flatMap Reply.candidates).count candidate := by
      rw [submitted, List.countP_map]
      rfl
    rw [List.map_append, List.countP_append, gathering.countP_submits, queued, Nat.zero_add,
      count_flatMap_candidates found member, gathering.asked]
    exact countP_covers (same.nodup_iff.mpr roster.tenants_nodup) (same.mem_iff.mpr listed)

end MinutePass

end UnattendedRefresh
