import UnattendedRefresh.Proofs.MinutePass.Selection
import UnattendedRefresh.Proofs.Procedure.Answers

/-!
# The account of a pass

A pass under enabled settings gives up only where the tenants could not be listed.
Otherwise it submits exactly the users that the tables name for this minute, its
summary accounts for every tenant and every candidate, and the order in which the
tenants come changes neither. No clock is asked, so a minute that is passed again
comes to the same.
-/

namespace UnattendedRefresh

namespace MinutePass

open Procedure

variable {minute : MinuteOfDay} {settings : Settings} {replies : List Reply}

/-- A pass that was answered to the end: with these settings, and by these tables. -/
structure Answered (store : Store) (settings : Settings) (minute : MinuteOfDay)
    (replies : List Reply) (outcome : PassOutcome) : Prop where
  course : Course (run minute) replies (.done outcome)
  snapshots : ∀ snapshot, ⟨.snapshot, snapshot⟩ ∈ replies → snapshot = settings
  truthful : ∀ reply ∈ replies, store.Answers reply

/-- What a pass has submitted, and how its summary counts it. -/
structure Account (store : Store) (settings : Settings) (minute : MinuteOfDay)
    (tenants : List TenantId) (replies : List Reply) (summary : PassSummary) : Prop where
  submissions_eq : Reply.submissions replies = tenants.flatMap (store.candidates minute settings)
  tenants_eq : summary.tenants = tenants.length
  optedOut_eq : summary.optedOut =
    tenants.countP fun tenant => store.share minute settings tenant = .optedOut
  failedTenants_eq : summary.failedTenants =
    tenants.countP fun tenant => store.share minute settings tenant = .failed
  candidates_eq : summary.candidates = (Reply.submissions replies).length
  queued_eq : summary.queued = replies.countP Reply.isTaken
  rejected_eq : summary.rejected = replies.countP Reply.isTurnedAway
  verdicts_eq : summary.candidates = summary.queued + summary.rejected

section Answered

variable {store : Store} {outcome : PassOutcome}

/-- The pass gives up only where the tenants could not be listed. -/
theorem Answered.cases (answered : Answered store settings minute replies outcome)
    (enabled : settings.enabled = true) :
    (∃ failure, store.tenants = .error failure ∧ outcome = .failed ∧
      Reply.submissions replies = []) ∨
    ∃ tenants summary, store.tenants = .ok tenants ∧ outcome = .completed summary ∧
      Account store settings minute tenants replies summary := by
  obtain ⟨course, snapshots, truthful⟩ := answered
  rw [run, bind_eq, question_bind, Course.ask_to_done] at course
  obtain ⟨snapshot, rest, rfl, begun⟩ := course
  obtain rfl : snapshot = settings := snapshots snapshot (by simp)
  rw [if_pos enabled, bind_eq, question_bind, Course.ask_to_done] at begun
  obtain ⟨answer, rest, rfl, listed⟩ := begun
  have told : answer = store.tenants := truthful ⟨.tenants, answer⟩ (by simp)
  cases answer with
  | error failure =>
      simp only [abandon, bind_eq, note_bind, Course.report_to_done, pure_eq_done,
        Course.done_iff, done.injEq] at listed
      obtain ⟨rfl, rfl⟩ := listed
      exact Or.inl ⟨failure, told.symm, rfl, rfl⟩
  | ok tenants =>
      simp only at listed
      rw [bind_eq, Course.bind_to_done] at listed
      obtain ⟨found, later, result, rfl, collected, onward⟩ := listed
      obtain ⟨_, -, asked, -⟩ := collect_to_done collected
      obtain rfl := collect_answered collected fun reply within =>
        truthful reply (by simp [within])
      simp only at onward
      rw [bind_eq, Course.bind_to_done] at onward
      obtain ⟨queueing, last, counts, rfl, enqueued, ended⟩ := onward
      obtain ⟨rfl, length_eq⟩ := enqueueAll_counts enqueued
      simp only [bind_eq, note_bind, Course.report_to_done, pure_eq_done,
        Course.done_iff, done.injEq] at ended
      obtain ⟨rfl, rfl⟩ := ended
      have gathered : Reply.submissions
          (⟨.snapshot, snapshot⟩ :: ⟨.tenants, .ok tenants⟩ :: found) = [] := by
        simpa [Reply.submissions, Question.submitted?] using submissions_of_ranges asked
      have split : (⟨.snapshot, snapshot⟩ :: ⟨.tenants, .ok tenants⟩ :: (found ++ (queueing ++ []))
            : List Reply) =
          (⟨.snapshot, snapshot⟩ :: ⟨.tenants, .ok tenants⟩ :: found) ++ queueing := by
        simp
      have submitted := submissions_of_queue (enqueueAll_to_done enqueued)
      obtain ⟨noneTaken, noneTurnedAway⟩ := Reply.countP_verdicts gathered
      rw [split]
      refine Or.inr ⟨tenants, _, told.symm, rfl, ?_⟩
      constructor
      · rw [Reply.submissions_append, gathered, submitted, yield_eq]
        simp [Harvest.empty]
      · rfl
      · simp [yield_eq, Harvest.empty]
      · simp [yield_eq, Harvest.empty]
      · rw [Reply.submissions_append, gathered, submitted, List.nil_append]
      · rw [List.countP_append, noneTaken]
      · rw [List.countP_append, noneTurnedAway]
      · simpa using length_eq

end Answered

section Account

variable {store : Store} {tenants : List TenantId} {summary : PassSummary}

/-- A tenant contributes its own candidates only. -/
theorem count_flatMap_candidates_of_nodup (distinct : tenants.Nodup) (candidate : Candidate) :
    (tenants.flatMap (store.candidates minute settings)).count candidate =
      if candidate.tenantId ∈ tenants then
        (store.candidates minute settings candidate.tenantId).count candidate
      else 0 := by
  induction tenants with
  | nil => simp
  | cons tenant tenants ih =>
      obtain ⟨new, others⟩ := List.nodup_cons.mp distinct
      rw [List.flatMap_cons, List.count_append, ih others]
      by_cases own : candidate.tenantId = tenant
      · subst own
        simp [new]
      · have foreign : (store.candidates minute settings tenant).count candidate = 0 := by
          rw [List.count_eq_zero, Store.mem_candidates_iff]
          exact fun ⟨same, _⟩ => own same
        simp [foreign, own]

theorem nodup_flatMap_candidates (distinct : tenants.Nodup) (answers : store.Distinct) :
    (tenants.flatMap (store.candidates minute settings)).Nodup := by
  rw [List.nodup_iff_count_le_one]
  intro candidate
  rw [count_flatMap_candidates_of_nodup distinct]
  split
  next =>
    have once := Store.nodup_candidates minute settings candidate.tenantId answers
    exact List.nodup_iff_count_le_one.mp once candidate
  next => exact Nat.zero_le 1

/-- Every tenant opts out, fails or contributes. -/
theorem countP_shares (tenants : List TenantId) :
    tenants.length =
      (tenants.countP fun tenant => store.share minute settings tenant = .optedOut) +
      (tenants.countP fun tenant => store.share minute settings tenant = .failed) +
      (tenants.countP fun tenant => (store.share minute settings tenant).isFound) := by
  induction tenants with
  | nil => rfl
  | cons tenant tenants ih =>
      rw [List.length_cons, ih, List.countP_cons, List.countP_cons, List.countP_cons]
      cases store.share minute settings tenant <;> simp [Share.isFound] <;> omega

namespace Account

variable (account : Account store settings minute tenants replies summary)

include account

theorem mem_iff (candidate : Candidate) :
    candidate ∈ Reply.submissions replies ↔
      candidate.tenantId ∈ tenants ∧ 0 < (settings.refreshesPerDay candidate.tenantId).toNat ∧
        ∃ range users,
          Wheel.dueRange (settings.refreshesPerDay candidate.tenantId).toNat minute = .ok range ∧
            store.usersInRange candidate.tenantId range = .ok users ∧
              candidate.userId ∈ users := by
  simp only [account.submissions_eq, List.mem_flatMap, Store.mem_candidates_iff]
  constructor
  · rintro ⟨tenant, listed, rfl, range, users, due, answer, within⟩
    refine ⟨listed, Nat.pos_of_ne_zero fun zero => ?_, range, users, due, answer, within⟩
    simp [zero, Wheel.dueRange_zero] at due
  · rintro ⟨listed, -, found⟩
    exact ⟨candidate.tenantId, listed, rfl, found⟩

/-- A user is submitted as often as the tables named it. -/
theorem count_eq (distinct : tenants.Nodup) {tenant : TenantId} {range : IdRange}
    {users : List UserId} (listed : tenant ∈ tenants)
    (due : Wheel.dueRange (settings.refreshesPerDay tenant).toNat minute = .ok range)
    (answer : store.usersInRange tenant range = .ok users) (user : UserId) :
    (Reply.submissions replies).count ⟨tenant, user⟩ = users.count user := by
  have found := (store.share_eq_found_iff minute settings tenant).mpr ⟨range, due, answer⟩
  have injective : Function.Injective fun user => Candidate.mk tenant user := by
    intro first second equal
    simpa using equal
  rw [account.submissions_eq, count_flatMap_candidates_of_nodup distinct, if_pos listed,
    store.candidates_eq_map minute settings tenant found, List.count_map_of_injective _ _ injective]

theorem nodup (distinct : tenants.Nodup) (answers : store.Distinct) :
    (Reply.submissions replies).Nodup :=
  account.submissions_eq ▸ nodup_flatMap_candidates distinct answers

theorem users_nodup (distinct : tenants.Nodup) (answers : store.Distinct)
    (exclusive : store.Exclusive) :
    ((Reply.submissions replies).map (·.userId)).Nodup := by
  refine (account.nodup distinct answers).map_on ?_
  rintro ⟨tenant, user⟩ first ⟨other, _⟩ second rfl
  obtain ⟨-, -, range, users, -, answer, within⟩ := (account.mem_iff _).mp first
  obtain ⟨-, -, otherRange, others, -, otherAnswer, amongst⟩ := (account.mem_iff _).mp second
  obtain rfl : tenant = other := exclusive _ _ _ _ _ _ _ answer otherAnswer within amongst
  rfl

theorem tenants_split : summary.tenants = summary.optedOut + summary.failedTenants +
    tenants.countP fun tenant => (store.share minute settings tenant).isFound := by
  rw [account.tenants_eq, account.optedOut_eq, account.failedTenants_eq]
  exact countP_shares tenants

/-- In another order the tenants come to the same. -/
theorem perm {other : Store} {reordered : List TenantId} {again : List Reply}
    {later : PassSummary} (same : other.usersInRange = store.usersInRange)
    (order : reordered.Perm tenants)
    (second : Account other settings minute reordered again later) :
    (Reply.submissions again).Perm (Reply.submissions replies) ∧
      later.tenants = summary.tenants ∧ later.optedOut = summary.optedOut ∧
      later.failedTenants = summary.failedTenants ∧
      later.candidates = summary.candidates := by
  have shares := Store.share_congr minute settings same
  have candidates : other.candidates minute settings = store.candidates minute settings := by
    funext tenant
    rw [Store.candidates, Store.candidates, shares]
  have submissions : (Reply.submissions again).Perm (Reply.submissions replies) := by
    rw [account.submissions_eq, second.submissions_eq, candidates]
    exact order.flatMap_right _
  refine ⟨submissions, ?_, ?_, ?_, ?_⟩
  · rw [account.tenants_eq, second.tenants_eq, order.length_eq]
  · rw [account.optedOut_eq, second.optedOut_eq, shares]
    exact order.countP_eq _
  · rw [account.failedTenants_eq, second.failedTenants_eq, shares]
    exact order.countP_eq _
  · rw [account.candidates_eq, second.candidates_eq, submissions.length_eq]

end Account

end Account

/-- What the dispatch pool says to each submission, by what happened before. -/
abbrev Verdicts := List Reply → Candidate → Except PoolFault Unit

/-- The tables, the settings and the dispatch pool answer a pass; nobody else is asked. -/
def answering (store : Store) (settings : Settings) (verdicts : Verdicts) : Answering
  | _, .snapshot => settings
  | _, .tenants => store.tenants
  | _, .usersInRange tenant range => store.usersInRange tenant range
  | before, .enqueue candidate _ => verdicts before candidate
  | _, .user _ => .ok none
  | _, .sites _ => .ok []
  | _, .clock => ⟨0, 0⟩
  | _, .credential _ _ => .error ""
  | _, .refresh _ => .error ""

/-- Whatever the dispatch pool says, the pass comes to its end. -/
theorem exists_answered (store : Store) (settings : Settings) (minute : MinuteOfDay)
    (verdicts : Verdicts) :
    ∃ replies outcome, Answered store settings minute replies outcome ∧
      ∀ before candidate snapshot answer after,
        replies = before ++ ⟨.enqueue candidate snapshot, answer⟩ :: after →
          answer = verdicts before candidate := by
  obtain ⟨replies, outcome, course, given⟩ :=
    exists_course (answering store settings verdicts) (run minute)
  refine ⟨replies, outcome, ⟨course, fun snapshot member => ?_, fun reply member => ?_⟩,
    fun before candidate snapshot answer after split => given before _ after split⟩
  · obtain ⟨before, told⟩ := given.of_mem member
    exact told
  · obtain ⟨before, told⟩ := given.of_mem member
    obtain ⟨question, answer⟩ := reply
    cases question with
    | tenants => exact told
    | usersInRange tenant range => exact told
    | _ => trivial

/-- The selection and the summary of a pass that completed. -/
structure Exact (store : Store) (settings : Settings) (minute : MinuteOfDay)
    (tenants : List TenantId) (replies : List Reply) (summary : PassSummary) : Prop where
  mem_iff : ∀ candidate, candidate ∈ Reply.submissions replies ↔
    candidate.tenantId ∈ tenants ∧ 0 < (settings.refreshesPerDay candidate.tenantId).toNat ∧
      ∃ range users,
        Wheel.dueRange (settings.refreshesPerDay candidate.tenantId).toNat minute = .ok range ∧
          store.usersInRange candidate.tenantId range = .ok users ∧ candidate.userId ∈ users
  /-- A user is submitted as often as the tables named it. -/
  count_eq : ∀ tenant ∈ tenants, ∀ range users,
    Wheel.dueRange (settings.refreshesPerDay tenant).toNat minute = .ok range →
      store.usersInRange tenant range = .ok users →
        ∀ user, (Reply.submissions replies).count ⟨tenant, user⟩ = users.count user
  nodup : store.Distinct → (Reply.submissions replies).Nodup
  users_nodup : store.Distinct → store.Exclusive →
    ((Reply.submissions replies).map (·.userId)).Nodup
  tenants_eq : summary.tenants = tenants.length
  tenants_split : summary.tenants = summary.optedOut + summary.failedTenants +
    tenants.countP fun tenant => (store.share minute settings tenant).isFound
  optedOut_eq : summary.optedOut =
    tenants.countP fun tenant => (settings.refreshesPerDay tenant).toNat = 0
  failedTenants_eq : summary.failedTenants =
    tenants.countP fun tenant => store.share minute settings tenant = .failed
  candidates_eq : summary.candidates = (Reply.submissions replies).length
  verdicts_eq : summary.candidates = summary.queued + summary.rejected
  queued_eq : summary.queued = replies.countP Reply.isTaken
  rejected_eq : summary.rejected = replies.countP Reply.isTurnedAway
  /-- Passed again, with the tenants in another order and other verdicts. -/
  again : ∀ (other : Store) reordered replies' later,
    other.usersInRange = store.usersInRange → other.tenants = .ok reordered →
      reordered.Perm tenants → Answered other settings minute replies' (.completed later) →
        (Reply.submissions replies').Perm (Reply.submissions replies) ∧
          later.tenants = summary.tenants ∧ later.optedOut = summary.optedOut ∧
          later.failedTenants = summary.failedTenants ∧
          later.candidates = summary.candidates

theorem Account.exact {store : Store} {tenants : List TenantId} {summary : PassSummary}
    (account : Account store settings minute tenants replies summary)
    (enabled : settings.enabled = true) (distinct : tenants.Nodup) :
    Exact store settings minute tenants replies summary where
  mem_iff := account.mem_iff
  count_eq tenant listed range users due answer := account.count_eq distinct listed due answer
  nodup := account.nodup distinct
  users_nodup := account.users_nodup distinct
  tenants_eq := account.tenants_eq
  tenants_split := account.tenants_split
  optedOut_eq := by
    rw [account.optedOut_eq]
    exact List.countP_congr fun tenant _ => by simp [Store.share_eq_optedOut_iff]
  failedTenants_eq := account.failedTenants_eq
  candidates_eq := account.candidates_eq
  verdicts_eq := account.verdicts_eq
  queued_eq := account.queued_eq
  rejected_eq := account.rejected_eq
  again other reordered replies' later same listed order answered := by
    rcases answered.cases enabled with ⟨failure, -, gaveUp, -⟩ | ⟨found, total, told, ended, second⟩
    · simp at gaveUp
    · obtain rfl := PassOutcome.completed.inj ended
      obtain rfl := Except.ok.inj (listed.symm.trans told)
      exact account.perm same order second

/-- Whatever the tables hold, whichever of their answers fail and whatever the
dispatch pool says: a pass under enabled settings ends, asks no clock, gives up
exactly if the tenants cannot be listed, and otherwise its selection and its summary
are exact. -/
theorem selection_exact (minute : MinuteOfDay) (settings : Settings) (store : Store)
    (enabled : settings.enabled = true)
    (distinct : ∀ tenants, store.tenants = .ok tenants → tenants.Nodup) :
    (∀ verdicts : Verdicts, ∃ replies outcome,
      Answered store settings minute replies outcome ∧
        ∀ before candidate snapshot answer after,
          replies = before ++ ⟨.enqueue candidate snapshot, answer⟩ :: after →
            answer = verdicts before candidate) ∧
    ∀ replies outcome, Answered store settings minute replies outcome →
      (∀ reply ∈ replies, reply.question ≠ .clock) ∧
      (outcome = .failed ↔ ∃ failure, store.tenants = .error failure) ∧
      ∀ tenants, store.tenants = .ok tenants →
        ∃ summary, outcome = .completed summary ∧
          Exact store settings minute tenants replies summary := by
  refine ⟨exists_answered store settings minute, fun replies outcome answered => ?_⟩
  have untimed (reply : Reply) (member : reply ∈ replies) : reply.question ≠ .clock := by
    obtain ⟨rest, same, only⟩ := run_asksOnly minute
    have course := answered.course
    rw [same, Course.ask_to_done] at course
    obtain ⟨snapshot, later, rfl, onward⟩ := course
    rcases List.mem_cons.mp member with rfl | member
    · simp
    · obtain ⟨before, after, resume, -, asked⟩ := onward.asked_of_mem member
      have allowed := (only snapshot).allowed asked
      rintro clock
      simp [clock, Decides] at allowed
  rcases answered.cases enabled with
    ⟨failure, told, rfl, -⟩ | ⟨tenants, summary, told, rfl, account⟩
  · exact ⟨untimed, by simp [told], by simp [told]⟩
  · refine ⟨untimed, by simp [told], fun listed same => ⟨summary, rfl, ?_⟩⟩
    obtain rfl := Except.ok.inj (told.symm.trans same)
    exact account.exact enabled (distinct tenants told)

section Midnight

/-- One tenant whose only user is due at midnight, and one that cannot be read. -/
def twoTenants : Store where
  tenants := .ok [Identifier.ofNat 1, Identifier.ofNat 2]
  usersInRange tenant _ :=
    if tenant = Identifier.ofNat 1 then .ok [Identifier.ofNat 7] else .error "unreadable"

theorem selection_exact_twoTenants :
    ∃ replies summary,
      Answered twoTenants Settings.default ⟨0, by decide⟩ replies (.completed summary) ∧
        summary.tenants = 2 ∧ summary.optedOut = 0 ∧ summary.failedTenants = 1 ∧
        ⟨Identifier.ofNat 1, Identifier.ofNat 7⟩ ∈ Reply.submissions replies := by
  have distinct (tenants : List TenantId) (listed : twoTenants.tenants = .ok tenants) :
      tenants.Nodup := by
    obtain rfl := Except.ok.inj listed
    decide
  obtain ⟨ends, exact⟩ :=
    selection_exact ⟨0, by decide⟩ Settings.default twoTenants rfl distinct
  obtain ⟨replies, outcome, answered, -⟩ := ends fun _ _ => .ok ()
  obtain ⟨-, -, completes⟩ := exact replies outcome answered
  obtain ⟨summary, rfl, known⟩ := completes _ rfl
  refine ⟨replies, summary, answered, known.tenants_eq, known.optedOut_eq.trans (by decide),
    known.failedTenants_eq.trans (by decide), (known.mem_iff _).mpr ?_⟩
  exact ⟨by simp, by decide, Wheel.span 0 4, [Identifier.ofNat 7], by decide, rfl, by simp⟩

end Midnight

end MinutePass

end UnattendedRefresh
