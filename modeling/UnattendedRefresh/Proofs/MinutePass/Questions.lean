import UnattendedRefresh.MinutePass
import UnattendedRefresh.Proofs.Procedure.Course

/-!
# What a minute pass asks

A pass asks for the settings and the tenants, then for the users of each tenant
that takes part, tenant by tenant, and then submits every user it was told of,
once for each time.
-/

namespace UnattendedRefresh

namespace Reply

def candidates : Reply → List Candidate
  | ⟨.usersInRange tenant _, .ok users⟩ => users.map fun user => ⟨tenant, user⟩
  | _ => []

end Reply

namespace MinutePass

open Procedure

/-- What a pass asks about a tenant, if the tenant takes part. -/
def rangeQuestion? (minute : MinuteOfDay) (settings : Settings) (tenant : TenantId) :
    Option Question :=
  match Wheel.dueRange (settings.refreshesPerDay tenant).toNat minute with
  | .ok range => some (.usersInRange tenant range)
  | .error _ => none

section Collect

variable {minute : MinuteOfDay} {settings : Settings} {tenant : TenantId}
  {harvest : Harvest} {replies : List Reply}

theorem rangeQuestion?_of_optedOut (optedOut : (settings.refreshesPerDay tenant).toNat = 0) :
    rangeQuestion? minute settings tenant = none := by
  simp [rangeQuestion?, Wheel.dueRange, optedOut]

/-- One tenant: at most one question, and the candidates of its answer. -/
theorem collectTenant_to_done {result : Except WheelFault Harvest}
    (course : Course (collectTenant minute settings tenant harvest) replies
      (.done result)) :
    ∃ after : Harvest, result = .ok after ∧
      replies.map (·.question) = (rangeQuestion? minute settings tenant).toList ∧
      after.candidates = harvest.candidates ++ replies.flatMap Reply.candidates := by
  simp only [collectTenant] at course
  split at course
  next optedOut =>
    simp only [bind_eq, note_bind, Course.report_to_done, pure_eq_done, Course.done_iff,
      done.injEq] at course
    obtain ⟨rfl, rfl⟩ := course
    exact ⟨_, rfl, by simp [rangeQuestion?_of_optedOut optedOut],
      by simp [Harvest.optOut]⟩
  next takesPart =>
    cases due : Wheel.dueRange (settings.refreshesPerDay tenant).toNat minute with
    | error fault => simp [Wheel.dueRange, takesPart] at due
    | ok range =>
        simp only [due, Course.reportAll_to_done] at course
        rw [bind_eq, question_bind, Course.ask_to_done] at course
        obtain ⟨answer, rest, rfl, listed⟩ := course
        cases answer with
        | error failure =>
            simp only [bind_eq, note_bind, Course.report_to_done, pure_eq_done,
              Course.done_iff, done.injEq] at listed
            obtain ⟨rfl, rfl⟩ := listed
            exact ⟨_, rfl, by simp [rangeQuestion?, due],
              by simp [Harvest.failTenant, Reply.candidates]⟩
        | ok users =>
            simp only [bind_eq, note_bind, Course.report_to_done, pure_eq_done,
              Course.done_iff, done.injEq] at listed
            obtain ⟨rfl, rfl⟩ := listed
            exact ⟨_, rfl, by simp [rangeQuestion?, due],
              by simp [Harvest.add, Reply.candidates]⟩

theorem collect_to_done {tenants : List TenantId} {result : Except WheelFault Harvest}
    (course : Course (collect minute settings tenants harvest) replies (.done result)) :
    ∃ after : Harvest, result = .ok after ∧
      replies.map (·.question) = tenants.filterMap (rangeQuestion? minute settings) ∧
      after.candidates = harvest.candidates ++ replies.flatMap Reply.candidates := by
  induction tenants generalizing harvest replies with
  | nil =>
      simp only [collect, pure_eq_done, Course.done_iff, done.injEq] at course
      obtain ⟨rfl, rfl⟩ := course
      exact ⟨harvest, rfl, rfl, by simp⟩
  | cons tenant tenants ih =>
      rw [collect, bind_eq, Course.bind_to_done] at course
      obtain ⟨first, second, between, rfl, one, others⟩ := course
      obtain ⟨harvest, rfl, firstAsked, firstFound⟩ := collectTenant_to_done one
      obtain ⟨after, rfl, othersAsked, othersFound⟩ := ih others
      refine ⟨after, rfl, ?_, ?_⟩
      · rw [List.map_append, firstAsked, othersAsked]
        cases asked : rangeQuestion? minute settings tenant <;> simp [asked]
      · rw [othersFound, firstFound, List.flatMap_append, List.append_assoc]

theorem collect_asksOnly (minute : MinuteOfDay) (settings : Settings)
    (tenants : List TenantId) (harvest : Harvest) :
    AsksOnly (fun question => ∃ tenant range, question = .usersInRange tenant range ∧
        Wheel.dueRange (settings.refreshesPerDay tenant).toNat minute = .ok range)
      (collect minute settings tenants harvest) := by
  have oneTenant (tenant : TenantId) (harvest : Harvest) :
      AsksOnly (fun question => ∃ tenant range, question = .usersInRange tenant range ∧
          Wheel.dueRange (settings.refreshesPerDay tenant).toNat minute = .ok range)
        (collectTenant minute settings tenant harvest) := by
    simp only [collectTenant]
    split
    next => trivial
    next =>
      split
      next => trivial
      next range due =>
        refine AsksOnly.reportAll (AsksOnly.ask ⟨tenant, range, rfl, due⟩ fun answer => ?_)
        cases answer <;> trivial
  induction tenants generalizing harvest with
  | nil => trivial
  | cons tenant tenants ih =>
      refine AsksOnly.bind (oneTenant tenant harvest) fun result => ?_
      cases result with
      | error fault => trivial
      | ok harvest => exact ih harvest

end Collect

section Enqueue

variable {settings : Settings} {queue : List Candidate} {queued rejected : Nat}
  {replies : List Reply}

theorem enqueueAll_to_done {counts : Nat × Nat}
    (course : Course (enqueueAll settings queue queued rejected) replies (.done counts)) :
    replies.map (·.question) = queue.map fun candidate => .enqueue candidate settings := by
  induction queue generalizing queued rejected replies with
  | nil =>
      simp only [enqueueAll, pure_eq_done, Course.done_iff] at course
      simp [course.1]
  | cons candidate queue ih =>
      rw [enqueueAll, bind_eq, question_bind, Course.ask_to_done] at course
      obtain ⟨answer, rest, rfl, onward⟩ := course
      cases answer with
      | ok taken => simpa using ih onward
      | error fault =>
          simp only [bind_eq, note_bind, Course.report_to_done] at onward
          simpa using ih onward

/-- A pass submits candidates of its list under its settings, and nothing else. -/
theorem enqueueAll_to_ask {question : Question}
    {onward : question.Answer → Procedure (Nat × Nat)}
    (course : Course (enqueueAll settings queue queued rejected) replies
      (.ask question onward)) :
    ∃ candidate ∈ queue, question = .enqueue candidate settings := by
  induction queue generalizing queued rejected replies with
  | nil => simp [enqueueAll] at course
  | cons candidate queue ih =>
      rw [enqueueAll, bind_eq, question_bind, Course.ask_to_ask] at course
      rcases course with ⟨-, same⟩ | ⟨answer, rest, rfl, further⟩
      · simp only [ask.injEq] at same
        exact ⟨candidate, by simp, same.1⟩
      · have later : ∃ candidate ∈ queue, question = .enqueue candidate settings := by
          cases answer with
          | ok taken => exact ih further
          | error fault =>
              simp only [bind_eq, note_bind, Course.report_to_ask] at further
              exact ih further
        obtain ⟨found, member, same⟩ := later
        exact ⟨found, by simp [member], same⟩

end Enqueue

section Run

variable {minute : MinuteOfDay} {replies : List Reply}

/-- The answers a pass got before it submitted anything. -/
structure Gathering (minute : MinuteOfDay) (settings : Settings) (replies : List Reply) where
  tenants : List TenantId
  found : List Reply
  enabled : settings.enabled = true
  replies_eq : replies = ⟨.snapshot, settings⟩ :: ⟨.tenants, .ok tenants⟩ :: found
  asked : found.map (·.question) = tenants.filterMap (rangeQuestion? minute settings)

/-- Everything that a pass does until its end, by its outcome. -/
inductive Conduct (minute : MinuteOfDay) (snapshot : Settings) :
    PassOutcome → List Reply → Prop where
  | disabled (off : snapshot.enabled = false) : Conduct minute snapshot .disabled []
  | failed (on : snapshot.enabled = true) (failure : Failure) :
      Conduct minute snapshot .failed [⟨.tenants, .error failure⟩]
  | completed (on : snapshot.enabled = true) (summary : PassSummary)
      (tenants : List TenantId) (found queueing : List Reply)
      (asked : found.map (·.question) = tenants.filterMap (rangeQuestion? minute snapshot))
      (submitted : queueing.map (·.question) =
        (found.flatMap Reply.candidates).map fun candidate => .enqueue candidate snapshot) :
      Conduct minute snapshot (.completed summary)
        (⟨.tenants, .ok tenants⟩ :: (found ++ queueing))

theorem run_conduct {snapshot : Settings} {outcome : PassOutcome}
    (course : Course (run minute) (⟨.snapshot, snapshot⟩ :: replies) (.done outcome)) :
    Conduct minute snapshot outcome replies := by
  rw [run, bind_eq, question_bind, Course.ask_answer_to_done] at course
  split at course
  next on =>
    rw [bind_eq, question_bind, Course.ask_to_done] at course
    obtain ⟨answer, rest, rfl, listed⟩ := course
    cases answer with
    | error failure =>
        simp only [abandon, bind_eq, note_bind, Course.report_to_done, pure_eq_done,
          Course.done_iff, done.injEq] at listed
        obtain ⟨rfl, rfl⟩ := listed
        exact .failed on failure
    | ok tenants =>
        simp only at listed
        rw [bind_eq, Course.bind_to_done] at listed
        obtain ⟨found, later, result, rfl, collected, onward⟩ := listed
        obtain ⟨harvest, rfl, asked, candidates⟩ := collect_to_done collected
        simp only at onward
        rw [bind_eq, Course.bind_to_done] at onward
        obtain ⟨queueing, last, counts, rfl, enqueued, ended⟩ := onward
        simp only [bind_eq, note_bind, Course.report_to_done, pure_eq_done,
          Course.done_iff, done.injEq] at ended
        obtain ⟨rfl, rfl⟩ := ended
        have submitted := enqueueAll_to_done enqueued
        rw [candidates, Harvest.empty, List.nil_append] at submitted
        rw [List.append_nil]
        exact .completed on _ tenants found queueing asked submitted
  next off =>
    simp only [bind_eq, note_bind, Course.report_to_done, pure_eq_done,
      Course.done_iff, done.injEq] at course
    obtain ⟨rfl, rfl⟩ := course
    exact .disabled (by simpa using off)

/-- A pass that was answered to the end was disabled, could not list the tenants,
or submitted exactly the candidates it was told of. -/
theorem run_to_done {outcome : PassOutcome}
    (course : Course (run minute) replies (.done outcome)) :
    ∃ settings : Settings,
      (replies = [⟨.snapshot, settings⟩] ∧ settings.enabled = false) ∨
      (∃ failure, replies = [⟨.snapshot, settings⟩, ⟨.tenants, .error failure⟩]) ∨
      ∃ before queueing, ∃ gathering : Gathering minute settings before,
        replies = before ++ queueing ∧
        queueing.map (·.question) =
          (gathering.found.flatMap Reply.candidates).map
            fun candidate => .enqueue candidate settings := by
  have begun := course
  rw [run, bind_eq, question_bind, Course.ask_to_done] at begun
  obtain ⟨settings, rest, rfl, -⟩ := begun
  refine ⟨settings, ?_⟩
  cases run_conduct course with
  | disabled off => exact Or.inl ⟨rfl, off⟩
  | failed on failure => exact Or.inr (Or.inl ⟨failure, rfl⟩)
  | completed on summary tenants found queueing asked submitted =>
      exact Or.inr (Or.inr ⟨_, queueing, ⟨tenants, found, on, rfl, asked⟩, by simp, submitted⟩)

/-- A pass that submits a candidate was told of it by the tenant's users on this
minute's arc. -/
theorem run_to_enqueue {candidate : Candidate} {settings : Settings}
    {onward : Question.Answer (.enqueue candidate settings) → Procedure PassOutcome}
    (course : Course (run minute) replies (.ask (.enqueue candidate settings) onward)) :
    ∃ before queueing, ∃ gathering : Gathering minute settings before,
      replies = before ++ queueing ∧
        candidate ∈ gathering.found.flatMap Reply.candidates := by
  obtain ⟨snapshot, rest, rfl, begun⟩ := Course.past_question (by simp) course
  simp only at begun
  split at begun
  next enabled =>
    obtain ⟨answer, rest, rfl, listed⟩ := Course.past_question (by simp) begun
    cases answer with
    | error failure => simp [abandon] at listed
    | ok tenants =>
        simp only at listed
        rw [bind_eq, Course.bind_to_ask] at listed
        rcases listed with ⟨resume, collecting, -⟩ | ⟨found, later, result, rfl, collected, further⟩
        · obtain ⟨tenant, range, same, -⟩ :=
            (collect_asksOnly minute snapshot tenants Harvest.empty).allowed collecting
          simp at same
        · obtain ⟨harvest, rfl, asked, candidates⟩ := collect_to_done collected
          simp only at further
          rw [bind_eq, Course.bind_to_ask] at further
          rcases further with ⟨resume, enqueuing, -⟩ | ⟨queueing, last, counts, -, -, ended⟩
          · obtain ⟨other, member, same⟩ := enqueueAll_to_ask enqueuing
            simp only [Question.enqueue.injEq] at same
            obtain ⟨rfl, rfl⟩ := same
            refine ⟨_, later, ⟨tenants, found, enabled, rfl, asked⟩, by simp, ?_⟩
            simpa [candidates, Harvest.empty] using member
          · simp at ended
  next => simp at begun

/-- What a pass may ask by the snapshot it took: nothing where that is disabled,
about a tenant the arc of the tenant's rate, and for a candidate no other settings. -/
def Decides (minute : MinuteOfDay) (snapshot : Settings) : Question → Prop
  | .tenants => snapshot.enabled = true
  | .usersInRange tenant range => snapshot.enabled = true ∧
      Wheel.dueRange (snapshot.refreshesPerDay tenant).toNat minute = .ok range
  | .enqueue _ settings => snapshot.enabled = true ∧ settings = snapshot
  | _ => False

theorem enqueueAll_asksOnly (settings : Settings) (queue : List Candidate)
    (queued rejected : Nat) :
    AsksOnly (fun question => ∃ candidate, question = .enqueue candidate settings)
      (enqueueAll settings queue queued rejected) := by
  induction queue generalizing queued rejected with
  | nil => trivial
  | cons candidate queue ih =>
      refine AsksOnly.ask ⟨candidate, rfl⟩ fun answer => ?_
      cases answer with
      | ok taken => exact ih (queued + 1) rejected
      | error fault => exact ih queued (rejected + 1)

/-- A pass takes one snapshot, which decides everything it asks later. -/
theorem run_asksOnly (minute : MinuteOfDay) :
    ∃ rest : Settings → Procedure PassOutcome, run minute = .ask .snapshot rest ∧
      ∀ snapshot, AsksOnly (Decides minute snapshot) (rest snapshot) := by
  refine ⟨_, rfl, fun snapshot => ?_⟩
  rw [done_bind]
  split
  next enabled =>
    refine AsksOnly.ask enabled fun answer => ?_
    cases answer with
    | error failure => trivial
    | ok tenants =>
        have collecting := collect_asksOnly minute snapshot tenants Harvest.empty
        refine AsksOnly.bind (collecting.mono ?_) fun result => ?_
        · rintro question ⟨tenant, range, rfl, due⟩
          exact ⟨enabled, due⟩
        · cases result with
          | error fault => trivial
          | ok harvest =>
              have enqueuing := enqueueAll_asksOnly snapshot harvest.candidates 0 0
              refine AsksOnly.bind (enqueuing.mono ?_) fun counts => trivial
              rintro question ⟨candidate, rfl⟩
              exact ⟨enabled, rfl⟩
  next => trivial

/-- What a pass was answered after its snapshot was decided by that snapshot. -/
theorem run_decides {point : Procedure PassOutcome} {reply : Reply} {settings : Settings}
    {rest : List Reply}
    (course : Course (run minute) (⟨.snapshot, settings⟩ :: rest) point)
    (member : reply ∈ rest) : Decides minute settings reply.question := by
  obtain ⟨onward, same, only⟩ := run_asksOnly minute
  rw [same, Course.ask_iff] at course
  rcases course with ⟨none, -⟩ | ⟨answer, replies, split, further⟩
  · simp at none
  · simp only [List.cons.injEq, Reply.mk.injEq, heq_eq_eq, true_and] at split
    obtain ⟨rfl, rfl⟩ := split
    obtain ⟨before, after, resume, -, asked⟩ := further.asked_of_mem member
    exact (only settings).allowed asked

theorem run_not_refresh {order : RefreshOrder}
    {onward : Question.Answer (.refresh order) → Procedure PassOutcome} :
    ¬ Course (run minute) replies (.ask (.refresh order) onward) := by
  intro course
  obtain ⟨rest, same, only⟩ := run_asksOnly minute
  rw [same, Course.ask_to_ask] at course
  rcases course with ⟨-, other⟩ | ⟨snapshot, later, -, further⟩
  · simp at other
  · exact (only snapshot).allowed further

/-- Every candidate of a pass was named by a tenant that was listed, as one of
the users on the arc which that tenant's rate puts on this minute. -/
theorem Gathering.selected {settings : Settings} (gathering : Gathering minute settings replies)
    {candidate : Candidate}
    (member : candidate ∈ gathering.found.flatMap Reply.candidates) :
    ∃ range users, candidate.tenantId ∈ gathering.tenants ∧
      Wheel.dueRange (settings.refreshesPerDay candidate.tenantId).toNat minute = .ok range ∧
      ⟨.usersInRange candidate.tenantId range, .ok users⟩ ∈ replies ∧
      candidate.userId ∈ users := by
  obtain ⟨reply, told, named⟩ := List.mem_flatMap.mp member
  obtain ⟨tenant, range, users, rfl, rfl, within⟩ : ∃ tenant range users,
      reply = ⟨.usersInRange tenant range, .ok users⟩ ∧
        candidate.tenantId = tenant ∧ candidate.userId ∈ users := by
    obtain ⟨question, answer⟩ := reply
    cases question with
    | usersInRange tenant range =>
        cases answer with
        | error failure => simp [Reply.candidates] at named
        | ok users =>
            obtain ⟨userId, within, rfl⟩ := List.mem_map.mp named
            exact ⟨tenant, range, users, rfl, rfl, within⟩
    | _ => simp [Reply.candidates] at named
  have asked : Question.usersInRange candidate.tenantId range ∈
      gathering.tenants.filterMap (rangeQuestion? minute settings) :=
    gathering.asked ▸ List.mem_map_of_mem told
  obtain ⟨tenant, listed, due⟩ := List.mem_filterMap.mp asked
  simp only [rangeQuestion?] at due
  split at due
  next range ranged =>
    simp only [Option.some.injEq, Question.usersInRange.injEq] at due
    obtain ⟨rfl, rfl⟩ := due
    exact ⟨range, users, listed, ranged, by rw [gathering.replies_eq]; simp [told], within⟩
  next => simp at due

end Run

end MinutePass

end UnattendedRefresh
