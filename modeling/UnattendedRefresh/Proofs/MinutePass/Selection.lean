import UnattendedRefresh.Proofs.MinutePass.Shares

/-!
# The selection of a pass

A store lists the tenants in some order and answers for each of them or fails.
The pass goes on past the tenants that fail and submits what the others named, so
its selection is a fold over the tenants and its summary counts what the fold met.
-/

namespace UnattendedRefresh

namespace Question

/-- The candidate that the question submits. -/
def submitted? : Question → Option Candidate
  | enqueue candidate _ => some candidate
  | _ => none

end Question

/-- What the tables tell a pass: the tenants, in the order in which they come, and
of each tenant the users on an arc, or a failure. -/
structure Store where
  tenants : Except Failure (List TenantId)
  usersInRange : TenantId → IdRange → Except Failure (List UserId)

/-- What one tenant comes to in a pass. -/
inductive Share where
  | optedOut
  | failed
  | found (users : List UserId)
  deriving DecidableEq

namespace Share

def candidates (tenant : TenantId) : Share → List Candidate
  | found users => users.map fun user => ⟨tenant, user⟩
  | _ => []

def isFound : Share → Bool
  | found _ => true
  | _ => false

end Share

namespace Store

/-- The answer of the tables to a question about them. -/
def Answers (store : Store) : Reply → Prop
  | ⟨.tenants, answer⟩ => answer = store.tenants
  | ⟨.usersInRange tenant range, answer⟩ => answer = store.usersInRange tenant range
  | _ => True

variable (store : Store) (minute : MinuteOfDay) (settings : Settings) (tenant : TenantId)

def share : Share :=
  match Wheel.dueRange (settings.refreshesPerDay tenant).toNat minute with
  | .error _ => .optedOut
  | .ok range =>
    match store.usersInRange tenant range with
    | .ok users => .found users
    | .error _ => .failed

def candidates : List Candidate :=
  (store.share minute settings tenant).candidates tenant

/-- The rate is zero exactly where there is no arc. -/
theorem share_eq_optedOut_iff :
    store.share minute settings tenant = .optedOut ↔
      (settings.refreshesPerDay tenant).toNat = 0 := by
  rw [← Wheel.dueRange_error_iff _ minute, share]
  split
  next fault due => simp [due]
  next range due =>
    split <;> simp [due]

theorem share_eq_found_iff {users : List UserId} :
    store.share minute settings tenant = .found users ↔
      ∃ range, Wheel.dueRange (settings.refreshesPerDay tenant).toNat minute = .ok range ∧
        store.usersInRange tenant range = .ok users := by
  rw [share]
  split
  next fault due => simp [due]
  next range due =>
    split
    next found answer => simp [due, answer]
    next failure answer => simp [due, answer]

theorem mem_candidates_iff {candidate : Candidate} :
    candidate ∈ store.candidates minute settings tenant ↔
      candidate.tenantId = tenant ∧ ∃ range users,
        Wheel.dueRange (settings.refreshesPerDay tenant).toNat minute = .ok range ∧
          store.usersInRange tenant range = .ok users ∧ candidate.userId ∈ users := by
  constructor
  · intro member
    cases share_eq : store.share minute settings tenant with
    | optedOut => simp [candidates, share_eq, Share.candidates] at member
    | failed => simp [candidates, share_eq, Share.candidates] at member
    | found users =>
        obtain ⟨range, due, answer⟩ := (store.share_eq_found_iff minute settings tenant).mp share_eq
        rw [candidates, share_eq] at member
        obtain ⟨user, within, rfl⟩ := List.mem_map.mp member
        exact ⟨rfl, range, users, due, answer, within⟩
  · rintro ⟨rfl, range, users, due, answer, within⟩
    have share_eq :=
      (store.share_eq_found_iff minute settings candidate.tenantId).mpr ⟨range, due, answer⟩
    rw [candidates, share_eq]
    exact List.mem_map.mpr ⟨candidate.userId, within, rfl⟩

/-- The tables list nobody twice. -/
def Distinct : Prop :=
  ∀ tenant range users, store.usersInRange tenant range = .ok users → users.Nodup

/-- The tables list every user under one tenant. -/
def Exclusive : Prop :=
  ∀ tenant range users other otherRange others user,
    store.usersInRange tenant range = .ok users →
      store.usersInRange other otherRange = .ok others →
        user ∈ users → user ∈ others → tenant = other

theorem candidates_eq_map {users : List UserId}
    (found : store.share minute settings tenant = .found users) :
    store.candidates minute settings tenant = users.map fun user => ⟨tenant, user⟩ := by
  rw [candidates, found]
  rfl

variable {store}

theorem nodup_candidates (distinct : store.Distinct) :
    (store.candidates minute settings tenant).Nodup := by
  cases share_eq : store.share minute settings tenant with
  | optedOut => simp [candidates, share_eq, Share.candidates]
  | failed => simp [candidates, share_eq, Share.candidates]
  | found users =>
      obtain ⟨range, -, answer⟩ := (store.share_eq_found_iff minute settings tenant).mp share_eq
      rw [store.candidates_eq_map minute settings tenant share_eq]
      refine (distinct tenant range users answer).map ?_
      intro first second equal
      simpa using equal

/-- Only the answers about users matter for what a tenant comes to. -/
theorem share_congr {other : Store} (same : other.usersInRange = store.usersInRange) :
    other.share minute settings = store.share minute settings := by
  funext tenant
  rw [share, share, same]

end Store

namespace Reply

/-- The candidates that the answered questions submitted, in turn. -/
def submissions (replies : List Reply) : List Candidate :=
  (replies.map (·.question)).filterMap Question.submitted?

@[simp]
theorem submissions_nil : submissions [] = [] :=
  rfl

theorem submissions_append (replies more : List Reply) :
    submissions (replies ++ more) = submissions replies ++ submissions more := by
  simp [submissions]

/-- The dispatch pool has taken the candidate. -/
def isTaken : Reply → Bool
  | ⟨.enqueue _ _, .ok _⟩ => true
  | _ => false

/-- The dispatch pool has refused the candidate. -/
def isTurnedAway : Reply → Bool
  | ⟨.enqueue _ _, .error _⟩ => true
  | _ => false

/-- Where nothing was submitted, there is no verdict. -/
theorem countP_verdicts {replies : List Reply} (none : submissions replies = []) :
    replies.countP isTaken = 0 ∧ replies.countP isTurnedAway = 0 := by
  rw [submissions, List.filterMap_map, List.filterMap_eq_nil_iff] at none
  have other (reply : Reply) (member : reply ∈ replies) :
      reply.isTaken = false ∧ reply.isTurnedAway = false := by
    have submitsNothing := none reply member
    obtain ⟨question, answer⟩ := reply
    cases question with
    | enqueue candidate settings => simp [Question.submitted?] at submitsNothing
    | _ => exact ⟨rfl, rfl⟩
  simp only [List.countP_eq_zero]
  exact ⟨fun reply member => by simp [other reply member],
    fun reply member => by simp [other reply member]⟩

theorem candidates_eq_nil {reply : Reply}
    (other : ∀ tenant range, reply.question ≠ .usersInRange tenant range) :
    reply.candidates = [] := by
  obtain ⟨question, answer⟩ := reply
  cases question with
  | usersInRange tenant range => exact absurd rfl (other tenant range)
  | _ => rfl

end Reply

namespace MinutePass

open Procedure

variable {minute : MinuteOfDay} {settings : Settings} {replies : List Reply}

section Submissions

theorem submissions_of_ranges {tenants : List TenantId}
    (asked : replies.map (·.question) = tenants.filterMap (rangeQuestion? minute settings)) :
    Reply.submissions replies = [] := by
  rw [Reply.submissions, asked, List.filterMap_filterMap, List.filterMap_eq_nil_iff]
  intro tenant _
  simp only [rangeQuestion?]
  split <;> rfl

theorem submissions_of_queue {queue : List Candidate}
    (asked : replies.map (·.question) = queue.map fun candidate => .enqueue candidate settings) :
    Reply.submissions replies = queue := by
  rw [Reply.submissions, asked, List.filterMap_map]
  exact List.filterMap_some

theorem candidates_of_queue {queue : List Candidate}
    (asked : replies.map (·.question) = queue.map fun candidate => .enqueue candidate settings) :
    replies.flatMap Reply.candidates = [] := by
  rw [List.flatMap_eq_nil_iff]
  intro reply member
  have question : reply.question ∈ queue.map fun candidate => .enqueue candidate settings :=
    asked ▸ List.mem_map_of_mem member
  obtain ⟨candidate, -, same⟩ := List.mem_map.mp question
  exact Reply.candidates_eq_nil (by simp [← same])

/-- A pass that was answered to the end has submitted every candidate it was told
of, once for each time, and no other. -/
theorem run_submissions {outcome : PassOutcome}
    (course : Course (run minute) replies (.done outcome)) :
    Reply.submissions replies = replies.flatMap Reply.candidates := by
  obtain ⟨settings, ended⟩ := run_to_done course
  rcases ended with ⟨rfl, -⟩ | ⟨failure, rfl⟩ | ⟨before, queueing, gathering, rfl, submitted⟩
  · rfl
  · rfl
  · have gathered : Reply.submissions before = [] := by
      have none := submissions_of_ranges gathering.asked
      simpa [gathering.replies_eq, Reply.submissions, Question.submitted?] using none
    have told : before.flatMap Reply.candidates =
        gathering.found.flatMap Reply.candidates := by
      simp [gathering.replies_eq, Reply.candidates]
    rw [Reply.submissions_append, gathered, submissions_of_queue submitted,
      List.flatMap_append, told, candidates_of_queue submitted]
    simp

end Submissions

section Harvest

variable {store : Store} {tenant : TenantId} {harvest : Harvest}

/-- A tenant's share, brought in. -/
def Harvest.gather (harvest : Harvest) (tenant : TenantId) : Share → Harvest
  | .optedOut => harvest.optOut
  | .failed => harvest.failTenant
  | .found users => harvest.add tenant users

/-- Everything the tenants come to, one after another. -/
def yield (store : Store) (minute : MinuteOfDay) (settings : Settings)
    (tenants : List TenantId) (harvest : Harvest) : Harvest :=
  tenants.foldl (fun harvest tenant =>
    harvest.gather tenant (store.share minute settings tenant)) harvest

theorem collectTenant_answered {result : Except WheelFault Harvest}
    (course : Course (collectTenant minute settings tenant harvest) replies (.done result))
    (truthful : ∀ reply ∈ replies, store.Answers reply) :
    result = .ok (harvest.gather tenant (store.share minute settings tenant)) := by
  simp only [collectTenant] at course
  split at course
  next optedOut =>
    have share_eq := (store.share_eq_optedOut_iff minute settings tenant).mpr optedOut
    simp only [bind_eq, note_bind, Course.report_to_done, pure_eq_done, Course.done_iff,
      done.injEq] at course
    rw [share_eq, course.2, Harvest.gather]
  next takesPart =>
    cases due : Wheel.dueRange (settings.refreshesPerDay tenant).toNat minute with
    | error fault => simp [Wheel.dueRange, takesPart] at due
    | ok range =>
        simp only [due, Course.reportAll_to_done] at course
        rw [bind_eq, question_bind, Course.ask_to_done] at course
        obtain ⟨answer, rest, rfl, listed⟩ := course
        have told : answer = store.usersInRange tenant range :=
          truthful ⟨.usersInRange tenant range, answer⟩ (by simp)
        cases answer with
        | error failure =>
            simp only [bind_eq, note_bind, Course.report_to_done, pure_eq_done,
              Course.done_iff, done.injEq] at listed
            simp [Store.share, due, ← told, listed.2, Harvest.gather]
        | ok users =>
            simp only [bind_eq, note_bind, Course.report_to_done, pure_eq_done,
              Course.done_iff, done.injEq] at listed
            simp [Store.share, due, ← told, listed.2, Harvest.gather]

theorem collect_answered {tenants : List TenantId} {result : Except WheelFault Harvest}
    (course : Course (collect minute settings tenants harvest) replies (.done result))
    (truthful : ∀ reply ∈ replies, store.Answers reply) :
    result = .ok (yield store minute settings tenants harvest) := by
  induction tenants generalizing harvest replies with
  | nil =>
      simp only [collect, pure_eq_done, Course.done_iff, done.injEq] at course
      exact course.2
  | cons tenant tenants ih =>
      rw [collect, bind_eq, Course.bind_to_done] at course
      obtain ⟨first, second, between, rfl, one, others⟩ := course
      obtain rfl := collectTenant_answered one fun reply within => truthful reply (by simp [within])
      exact ih others fun reply within => truthful reply (by simp [within])

theorem yield_eq (tenants : List TenantId) (harvest : Harvest) :
    yield store minute settings tenants harvest =
      { optedOut := harvest.optedOut +
          tenants.countP fun tenant => store.share minute settings tenant = .optedOut
        failedTenants := harvest.failedTenants +
          tenants.countP fun tenant => store.share minute settings tenant = .failed
        candidates := harvest.candidates ++
          tenants.flatMap (store.candidates minute settings) } := by
  induction tenants generalizing harvest with
  | nil => simp [yield]
  | cons tenant tenants ih =>
      rw [yield, List.foldl_cons, ← yield, ih, List.countP_cons, List.countP_cons,
        List.flatMap_cons, Store.candidates]
      cases store.share minute settings tenant with
      | optedOut => simp [Harvest.gather, Harvest.optOut, Share.candidates, Nat.add_assoc,
          Nat.add_comm 1]
      | failed => simp [Harvest.gather, Harvest.failTenant, Share.candidates, Nat.add_assoc,
          Nat.add_comm 1]
      | found users => simp [Harvest.gather, Harvest.add, Share.candidates]

end Harvest

section Verdicts

variable {queue : List Candidate} {queued rejected : Nat}

/-- Every submission is counted by the verdict on it. -/
theorem enqueueAll_counts {counts : Nat × Nat}
    (course : Course (enqueueAll settings queue queued rejected) replies (.done counts)) :
    counts = (queued + replies.countP Reply.isTaken,
        rejected + replies.countP Reply.isTurnedAway) ∧
      queue.length = replies.countP Reply.isTaken + replies.countP Reply.isTurnedAway := by
  induction queue generalizing queued rejected replies with
  | nil =>
      simp only [enqueueAll, pure_eq_done, Course.done_iff, done.injEq] at course
      obtain ⟨rfl, rfl⟩ := course
      simp
  | cons candidate queue ih =>
      rw [enqueueAll, bind_eq, question_bind, Course.ask_to_done] at course
      obtain ⟨answer, rest, rfl, onward⟩ := course
      cases answer with
      | ok taken =>
          obtain ⟨rfl, length_eq⟩ := ih onward
          refine ⟨?_, ?_⟩
          · simp [List.countP_cons, Reply.isTaken, Reply.isTurnedAway, Nat.add_assoc,
              Nat.add_comm 1]
          · simp [List.countP_cons, Reply.isTaken, Reply.isTurnedAway, length_eq,
              Nat.add_right_comm]
      | error fault =>
          simp only [bind_eq, note_bind, Course.report_to_done] at onward
          obtain ⟨rfl, length_eq⟩ := ih onward
          refine ⟨?_, ?_⟩
          · simp [List.countP_cons, Reply.isTaken, Reply.isTurnedAway, Nat.add_assoc,
              Nat.add_comm 1]
          · simp [List.countP_cons, Reply.isTaken, Reply.isTurnedAway, length_eq, Nat.add_assoc]

end Verdicts

end MinutePass

end UnattendedRefresh
