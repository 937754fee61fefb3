import UnattendedRefresh.Proofs.Trigger.Errands
import UnattendedRefresh.Proofs.Trigger.Life

/-!
# Entitled refreshes

Every bulk refresh that a run asks for is entitled to by what its own task was
answered before: by the user and the sites that were loaded, by the rules under
one snapshot, by the credential that was issued. An unforced one goes back to a
pass that was told of the user on the minute's arc.

The task's answers are a course of its procedure, so the facts about procedures
carry over to every run; the pass behind a scheduled refresh is found through the
answer that took its candidate into the queue.
-/

namespace UnattendedRefresh

open Procedure

namespace Errand

/-- Whom a refresh is about. -/
def subject? : Errand → Option UserId
  | pass _ => none
  | scheduled candidate _ => some candidate.userId
  | forced userId => some userId

/-- The answers by which a refresh comes to its snapshot. A scheduled one was given
the snapshot of its pass. -/
def opening (snapshot : Settings) : Errand → List Reply
  | forced _ => [⟨.snapshot, snapshot⟩]
  | _ => []

end Errand

/-- How a candidate came to be queued: a pass under this snapshot listed its
tenant, and was told of the user on the tenant's arc of the minute. -/
structure Selection (record : Record) (snapshot : Settings) (candidate : Candidate) where
  pass : Nat
  minute : MinuteOfDay
  tenants : List TenantId
  range : IdRange
  users : List UserId
  errands_eq : record.errands pass = [.pass minute]
  snapshot_taken : ⟨.snapshot, snapshot⟩ ∈ record.answers pass
  snapshot_once : ∀ other, ⟨.snapshot, other⟩ ∈ record.answers pass → other = snapshot
  enabled : snapshot.enabled = true
  tenants_listed : ⟨.tenants, .ok tenants⟩ ∈ record.answers pass
  tenant_mem : candidate.tenantId ∈ tenants
  range_due : Wheel.dueRange (snapshot.refreshesPerDay candidate.tenantId).toNat minute =
    .ok range
  users_listed : ⟨.usersInRange candidate.tenantId range, .ok users⟩ ∈ record.answers pass
  user_mem : candidate.userId ∈ users
  queued : ⟨.enqueue candidate snapshot, .ok ()⟩ ∈ record.answers pass

/-- What entitles a task to a bulk refresh. -/
structure Entitlement (gate : Gate) (record : Record) (number : Nat)
    (order : RefreshOrder) where
  errand : Errand
  snapshot : Settings
  asked : UserId
  user : User
  sites : List UserSite
  now : Instant
  errands_eq : record.errands number = [errand]
  subject_eq : errand.subject? = some asked
  /-- Everything the task was answered. -/
  answers_eq : record.answers number = errand.opening snapshot ++
    [⟨.user asked, .ok (some user)⟩, ⟨.sites user.id, .ok sites⟩, ⟨.clock, now⟩,
      ⟨.credential user.tenantId user.id, .ok order.credential⟩]
  userId_eq : order.userId = user.id
  not_blocked : user.isBlocked = false
  sites_ne_nil : order.sites ≠ []
  sites_sublist : order.sites.Sublist sites
  not_blacklisted : ∀ site ∈ order.sites, snapshot.isBlacklisted site.provider = false
  never_fetched : user.oneOff = true → ∀ site ∈ order.sites, site.lastDataFetch = none
  oneOff_eq : order.oneOff = user.oneOff
  origin_iff : order.origin = .operator ↔ ∃ userId, errand = .forced userId
  /-- Where no operator insists, the candidate was selected and all rules hold. -/
  scheduled : order.origin = .schedule →
    ∃ candidate, errand = .scheduled candidate snapshot ∧
      Nonempty (Selection record snapshot candidate) ∧
      ∀ site ∈ order.sites, gate site = true ∧ site.migrating = false ∧
        ∀ last, site.lastDataFetch = some last → snapshot.minInterval ≤ now.since last

namespace Trigger

variable {gate : Gate} {trigger : Trigger} {record : Record} {number : Nat}

/-- A candidate that was taken into the queue was selected by the pass that
submitted it. -/
theorem Chronicle.selection (chronicle : Chronicle gate trigger record)
    {candidate : Candidate} {snapshot : Settings} {pass : Nat}
    (queued : ⟨.enqueue candidate snapshot, .ok ()⟩ ∈ record.answers pass) :
    Nonempty (Selection record snapshot candidate) := by
  obtain ⟨errand, rest, begun, course⟩ := (chronicle.lives pass).of_answer queued
  obtain ⟨before, after, resume, -, asked⟩ := course.asked_of_mem queued
  obtain ⟨minute, rfl⟩ := Errand.pass_of_enqueue asked
  obtain ⟨inner, within⟩ := Errand.pass_course course
  obtain ⟨before, after, resume, split, asked⟩ := within.asked_of_mem queued
  obtain ⟨earlier, queueing, gathering, rfl, member⟩ := MinutePass.run_to_enqueue asked
  obtain ⟨range, users, tenant_mem, range_due, listed, user_mem⟩ := gathering.selected member
  have answers : record.answers pass = ⟨.snapshot, snapshot⟩ :: ⟨.tenants, .ok gathering.tenants⟩ ::
      (gathering.found ++ (queueing ++ ⟨.enqueue candidate snapshot, .ok ()⟩ :: after)) := by
    rw [split]
    simpa using congrArg
      (· ++ queueing ++ ⟨.enqueue candidate snapshot, .ok ()⟩ :: after) gathering.replies_eq
  refine ⟨pass, minute, gathering.tenants, range, users, begun, by simp [answers],
    fun other taken => ?_, gathering.enabled, by simp [answers], tenant_mem, range_due,
    by simp [split, listed], user_mem, queued⟩
  rw [answers] at taken within
  rcases List.mem_cons.mp taken with same | later
  · simpa using same
  · exact absurd (MinutePass.run_decides within later) id

end Trigger

section Groundwork

variable {gate : Gate} {record : Record} {number : Nat} {order : RefreshOrder}
  {snapshot : Settings} {force : Bool} {asked : UserId} {replies : List Reply}

namespace RefreshJob.Groundwork

theorem rules (groundwork : Groundwork gate snapshot force asked replies order)
    {site : UserSite} (member : site ∈ order.sites) :
    (Assessment.mk snapshot gate groundwork.user.oneOff force groundwork.now).exclusion? site =
      none := by
  have sites_eq := congrArg RefreshOrder.sites groundwork.order_eq
  exact Assessment.exclusion?_of_mem_eligibleSites (sites_eq ▸ member)

/-- The rules that an operator may waive. -/
theorem unforced_rules (groundwork : Groundwork gate snapshot false asked replies order)
    {site : UserSite} (member : site ∈ order.sites) :
    gate site = true ∧ site.migrating = false ∧
      ∀ last, site.lastDataFetch = some last →
        snapshot.minInterval ≤ groundwork.now.since last := by
  obtain ⟨passed, unthrottled, settled⟩ := Assessment.unforced_rules rfl (groundwork.rules member)
  refine ⟨passed, settled, fun last fetched => ?_⟩
  simpa [Assessment.isThrottled, fetched] using unthrottled

theorem origin_iff (groundwork : Groundwork gate snapshot force asked replies order) :
    order.origin = .operator ↔ force = true := by
  rw [congrArg RefreshOrder.origin groundwork.order_eq]
  cases force <;> simp [Origin.ofForce]

/-- The groundwork of a task's own refresh entitles to it. -/
def entitlement (groundwork : Groundwork gate snapshot force asked replies order)
    {errand : Errand} (errands_eq : record.errands number = [errand])
    (subject_eq : errand.subject? = some asked)
    (answers_eq : record.answers number = errand.opening snapshot ++ replies)
    (forced_iff : force = true ↔ ∃ userId, errand = .forced userId)
    (selected : force = false → ∃ candidate, errand = .scheduled candidate snapshot ∧
      Nonempty (Selection record snapshot candidate)) :
    Entitlement gate record number order where
  errand := errand
  snapshot := snapshot
  asked := asked
  user := groundwork.user
  sites := groundwork.sites
  now := groundwork.now
  errands_eq := errands_eq
  subject_eq := subject_eq
  answers_eq := by
    have credential_eq : order.credential = groundwork.credential :=
      congrArg RefreshOrder.credential groundwork.order_eq
    rw [answers_eq, credential_eq]
    exact congrArg (errand.opening snapshot ++ ·) groundwork.replies_eq
  userId_eq := congrArg RefreshOrder.userId groundwork.order_eq
  not_blocked := groundwork.not_blocked
  sites_ne_nil := groundwork.sites_ne_nil
  sites_sublist := by
    have sites_eq := congrArg RefreshOrder.sites groundwork.order_eq
    exact sites_eq ▸ Assessment.eligibleSites_sublist _ _
  not_blacklisted site member := (Assessment.lasting_rules (groundwork.rules member)).1
  never_fetched oneOff site member :=
    (Assessment.lasting_rules (groundwork.rules member)).2 oneOff
  oneOff_eq := congrArg RefreshOrder.oneOff groundwork.order_eq
  origin_iff := groundwork.origin_iff.trans forced_iff
  scheduled origin := by
    cases force with
    | true => simp [groundwork.origin_iff.mpr rfl] at origin
    | false =>
        obtain ⟨candidate, scheduled, selection⟩ := selected rfl
        exact ⟨candidate, scheduled, selection, fun site member =>
          groundwork.unforced_rules member⟩

end RefreshJob.Groundwork

end Groundwork

namespace Trigger

variable {gate : Gate} {trigger : Trigger} {record : Record} {number : Nat}
  {order : RefreshOrder}

/-- A task that stands at a bulk refresh is entitled to it. -/
theorem Chronicle.entitlement (chronicle : Chronicle gate trigger record) {errand : Errand}
    {onward : Question.Answer (.refresh order) → Procedure Outcome}
    (stood : trigger.standing number = some (errand, .ask (.refresh order) onward)) :
    Nonempty (Entitlement gate record number order) := by
  obtain ⟨begun, -, course⟩ := chronicle.underWay stood
  rcases Errand.groundwork_of_refresh course with
    ⟨candidate, settings, rfl, ⟨groundwork⟩⟩ | ⟨userId, settings, rest, rfl, answers, ⟨groundwork⟩⟩
  · obtain ⟨pass, queued⟩ := chronicle.queued number candidate settings (by simp [begun])
    exact ⟨groundwork.entitlement begun rfl rfl (by simp)
      fun _ => ⟨candidate, rfl, chronicle.selection queued⟩⟩
  · exact ⟨groundwork.entitlement begun rfl (by rw [answers]; rfl) (by simp) (by simp)⟩

/-- Every bulk refresh of every run is entitled to at the moment it is asked for. -/
theorem refresh_entitled (gate : Gate) (settings : Settings) (sizes : PoolSizes)
    (moves : List Move) {before later : Record}
    (called : ((create gate settings sizes).run moves).2 =
      before ++ .called number (.refresh order) :: later) :
    Nonempty (Entitlement gate before number order) := by
  obtain ⟨earlier, move, first, last, rfl, told⟩ := run_eq_append_cons called
  have member : .called number (.refresh order) ∈
      (((create gate settings sizes).run earlier).1.step move).2 := by
    simp [told]
  obtain ⟨alone, errand, onward, stood⟩ := standing_of_called member
  have none : first = [] := by
    rw [alone] at told
    cases first with
    | nil => rfl
    | cons effect effects => simp at told
  rw [none, List.append_nil]
  exact (chronicle_run gate settings sizes earlier).entitlement stood

section Midnight

/-- A user who may be fetched once, ever. -/
def newcomer : User := ⟨Identifier.ofNat 7, Identifier.ofNat 1, .active, true⟩

/-- The second site has been fetched already. -/
def newcomerSites : List UserSite :=
  [⟨Identifier.ofNat 10, newcomer.id, "bank", none, false, .proceed⟩,
    ⟨Identifier.ofNat 11, newcomer.id, "bank", some ⟨0, 0⟩, false, .proceed⟩]

def newcomerOrder : RefreshOrder :=
  ⟨newcomer.id, newcomerSites.take 1, true, ⟨"token"⟩, .schedule⟩

/-- A pass at midnight selects the user, and the refresh comes to its order. -/
def midnightMoves : List Move :=
  [.triggerPass ⟨0, by decide⟩, .start .pass 0, .advance 0,
    .call 0, .answer 0 ⟨.tenants, .ok [newcomer.tenantId]⟩,
    .call 0, .answer 0 ⟨.usersInRange newcomer.tenantId (Wheel.span 0 4), .ok [newcomer.id]⟩,
    .advance 0, .advance 0, .start .dispatch 1,
    .call 1, .answer 1 ⟨.user newcomer.id, .ok (some newcomer)⟩,
    .call 1, .answer 1 ⟨.sites newcomer.id, .ok newcomerSites⟩,
    .call 1, .answer 1 ⟨.clock, ⟨0, 0⟩⟩, .advance 1,
    .call 1, .answer 1 ⟨.credential newcomer.tenantId newcomer.id, .ok ⟨"token"⟩⟩,
    .call 1]

def midnightRecord : Record :=
  ((create Gate.neededAction .default .default).run midnightMoves).2

/-- The order is the last effect on the record. -/
theorem refresh_entitled_at_midnight :
    midnightRecord = midnightRecord.dropLast ++ .called 1 (.refresh newcomerOrder) :: [] ∧
      Nonempty (Entitlement Gate.neededAction midnightRecord.dropLast 1 newcomerOrder) :=
  have called : midnightRecord =
      midnightRecord.dropLast ++ .called 1 (.refresh newcomerOrder) :: [] := by rfl
  ⟨called, refresh_entitled Gate.neededAction .default .default midnightMoves called⟩

end Midnight

end Trigger

end UnattendedRefresh
