import UnattendedRefresh.Proofs.Eligibility.Rules
import UnattendedRefresh.MinutePass
import UnattendedRefresh.Proofs.Procedure.Course

/-!
# What precedes a refresh order

A refresh job that stands at its bulk refresh has asked for the user, the user's
sites, the time and a credential, each once and in this order, and the order it
is about to place is made of the answers.
-/

namespace UnattendedRefresh

/-- What a refresh may ask once it has its settings. -/
def Question.IsOfRefresh : Question → Prop
  | user _ => True
  | sites _ => True
  | clock => True
  | credential _ _ => True
  | refresh _ => True
  | _ => False

namespace Assessment

theorem eligibleSites_sublist (assessment : Assessment) (sites : List UserSite) :
    (assessment.eligibleSites sites).Sublist sites :=
  List.filter_sublist

theorem exclusion?_of_mem_eligibleSites {assessment : Assessment} {sites : List UserSite}
    {site : UserSite} (member : site ∈ assessment.eligibleSites sites) :
    assessment.exclusion? site = none := by
  have eligible := (List.mem_filter.mp member).2
  cases reason : assessment.exclusion? site with
  | none => rfl
  | some reason => simp [evaluate, reason] at eligible

/-- The rules that hold with and without force. -/
theorem lasting_rules {assessment : Assessment} {site : UserSite}
    (passed : assessment.exclusion? site = none) :
    assessment.settings.isBlacklisted site.provider = false ∧
      (assessment.oneOff = true → site.lastDataFetch = none) := by
  have uncounted := eligible_iff.mp (evaluate_eq_eligible_iff.mpr passed)
  constructor
  · apply Bool.eq_false_iff.mpr
    intro listed
    exact uncounted .blacklisted ⟨isBlacklisted_iff.mp listed, fun _ => rfl⟩
  · intro oneOff
    apply Option.eq_none_iff_forall_ne_some.mpr
    intro last fetched
    exact uncounted .complianceExhausted ⟨⟨oneOff, last, fetched⟩, fun _ => rfl⟩

/-- The rules that hold where no operator insists. -/
theorem unforced_rules {assessment : Assessment} {site : UserSite}
    (unforced : assessment.force = false) (passed : assessment.exclusion? site = none) :
    assessment.gate site = true ∧ assessment.isThrottled site = false ∧
      site.migrating = false := by
  have unheld {reason : Exclusion} (holds : reason.Holds assessment site) : False :=
    eligible_iff.mp (evaluate_eq_eligible_iff.mpr passed) reason ⟨holds, by simp [unforced]⟩
  refine ⟨?_, ?_, ?_⟩
  · exact Bool.of_not_eq_false fun refused => @unheld .actionRequired refused
  · exact Bool.eq_false_iff.mpr fun throttled => unheld (isThrottled_iff.mp throttled)
  · exact Bool.eq_false_iff.mpr fun migrating => @unheld .migrating migrating

end Assessment

namespace Dispatch

variable {gate : Gate} {user : User} {force : Bool} {settings : Settings}
  {replies : List Reply} {order : RefreshOrder}

open Procedure

theorem send_to_refresh {eligible : List UserSite} {excluded : Nat}
    {onward : Question.Answer (.refresh order) →
      Procedure (Except DispatchFault DispatchOutcome)}
    (course : Course (send user eligible excluded force) replies
      (.ask (.refresh order) onward)) :
    ∃ credential,
      replies = [⟨.credential user.tenantId user.id, .ok credential⟩] ∧
        order = ⟨user.id, eligible, user.oneOff, credential, Origin.ofForce force⟩ := by
  obtain ⟨answer, rest, rfl, issued⟩ := Course.past_question (by simp) course
  cases answer with
  | error source => simp at issued
  | ok credential =>
      simp only at issued
      rw [bind_eq, question_bind, Course.ask_to_ask] at issued
      rcases issued with ⟨rfl, same⟩ | ⟨answer, rest, rfl, refreshed⟩
      · simp only [ask.injEq, Question.refresh.injEq] at same
        exact ⟨credential, rfl, same.1⟩
      · cases answer <;> simp at refreshed

theorem sendEligible_to_refresh {sites : List UserSite}
    {onward : Question.Answer (.refresh order) →
      Procedure (Except DispatchFault DispatchOutcome)}
    (course : Course (sendEligible gate user force settings sites) replies
      (.ask (.refresh order) onward)) :
    ∃ (now : Instant) (credential : Credential),
      replies = [⟨.clock, now⟩, ⟨.credential user.tenantId user.id, .ok credential⟩] ∧
        order.sites ≠ [] ∧
        order = ⟨user.id,
          (Assessment.mk settings gate user.oneOff force now).eligibleSites sites,
          user.oneOff, credential, Origin.ofForce force⟩ := by
  obtain ⟨now, rest, rfl, judged⟩ := Course.past_question (by simp) course
  simp only [Course.reportAll_to_ask] at judged
  split at judged
  next => simp at judged
  next someEligible =>
    obtain ⟨credential, rfl, rfl⟩ := send_to_refresh judged
    exact ⟨now, credential, rfl, by simpa using someEligible, rfl⟩

theorem refreshUser_to_refresh
    {onward : Question.Answer (.refresh order) →
      Procedure (Except DispatchFault DispatchOutcome)}
    (course : Course (refreshUser gate user force settings) replies
      (.ask (.refresh order) onward)) :
    ∃ (sites : List UserSite) (now : Instant) (credential : Credential),
      replies =
        [⟨.sites user.id, .ok sites⟩, ⟨.clock, now⟩,
          ⟨.credential user.tenantId user.id, .ok credential⟩] ∧
        order.sites ≠ [] ∧
        order = ⟨user.id,
          (Assessment.mk settings gate user.oneOff force now).eligibleSites sites,
          user.oneOff, credential, Origin.ofForce force⟩ := by
  obtain ⟨answer, rest, rfl, loaded⟩ := Course.past_question (by simp) course
  cases answer with
  | error source => simp at loaded
  | ok sites =>
      simp only at loaded
      split at loaded
      next => simp at loaded
      next =>
        obtain ⟨now, credential, rfl, nonempty, same⟩ := sendEligible_to_refresh loaded
        exact ⟨sites, now, credential, rfl, nonempty, same⟩

theorem refreshUser_asksOnly (gate : Gate) (user : User) (force : Bool)
    (settings : Settings) :
    AsksOnly Question.IsOfRefresh (refreshUser gate user force settings) := by
  refine AsksOnly.ask trivial fun answer => ?_
  cases answer with
  | error failure => trivial
  | ok sites =>
      simp only
      split
      next => trivial
      next =>
        refine AsksOnly.ask trivial fun now => AsksOnly.reportAll ?_
        split
        next => trivial
        next =>
          refine AsksOnly.ask trivial fun answer => ?_
          cases answer with
          | error failure => trivial
          | ok credential =>
              refine AsksOnly.ask trivial fun answer => ?_
              cases answer <;> trivial

end Dispatch

namespace RefreshJob

variable {gate : Gate} {settings : Settings} {replies : List Reply} {order : RefreshOrder}

open Procedure

/-- The answers a job got about its user on the way to its bulk refresh, and the
order made of them. -/
structure Groundwork (gate : Gate) (settings : Settings) (force : Bool) (asked : UserId)
    (replies : List Reply) (order : RefreshOrder) where
  user : User
  sites : List UserSite
  now : Instant
  credential : Credential
  replies_eq : replies =
    [⟨.user asked, .ok (some user)⟩, ⟨.sites user.id, .ok sites⟩, ⟨.clock, now⟩,
      ⟨.credential user.tenantId user.id, .ok credential⟩]
  not_blocked : user.isBlocked = false
  sites_ne_nil : order.sites ≠ []
  order_eq : order = ⟨user.id,
    (Assessment.mk settings gate user.oneOff force now).eligibleSites sites,
    user.oneOff, credential, Origin.ofForce force⟩

theorem scheduled_to_refresh {candidate : Candidate}
    {onward : Question.Answer (.refresh order) → Procedure Unit}
    (course : Course (scheduled gate candidate settings) replies
      (.ask (.refresh order) onward)) :
    Nonempty (Groundwork gate settings false candidate.userId replies order) := by
  obtain ⟨answer, rest, rfl, found⟩ := Course.past_question (by simp) course
  rcases answer with source | _ | user
  · simp [Procedure.note] at found
  · simp [Procedure.note] at found
  simp only at found
  split at found
  next => simp [Procedure.note] at found
  next notBlocked =>
    rw [bind_eq, Course.bind_to_ask] at found
    rcases found with ⟨resume, refreshing, -⟩ | ⟨first, second, result, -, -, refreshed⟩
    · obtain ⟨sites, now, credential, rfl, nonempty, same⟩ :=
        Dispatch.refreshUser_to_refresh refreshing
      exact ⟨user, sites, now, credential, rfl, by simpa using notBlocked, nonempty, same⟩
    · cases result <;> simp [Procedure.note] at refreshed

theorem forced_to_refresh {asked : UserId}
    {onward : Question.Answer (.refresh order) → Procedure Unit}
    (course : Course (forced gate asked) replies (.ask (.refresh order) onward)) :
    ∃ (settings : Settings) (rest : List Reply), replies = ⟨.snapshot, settings⟩ :: rest ∧
      Nonempty (Groundwork gate settings true asked rest order) := by
  obtain ⟨settings, rest, rfl, begun⟩ := Course.past_question (by simp) course
  refine ⟨settings, rest, rfl, ?_⟩
  obtain ⟨answer, rest, rfl, found⟩ := Course.past_question (by simp) begun
  rcases answer with source | _ | user
  · simp [Procedure.note] at found
  · simp [Procedure.note] at found
  simp only at found
  split at found
  next => simp [Procedure.note] at found
  next notBlocked =>
    rw [bind_eq, Course.bind_to_ask] at found
    rcases found with ⟨resume, refreshing, -⟩ | ⟨first, second, result, -, -, refreshed⟩
    · obtain ⟨sites, now, credential, rfl, nonempty, same⟩ :=
        Dispatch.refreshUser_to_refresh refreshing
      exact ⟨user, sites, now, credential, rfl, by simpa using notBlocked, nonempty, same⟩
    · cases result <;> simp [Procedure.note] at refreshed

theorem scheduled_asksOnly (gate : Gate) (candidate : Candidate) (settings : Settings) :
    AsksOnly Question.IsOfRefresh (scheduled gate candidate settings) := by
  refine AsksOnly.ask trivial fun answer => ?_
  rcases answer with failure | _ | user
  · trivial
  · trivial
  · simp only
    split
    next => trivial
    next =>
      refine AsksOnly.bind (Dispatch.refreshUser_asksOnly gate user false settings) fun result => ?_
      cases result <;> trivial

/-- A forced job takes one snapshot before anything else. -/
theorem forced_asksOnly (gate : Gate) (asked : UserId) :
    ∃ rest : Settings → Procedure Unit, forced gate asked = .ask .snapshot rest ∧
      ∀ snapshot, AsksOnly Question.IsOfRefresh (rest snapshot) := by
  refine ⟨_, rfl, fun snapshot => ?_⟩
  rw [done_bind]
  refine AsksOnly.ask trivial fun answer => ?_
  rcases answer with failure | _ | user
  · trivial
  · trivial
  · simp only
    split
    next => trivial
    next =>
      refine AsksOnly.bind (Dispatch.refreshUser_asksOnly gate user true snapshot) fun result => ?_
      cases result <;> trivial

end RefreshJob

end UnattendedRefresh
