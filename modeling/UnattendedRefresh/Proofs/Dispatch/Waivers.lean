import Mathlib.Data.List.Basic
import UnattendedRefresh.Proofs.Dispatch.Conclusions
import UnattendedRefresh.Proofs.Procedure.Parallel

/-!
# What force waives

An operator's force leaves two rules, so of a site only its provider and whether it was
ever fetched are looked at, and of the settings only the blacklist. Two forced refreshes
that differ in nothing else call for the same. A refresh on schedule keeps these two
rules among others and sends no site that the operator would not.
-/

namespace UnattendedRefresh

open Procedure

/-- What force leaves of a site. -/
structure Facet where
  id : SiteId
  provider : String
  fetched : Bool

def UserSite.facet (site : UserSite) : Facet :=
  ⟨site.id, site.provider, site.lastDataFetch.isSome⟩

/-- A call as the collaborator sees it; of the sites to refresh it is told the ids. -/
inductive Call where
  | plain (question : Question)
  | refresh (userId : UserId) (sites : List SiteId) (oneOff : Bool) (credential : Credential)
      (origin : Origin)

/-- The call for a question, unless the task answers it without a collaborator. -/
def Question.call? : Question → Option Call
  | snapshot => none
  | clock => none
  | enqueue _ _ => none
  | refresh order => some (.refresh order.userId (order.sites.map (·.id)) order.oneOff
      order.credential order.origin)
  | question => some (.plain question)

def Question.isRefresh : Question → Bool
  | refresh _ => true
  | _ => false

/-- Two answers differ in nothing but what force waives. -/
def Waived : Reply → Reply → Prop
  | ⟨.snapshot, settings⟩, ⟨.snapshot, other⟩ =>
    ∀ provider, settings.isBlacklisted provider = other.isBlacklisted provider
  | ⟨.user _, answer⟩, ⟨.user _, given⟩ => answer.toOption = given.toOption
  | ⟨.sites _, answer⟩, ⟨.sites _, given⟩ =>
    answer.toOption.map (List.map UserSite.facet) = given.toOption.map (List.map UserSite.facet)
  | ⟨.credential _ _, answer⟩, ⟨.credential _ _, given⟩ => answer.toOption = given.toOption
  | _, _ => True

namespace Assessment

variable {assessment other : Assessment} {sites others : List UserSite}

/-- The two rules that stay. -/
def lets (assessment : Assessment) (facet : Facet) : Bool :=
  ! assessment.settings.isBlacklisted facet.provider && ! (assessment.oneOff && facet.fetched)

theorem lets_facet {site : UserSite} :
    assessment.lets site.facet = true ↔
      assessment.settings.isBlacklisted site.provider = false ∧
        (assessment.oneOff = true → site.lastDataFetch = none) := by
  cases once : assessment.oneOff <;> simp [lets, UserSite.facet, once]

/-- Whatever is sent passes the two rules. -/
theorem lets_of_mem_eligibleSites {site : UserSite}
    (member : site ∈ assessment.eligibleSites sites) : assessment.lets site.facet = true :=
  lets_facet.mpr (lasting_rules (exclusion?_of_mem_eligibleSites member))

/-- With force there are no other rules. -/
theorem eligibleSites_of_force (force : assessment.force = true) (sites : List UserSite) :
    assessment.eligibleSites sites = sites.filter fun site => assessment.lets site.facet := by
  refine List.filter_congr fun site _ => ?_
  by_cases lasting : assessment.lets site.facet = true
  · obtain ⟨listed, fetched⟩ := lets_facet.mp lasting
    cases once : assessment.oneOff with
    | false => simp [evaluate, exclusion?, lasting, listed, once, force]
    | true => simp [evaluate, exclusion?, lasting, listed, fetched once, force]
  · have excluded : site ∉ assessment.eligibleSites [site] :=
      fun member => lasting (lets_of_mem_eligibleSites member)
    simpa [eligibleSites, lasting] using excluded

theorem facets_of_force (force : assessment.force = true) (sites : List UserSite) :
    (assessment.eligibleSites sites).map UserSite.facet =
      (sites.map UserSite.facet).filter assessment.lets := by
  rw [eligibleSites_of_force force, List.filter_map]
  rfl

theorem facets_sublist (assessment : Assessment) (sites : List UserSite) :
    ((assessment.eligibleSites sites).map UserSite.facet).Sublist
      ((sites.map UserSite.facet).filter assessment.lets) := by
  have passed : ((assessment.eligibleSites sites).map UserSite.facet).filter assessment.lets =
      (assessment.eligibleSites sites).map UserSite.facet := by
    refine List.filter_eq_self.mpr fun facet member => ?_
    obtain ⟨site, eligible, rfl⟩ := List.mem_map.mp member
    exact lets_of_mem_eligibleSites eligible
  rw [← passed]
  exact ((assessment.eligibleSites_sublist sites).map _).filter _

theorem lets_congr
    (same : ∀ provider, assessment.settings.isBlacklisted provider =
      other.settings.isBlacklisted provider) (once : assessment.oneOff = other.oneOff) :
    assessment.lets = other.lets := by
  funext facet
  simp [lets, same, once]

end Assessment

namespace Dispatch

variable {gate gate' : Gate} {user : User} {settings settings' : Settings}

/-- A bulk refresh in force of sites of the same facets looks the same. -/
theorem send_parallel {eligible eligible' : List UserSite}
    (same : eligible.map UserSite.facet = eligible'.map UserSite.facet) (excluded excluded' : Nat) :
    Parallel Question.call? Waived (send user eligible excluded true)
      (send user eligible' excluded' true) := by
  have ids : eligible.map (·.id) = eligible'.map (·.id) := by
    have projected := congrArg (List.map Facet.id) same
    rwa [List.map_map, List.map_map] at projected
  refine Parallel.ask rfl fun answer given like => ?_
  cases answer with
  | error source =>
      cases given with
      | error => exact .done _ _
      | ok => cases like
  | ok credential =>
      cases given with
      | error => cases like
      | ok given =>
          obtain rfl : credential = given := Option.some.inj like
          refine Parallel.ask (by simp [Question.call?, ids]) fun sent sent' _ => ?_
          refine .of_silent ?_ ?_
          · cases sent <;> trivial
          · cases sent' <;> trivial

theorem isEmpty_of_facets {sites sites' : List UserSite}
    (same : sites.map UserSite.facet = sites'.map UserSite.facet) :
    sites.isEmpty = sites'.isEmpty := by
  rw [← List.isEmpty_map, same, List.isEmpty_map]

theorem sendEligible_parallel {sites sites' : List UserSite}
    (listed : ∀ provider, settings.isBlacklisted provider = settings'.isBlacklisted provider)
    (same : sites.map UserSite.facet = sites'.map UserSite.facet) :
    Parallel Question.call? Waived (sendEligible gate user true settings sites)
      (sendEligible gate' user true settings' sites') := by
  refine Parallel.ask rfl fun now now' _ => Parallel.reportAll ?_
  have eligible :
      ((Assessment.mk settings gate user.oneOff true now).eligibleSites sites).map UserSite.facet =
        ((Assessment.mk settings' gate' user.oneOff true now').eligibleSites sites').map
          UserSite.facet := by
    have rules : (Assessment.mk settings gate user.oneOff true now).lets =
        (Assessment.mk settings' gate' user.oneOff true now').lets :=
      Assessment.lets_congr listed rfl
    rw [Assessment.facets_of_force rfl, Assessment.facets_of_force rfl, same, rules]
  rw [isEmpty_of_facets eligible]
  split
  next => exact .of_silent trivial trivial
  next => exact send_parallel eligible _ _

theorem refreshUser_parallel
    (listed : ∀ provider, settings.isBlacklisted provider = settings'.isBlacklisted provider) :
    Parallel Question.call? Waived (refreshUser gate user true settings)
      (refreshUser gate' user true settings') := by
  refine Parallel.ask rfl fun answer given like => ?_
  cases answer with
  | error source =>
      cases given with
      | error => exact .done _ _
      | ok => cases like
  | ok sites =>
      cases given with
      | error => cases like
      | ok sites' =>
          have same : sites.map UserSite.facet = sites'.map UserSite.facet :=
            Option.some.inj like
          simp only [done_bind, isEmpty_of_facets same]
          split
          next => exact .of_silent trivial trivial
          next => exact sendEligible_parallel listed same

end Dispatch

namespace RefreshJob

variable {gate gate' : Gate} {settings settings' : Settings} {userId : UserId}

/-- Two forced refreshes of one user look the same, whatever the gates, as long as their
answers differ in nothing but what force waives. -/
theorem forced_parallel (gate gate' : Gate) (userId : UserId) :
    Parallel Question.call? Waived (forced gate userId) (forced gate' userId) := by
  refine Parallel.ask rfl fun settings settings' listed => ?_
  refine Parallel.ask rfl fun answer given like => ?_
  rcases answer with source | _ | user <;> rcases given with source' | _ | user' <;> cases like
  · exact .of_silent trivial trivial
  · exact .of_silent trivial trivial
  · simp only [done_bind]
    split
    next => exact .of_silent trivial trivial
    next =>
      refine (Dispatch.refreshUser_parallel listed).bind fun one other => ?_
      cases one <;> cases other <;> exact .of_silent trivial trivial

/-- The ways in which a refresh job ends once it has its settings: all it was answered. -/
inductive Concluded (gate : Gate) (settings : Settings) (force : Bool) (asked : UserId) :
    List Reply → Prop where
  | unloaded (source : Failure) :
      Concluded gate settings force asked [⟨.user asked, .error source⟩]
  | unknown : Concluded gate settings force asked [⟨.user asked, .ok none⟩]
  | blocked {user : User} (blocked : user.isBlocked = true) :
      Concluded gate settings force asked [⟨.user asked, .ok (some user)⟩]
  | refreshed {user : User} {replies : List Reply}
      {outcome : Except DispatchFault DispatchOutcome} (active : user.isBlocked = false)
      (conclusion : Dispatch.Concluded gate user force settings replies outcome) :
      Concluded gate settings force asked (⟨.user asked, .ok (some user)⟩ :: replies)

/-- A forced job takes its own snapshot first. -/
theorem forced_to_done {replies : List Reply}
    (course : Course (forced gate userId) replies (.done ())) :
    ∃ snapshot rest, replies = ⟨.snapshot, snapshot⟩ :: rest ∧
      Concluded gate snapshot true userId rest := by
  rw [forced, bind_eq, question_bind, Course.ask_to_done] at course
  obtain ⟨snapshot, rest, rfl, begun⟩ := course
  rw [bind_eq, question_bind, Course.ask_to_done] at begun
  obtain ⟨answer, more, rfl, loaded⟩ := begun
  refine ⟨snapshot, _, rfl, ?_⟩
  rcases answer with source | _ | user
  · obtain ⟨rfl, -⟩ := loaded.asks.of_silent trivial
    exact .unloaded source
  · obtain ⟨rfl, -⟩ := loaded.asks.of_silent trivial
    exact .unknown
  · simp only at loaded
    split at loaded
    next blocked =>
      obtain ⟨rfl, -⟩ := loaded.asks.of_silent trivial
      exact .blocked blocked
    next active =>
      obtain ⟨outcome, refreshing⟩ := loaded.of_bind fun result => by cases result <;> trivial
      exact .refreshed (by simpa using active) (Dispatch.refreshUser_to_done refreshing)

namespace Concluded

variable {replies work : List Reply} {order : RefreshOrder} {force : Bool}

theorem countP_isRefresh_le (concluded : Concluded gate settings force userId replies) :
    (replies.map (·.question)).countP Question.isRefresh ≤ 1 := by
  cases concluded with
  | refreshed _ conclusion => cases conclusion <;> simp [Question.isRefresh]
  | _ => exact Nat.zero_le _

end Concluded

namespace Groundwork

variable {work work' : List Reply} {order order' : RefreshOrder} {replies : List Reply}
  {force force' : Bool}

section Order

variable (groundwork : Groundwork gate settings force userId work order)

theorem userId_eq : order.userId = groundwork.user.id :=
  congrArg RefreshOrder.userId groundwork.order_eq

theorem oneOff_eq : order.oneOff = groundwork.user.oneOff :=
  congrArg RefreshOrder.oneOff groundwork.order_eq

theorem credential_eq : order.credential = groundwork.credential :=
  congrArg RefreshOrder.credential groundwork.order_eq

theorem sites_eq : order.sites =
    (Assessment.mk settings gate groundwork.user.oneOff force groundwork.now).eligibleSites
      groundwork.sites :=
  congrArg RefreshOrder.sites groundwork.order_eq

end Order

/-- Two jobs that differ in nothing but what force waives are about the same. -/
theorem alike (one : Groundwork gate settings force userId work order)
    (other : Groundwork gate' settings' force' userId work' order')
    (all : AllAlike Waived work work') :
    one.user = other.user ∧ one.sites.map UserSite.facet = other.sites.map UserSite.facet ∧
      one.credential = other.credential := by
  obtain ⟨user, sites, now, credential, rfl, -, -, -⟩ := one
  obtain ⟨user', sites', now', credential', rfl, -, -, -⟩ := other
  have users : Waived ⟨.user userId, .ok (some user)⟩ ⟨.user userId, .ok (some user')⟩ :=
    all _ (by simp) _ (by simp)
  have listings : Waived ⟨.sites user.id, .ok sites⟩ ⟨.sites user'.id, .ok sites'⟩ :=
    all _ (by simp) _ (by simp)
  have credentials : Waived ⟨.credential user.tenantId user.id, .ok credential⟩
      ⟨.credential user'.tenantId user'.id, .ok credential'⟩ := all _ (by simp) _ (by simp)
  exact ⟨Option.some.inj (Option.some.inj users), Option.some.inj listings,
    Option.some.inj credentials⟩

/-- The facets of what the schedule sends are among those that force leaves. -/
theorem facets_sublist (scheduled : Groundwork gate' settings' false userId work' order')
    (gate : Gate) (now : Instant)
    (listed : ∀ provider, settings.isBlacklisted provider = settings'.isBlacklisted provider)
    {sites : List UserSite}
    (same : sites.map UserSite.facet = scheduled.sites.map UserSite.facet) :
    (order'.sites.map UserSite.facet).Sublist
      (((Assessment.mk settings gate scheduled.user.oneOff true now).eligibleSites sites).map
        UserSite.facet) := by
  have rules : (Assessment.mk settings gate scheduled.user.oneOff true now).lets =
      (Assessment.mk settings' gate' scheduled.user.oneOff false scheduled.now).lets :=
    Assessment.lets_congr listed rfl
  rw [Assessment.facets_of_force rfl, same, rules, scheduled.sites_eq]
  exact Assessment.facets_sublist _ _

theorem eligibleSites_ne_nil (scheduled : Groundwork gate' settings' false userId work' order')
    (gate : Gate) (now : Instant)
    (listed : ∀ provider, settings.isBlacklisted provider = settings'.isBlacklisted provider)
    {sites : List UserSite}
    (same : sites.map UserSite.facet = scheduled.sites.map UserSite.facet) :
    (Assessment.mk settings gate scheduled.user.oneOff true now).eligibleSites sites ≠ [] := by
  intro none
  have within := scheduled.facets_sublist gate now listed same
  rw [none, List.map_nil, List.sublist_nil, List.map_eq_nil_iff] at within
  exact scheduled.sites_ne_nil within

/-- The operator sends all that the schedule would. -/
theorem covers (forced : Groundwork gate settings true userId work order)
    (scheduled : Groundwork gate' settings' false userId work' order')
    (listed : ∀ provider, settings.isBlacklisted provider = settings'.isBlacklisted provider)
    (all : AllAlike Waived work work') :
    order'.userId = order.userId ∧ order'.oneOff = order.oneOff ∧
      order'.credential = order.credential ∧
      (order'.sites.map (·.id)).Sublist (order.sites.map (·.id)) := by
  obtain ⟨users, facets, credentials⟩ := forced.alike scheduled all
  have within := (scheduled.facets_sublist gate forced.now listed facets).map Facet.id
  rw [List.map_map, List.map_map, ← users] at within
  refine ⟨?_, ?_, ?_, forced.sites_eq ▸ within⟩
  · rw [forced.userId_eq, scheduled.userId_eq, users]
  · rw [forced.oneOff_eq, scheduled.oneOff_eq, users]
  · rw [forced.credential_eq, scheduled.credential_eq, credentials]

/-- Where the schedule sends an order, the operator sends one. -/
theorem exists_order (scheduled : Groundwork gate' settings' false userId work' order')
    (concluded : Concluded gate settings true userId replies)
    (listed : ∀ provider, settings.isBlacklisted provider = settings'.isBlacklisted provider)
    (all : AllAlike Waived replies work') :
    ∃ order, .refresh order ∈ replies.map (·.question) := by
  have loaded (reply : Reply) (member : reply ∈ replies) :
      Waived reply ⟨.user userId, .ok (some scheduled.user)⟩ :=
    all reply member _ (by simp [scheduled.replies_eq])
  have listing (reply : Reply) (member : reply ∈ replies) :
      Waived reply ⟨.sites scheduled.user.id, .ok scheduled.sites⟩ :=
    all reply member _ (by simp [scheduled.replies_eq])
  have issued (reply : Reply) (member : reply ∈ replies) : Waived reply
      ⟨.credential scheduled.user.tenantId scheduled.user.id, .ok scheduled.credential⟩ :=
    all reply member _ (by simp [scheduled.replies_eq])
  -- Any other end rests on an answer that the scheduled job did not get.
  cases concluded with
  | unloaded source => cases loaded _ List.mem_cons_self
  | unknown => cases loaded _ List.mem_cons_self
  | @blocked user blocked =>
      obtain rfl : user = scheduled.user :=
        Option.some.inj (Option.some.inj (loaded _ List.mem_cons_self))
      simp [scheduled.not_blocked] at blocked
  | @refreshed user _ _ active conclusion =>
      obtain rfl : user = scheduled.user :=
        Option.some.inj (Option.some.inj (loaded _ List.mem_cons_self))
      cases conclusion with
      | unloaded source => cases listing _ (List.mem_cons_of_mem _ List.mem_cons_self)
      | noSites =>
          have same := Option.some.inj (listing _ (List.mem_cons_of_mem _ List.mem_cons_self))
          exact absurd rfl (scheduled.eligibleSites_ne_nil gate ⟨0, 0⟩ listed same)
      | @noneLeft sites now _ none =>
          have same := Option.some.inj (listing _ (List.mem_cons_of_mem _ List.mem_cons_self))
          exact absurd none (scheduled.eligibleSites_ne_nil gate now listed same)
      | unissued _ _ source =>
          have none := issued ⟨.credential scheduled.user.tenantId scheduled.user.id, .error source⟩
          cases none (by simp)
      | refused => exact ⟨_, List.mem_of_getLast? rfl⟩
      | dispatched => exact ⟨_, List.mem_of_getLast? rfl⟩

end Groundwork

end RefreshJob

end UnattendedRefresh
