import UnattendedRefresh.Proofs.Dispatch.Waivers
import UnattendedRefresh.Proofs.Trigger.Calls
import UnattendedRefresh.Proofs.Trigger.Entitlement

/-!
# What a forced refresh goes by

A forced refresh goes by the user, by two rules on the sites and by the credential. In
whatever runs two such refreshes of one user are, under whatever gates and settings, the
collaborators see the same of both if no more than what force waives was answered
differently; and what a refresh on schedule would have sent, the operator sends.
-/

namespace UnattendedRefresh

open Procedure

namespace Record

/-- What the collaborators see of a task, in turn. -/
def seen (record : Record) (number : Nat) : List Call :=
  (record.calls number).filterMap Question.call?

/-- The collaborators see the same of two tasks as far as both have come, and the same
altogether where both have come to an outcome. -/
structure LookAlike (record other : Record) (number number' : Nat) : Prop where
  seen : record.seen number <+: other.seen number' ∨ other.seen number' <+: record.seen number
  ended : ∀ outcome outcome', some outcome ∈ record.endings number →
    some outcome' ∈ other.endings number' → record.seen number = other.seen number'

end Record

/-- One order has the sites of another, for the same user and with the same credential. -/
structure RefreshOrder.Covers (order other : RefreshOrder) : Prop where
  userId_eq : other.userId = order.userId
  oneOff_eq : other.oneOff = order.oneOff
  credential_eq : other.credential = order.credential
  sites_sublist : (other.sites.map (·.id)).Sublist (order.sites.map (·.id))

/-- What the trigger answers itself is not seen. -/
theorem filterMap_externals (questions : List Question) :
    (externals questions).filterMap Question.call? = questions.filterMap Question.call? := by
  rw [externals, List.filterMap_filter]
  refine List.filterMap_congr fun question _ => ?_
  cases question <;> rfl

namespace Errand

variable {gate gate' : Gate} {userId : UserId} {answers : List Reply}
  {questions : List Question}

theorem forced_parallel (gate gate' : Gate) (userId : UserId) :
    Parallel Question.call? Waived ((forced userId).procedure gate)
      ((forced userId).procedure gate') :=
  (RefreshJob.forced_parallel gate gate' userId).bind fun _ _ => .done _ _

theorem forced_to_done {outcome : Outcome}
    (course : Course ((forced userId).procedure gate) answers (.done outcome)) :
    ∃ snapshot rest, answers = ⟨.snapshot, snapshot⟩ :: rest ∧
      RefreshJob.Concluded gate snapshot true userId rest := by
  obtain ⟨⟨⟩, within⟩ := course.of_bind fun _ => trivial
  exact RefreshJob.forced_to_done within

/-- However far it has come, a forced refresh has asked for one bulk refresh at most. -/
theorem forced_countP_le (asks : Asks ((forced userId).procedure gate) answers questions) :
    questions.countP Question.isRefresh ≤ 1 := by
  obtain ⟨more, outcome, course, within⟩ := asks.exists_end
  obtain ⟨snapshot, rest, whole, concluded⟩ := forced_to_done course
  rw [whole] at within
  calc questions.countP Question.isRefresh
      ≤ (((⟨.snapshot, snapshot⟩ :: rest : List Reply)).map (·.question)).countP
          Question.isRefresh := within.sublist.countP_le
    _ = (rest.map (·.question)).countP Question.isRefresh := by
        simp [Question.isRefresh]
    _ ≤ 1 := concluded.countP_isRefresh_le

theorem forced_groundwork {order : RefreshOrder}
    (asks : Asks ((forced userId).procedure gate) answers questions)
    (sent : .refresh order ∈ questions) :
    ∃ snapshot work, ⟨.snapshot, snapshot⟩ :: work <+: answers ∧
      Nonempty (RefreshJob.Groundwork gate snapshot true userId work order) := by
  obtain ⟨before, resume, within, course⟩ := asks.exists_course sent
  rcases groundwork_of_refresh course with
    ⟨candidate, settings, other, -⟩ | ⟨own, snapshot, work, same, rfl, groundwork⟩
  · cases other
  · cases same
    exact ⟨snapshot, work, within, groundwork⟩

theorem scheduled_groundwork {candidate : Candidate} {snapshot : Settings}
    {order : RefreshOrder}
    (asks : Asks ((scheduled candidate snapshot).procedure gate) answers questions)
    (sent : .refresh order ∈ questions) :
    ∃ work, work <+: answers ∧
      Nonempty (RefreshJob.Groundwork gate snapshot false candidate.userId work order) := by
  obtain ⟨before, resume, within, course⟩ := asks.exists_course sent
  rcases groundwork_of_refresh course with
    ⟨own, settings, same, groundwork⟩ | ⟨_, _, _, other, -⟩
  · cases same
    exact ⟨before, within, groundwork⟩
  · cases other

end Errand

namespace Trigger

variable {gate gate' : Gate} {settings settings' : Settings} {sizes sizes' : PoolSizes}
  {moves moves' : List Move} {job job' : Nat} {userId : UserId}

theorem lookAlike_of_waived
    (begun : Record.errands ((create gate settings sizes).run moves).2 job = [.forced userId])
    (begun' : Record.errands ((create gate' settings' sizes').run moves').2 job' =
      [.forced userId])
    (all : AllAlike Waived (Record.answers ((create gate settings sizes).run moves).2 job)
      (Record.answers ((create gate' settings' sizes').run moves').2 job')) :
    Record.LookAlike ((create gate settings sizes).run moves).2
      ((create gate' settings' sizes').run moves').2 job job' := by
  have parallel := Errand.forced_parallel gate gate' userId
  obtain ⟨questions, asks, calls_eq, whole⟩ := calls_asks gate settings sizes moves begun
  obtain ⟨questions', asks', calls_eq', whole'⟩ := calls_asks gate' settings' sizes' moves' begun'
  have seen_eq := (congrArg (List.filterMap Question.call?) calls_eq).trans (filterMap_externals _)
  have seen_eq' := (congrArg (List.filterMap Question.call?) calls_eq').trans
    (filterMap_externals _)
  refine ⟨?_, fun outcome outcome' ends ends' => ?_⟩
  · rw [Record.seen, Record.seen, seen_eq, seen_eq']
    exact parallel.comparable asks asks' all
  · rw [Record.seen, Record.seen, seen_eq, seen_eq', whole outcome ends, whole' outcome' ends']
    exact parallel.ended (course_of_outcome begun ends) (course_of_outcome begun' ends') all

theorem forced_once
    (begun : Record.errands ((create gate settings sizes).run moves).2 job = [.forced userId]) :
    (Record.calls ((create gate settings sizes).run moves).2 job).countP
      Question.isRefresh ≤ 1 := by
  obtain ⟨questions, asks, calls_eq, -⟩ := calls_asks gate settings sizes moves begun
  have calls_eq : Record.calls _ job = externals questions := calls_eq
  rw [calls_eq]
  exact List.filter_sublist.countP_le.trans (Errand.forced_countP_le asks)

theorem forced_order {order : RefreshOrder}
    (begun : Record.errands ((create gate settings sizes).run moves).2 job = [.forced userId])
    (sent : .refresh order ∈ Record.calls ((create gate settings sizes).run moves).2 job) :
    ∃ snapshot work,
      ⟨.snapshot, snapshot⟩ :: work <+:
        Record.answers ((create gate settings sizes).run moves).2 job ∧
      Nonempty (RefreshJob.Groundwork gate snapshot true userId work order) := by
  obtain ⟨questions, asks, calls_eq, -⟩ := calls_asks gate settings sizes moves begun
  rw [calls_eq] at sent
  exact Errand.forced_groundwork asks (List.mem_of_mem_filter sent)

theorem scheduled_order {candidate : Candidate} {snapshot : Settings} {order : RefreshOrder}
    (begun : Record.errands ((create gate settings sizes).run moves).2 job =
      [.scheduled candidate snapshot])
    (sent : .refresh order ∈ Record.calls ((create gate settings sizes).run moves).2 job) :
    ∃ work, work <+: Record.answers ((create gate settings sizes).run moves).2 job ∧
      Nonempty (RefreshJob.Groundwork gate snapshot false candidate.userId work order) := by
  obtain ⟨questions, asks, calls_eq, -⟩ := calls_asks gate settings sizes moves begun
  rw [calls_eq] at sent
  exact Errand.scheduled_groundwork asks (List.mem_of_mem_filter sent)

/-- The scheduled job takes no snapshot of its own: it was given one. -/
theorem covers_of_waived {candidate : Candidate} {snapshot' : Settings} {order' : RefreshOrder}
    (begun : Record.errands ((create gate settings sizes).run moves).2 job = [.forced userId])
    (begun' : Record.errands ((create gate' settings' sizes').run moves').2 job' =
      [.scheduled candidate snapshot'])
    (same : candidate.userId = userId)
    (listed : ∀ snapshot,
      ⟨.snapshot, snapshot⟩ ∈ Record.answers ((create gate settings sizes).run moves).2 job →
        ∀ provider, snapshot.isBlacklisted provider = snapshot'.isBlacklisted provider)
    (all : AllAlike Waived (Record.answers ((create gate settings sizes).run moves).2 job)
      (Record.answers ((create gate' settings' sizes').run moves').2 job'))
    (sent' : .refresh order' ∈ Record.calls ((create gate' settings' sizes').run moves').2 job') :
    (∀ order, .refresh order ∈ Record.calls ((create gate settings sizes).run moves).2 job →
      order.Covers order') ∧
    ∀ outcome, some outcome ∈ Record.endings ((create gate settings sizes).run moves).2 job →
      ∃ order, .refresh order ∈ Record.calls ((create gate settings sizes).run moves).2 job := by
  subst same
  obtain ⟨work', within', ⟨scheduled⟩⟩ := scheduled_order begun' sent'
  constructor
  · intro order sent
    -- Both orders were made of answers that are on the record by now.
    obtain ⟨snapshot, work, within, ⟨forced⟩⟩ := forced_order begun sent
    have held := within.subset
    obtain ⟨users, flags, credentials, sites⟩ := forced.covers scheduled
      (listed snapshot (held List.mem_cons_self))
      (all.mono (fun _ member => held (List.mem_cons_of_mem _ member)) within'.subset)
    exact ⟨users, flags, credentials, sites⟩
  · intro outcome ends
    obtain ⟨questions, asks, calls_eq, whole⟩ := calls_asks gate settings sizes moves begun
    obtain ⟨snapshot, rest, answers_eq, concluded⟩ :=
      Errand.forced_to_done (course_of_outcome begun ends)
    rw [answers_eq] at listed all
    obtain ⟨order, asked⟩ := scheduled.exists_order concluded (listed snapshot List.mem_cons_self)
      (all.mono (List.subset_cons_self _ _) within'.subset)
    refine ⟨order, ?_⟩
    rw [calls_eq, whole outcome ends, Record.asked, answers_eq]
    exact List.mem_filter.mpr ⟨List.mem_cons_of_mem _ asked, rfl⟩

/-- A forced refresh sends one bulk refresh at most, and that for an active user whose
sites and credential it has got. What the collaborators see of it depends on nothing that
force waives, and it sends what a refresh of the user on schedule would. -/
theorem force_waives (gate : Gate) (settings : Settings) (sizes : PoolSizes) (moves : List Move)
    (job : Nat) (userId : UserId) :
    let record : Record := ((create gate settings sizes).run moves).2
    record.errands job = [.forced userId] →
    (record.calls job).countP Question.isRefresh ≤ 1 ∧
    (∀ order, .refresh order ∈ record.calls job →
      ∃ snapshot work, ⟨.snapshot, snapshot⟩ :: work <+: record.answers job ∧
        Nonempty (RefreshJob.Groundwork gate snapshot true userId work order)) ∧
    ∀ gate' settings' sizes' moves',
      let other : Record := ((create gate' settings' sizes').run moves').2
      (∀ job', other.errands job' = [.forced userId] →
        AllAlike Waived (record.answers job) (other.answers job') →
          record.LookAlike other job job') ∧
      ∀ job' candidate snapshot', candidate.userId = userId →
        other.errands job' = [.scheduled candidate snapshot'] →
        (∀ snapshot, ⟨.snapshot, snapshot⟩ ∈ record.answers job → ∀ provider,
          snapshot.isBlacklisted provider = snapshot'.isBlacklisted provider) →
        AllAlike Waived (record.answers job) (other.answers job') →
        ∀ order', .refresh order' ∈ other.calls job' →
          (∀ order, .refresh order ∈ record.calls job → order.Covers order') ∧
          ∀ outcome, some outcome ∈ record.endings job →
            ∃ order, .refresh order ∈ record.calls job := by
  intro record begun
  refine ⟨forced_once begun, fun order sent => forced_order begun sent,
    fun gate' settings' sizes' moves' => ⟨fun job' begun' all => ?_, ?_⟩⟩
  · exact lookAlike_of_waived begun begun' all
  · intro job' candidate snapshot' same begun' listed all order' sent'
    exact covers_of_waived begun begun' same listed all sent'

section Newcomer

/-- What a forced refresh of the user is answered that leaves the first site. -/
def insistedReplies (settings : Settings) (sites : List UserSite) (now : Instant) : List Reply :=
  [⟨.snapshot, settings⟩, ⟨.user newcomer.id, .ok (some newcomer)⟩,
    ⟨.sites newcomer.id, .ok sites⟩, ⟨.clock, now⟩,
    ⟨.credential newcomer.tenantId newcomer.id, .ok ⟨"token"⟩⟩,
    ⟨.refresh ⟨newcomer.id, sites.take 1, true, ⟨"token"⟩, .operator⟩, .ok ()⟩]

/-- A direct call that the collaborators answer to the end. -/
def insistedMoves (sites : List UserSite) (now : Instant) : List Move :=
  .runForced newcomer.id :: .advance 0 ::
    ((insistedReplies .default sites now).tail.flatMap fun reply =>
      [.advance 0, .call 0, .answer 0 reply]) ++ [.advance 0, .advance 0, .advance 0]

def disabled : Settings :=
  { Settings.default with enabled := false }

/-- The schedule would leave out all of these sites. -/
def hinderedSites : List UserSite :=
  [⟨Identifier.ofNat 10, newcomer.id, "bank", none, true, .blocked⟩,
    ⟨Identifier.ofNat 11, newcomer.id, "bank", some ⟨7, 0⟩, true, .blocked⟩]

def insistedRecord : Record :=
  ((create Gate.neededAction .default .default).run (insistedMoves newcomerSites ⟨0, 0⟩)).2

def hinderedRecord : Record :=
  ((create Gate.denyAll disabled .default).run (insistedMoves hinderedSites ⟨9, 0⟩)).2

theorem insistedReplies_alike {settings settings' : Settings} {sites sites' : List UserSite}
    (listed : ∀ provider, settings.isBlacklisted provider = settings'.isBlacklisted provider)
    (same : sites.map UserSite.facet = sites'.map UserSite.facet) (now now' : Instant) :
    AllAlike Waived (insistedReplies settings sites now)
      (insistedReplies settings' sites' now') := by
  intro reply member other member'
  simp only [insistedReplies, List.mem_cons, List.not_mem_nil, or_false] at member member'
  rcases member with rfl | rfl | rfl | rfl | rfl | rfl <;>
    rcases member' with rfl | rfl | rfl | rfl | rfl | rfl <;>
    first | trivial | rfl | exact listed | exact congrArg some same

theorem force_waives_newcomer :
    insistedRecord.seen 0 = hinderedRecord.seen 0 ∧
      ∃ order, .refresh order ∈ insistedRecord.calls 0 ∧ order.Covers newcomerOrder := by
  have answers : insistedRecord.answers 0 = insistedReplies .default newcomerSites ⟨0, 0⟩ := by rfl
  have endings : insistedRecord.endings 0 = [some .refreshed] := by rfl
  have endings' : hinderedRecord.endings 0 = [some .refreshed] := by rfl
  have toHindered : AllAlike Waived (insistedRecord.answers 0) (hinderedRecord.answers 0) := by
    have answers' : hinderedRecord.answers 0 = insistedReplies disabled hinderedSites ⟨9, 0⟩ := by
      rfl
    rw [answers, answers']
    refine insistedReplies_alike (fun _ => ?_) ?_ _ _ <;> rfl
  have toScheduled : AllAlike Waived (insistedRecord.answers 0) (midnightRecord.answers 1) := by
    have answers' : midnightRecord.answers 1 =
        ((insistedReplies .default newcomerSites ⟨0, 0⟩).drop 1).take 4 := by rfl
    rw [answers, answers']
    exact (insistedReplies_alike (fun _ => rfl) rfl _ _).mono (List.Subset.refl _)
      fun _ member => List.mem_of_mem_drop (List.mem_of_mem_take member)
  have sent : .refresh newcomerOrder ∈ midnightRecord.calls 1 := List.mem_of_getLast? rfl
  obtain ⟨-, -, pairs⟩ := force_waives Gate.neededAction .default .default
    (insistedMoves newcomerSites ⟨0, 0⟩) 0 newcomer.id rfl
  constructor
  · have alike : insistedRecord.LookAlike hinderedRecord 0 0 :=
      (pairs Gate.denyAll disabled .default (insistedMoves hinderedSites ⟨9, 0⟩)).1 0 rfl toHindered
    exact alike.ended .refreshed .refreshed (by simp [endings]) (by simp [endings'])
  · have listed (snapshot : Settings) (taken : ⟨.snapshot, snapshot⟩ ∈ insistedRecord.answers 0) :
        ∀ provider, snapshot.isBlacklisted provider = Settings.default.isBlacklisted provider := by
      rw [answers] at taken
      obtain rfl : snapshot = .default := by simpa [insistedReplies] using taken
      exact fun _ => rfl
    obtain ⟨covered, whole⟩ := (pairs Gate.neededAction .default .default midnightMoves).2 1
      ⟨newcomer.tenantId, newcomer.id⟩ .default rfl rfl listed toScheduled newcomerOrder sent
    obtain ⟨order, ordered⟩ := whole .refreshed (endings ▸ List.mem_singleton_self _)
    exact ⟨order, ordered, covered order ordered⟩

end Newcomer

end Trigger

end UnattendedRefresh
