import UnattendedRefresh.Proofs.Trigger.Moments

/-!
# Fetches in the course of a run

The stored sites change while a run goes on: a bulk refresh that comes back well has
fetched every site it was asked for. The runs considered here load what is stored,
and no two refreshes of one user overlap. Then a refresh has loaded its sites after
every fetch of the user that came before its own bulk refresh.
-/

namespace UnattendedRefresh

open Procedure

/-- The stored sites in the course of a run: whose they are, and by each moment when
they were last fetched. -/
structure SiteHistory where
  owner : SiteId → UserId
  fetched : Nat → SiteId → Option Instant

namespace Record

/-- A refresh of the user is under way: the task has called for the user's sites, and
the bulk refresh that it comes to has not been answered. One that comes to no bulk
refresh is left out. -/
structure Refreshing (record : Record) (user : UserId) (number moment : Nat) : Prop where
  loads : ∃ earlier < moment, record[earlier]? = some (.called number (.sites user))
  sends : ∃ order, .called number (.refresh order) ∈ record
  unanswered : ∀ earlier < moment, ∀ order answer,
    record[earlier]? ≠ some (.answered number ⟨.refresh order, answer⟩)
  unended : ∀ earlier < moment, ∀ outcome, record[earlier]? ≠ some (.ended number outcome)

/-- No two refreshes of the user overlap. -/
def Apart (record : Record) (user : UserId) : Prop :=
  ∀ moment number other, record.Refreshing user number moment →
    record.Refreshing user other moment → number = other

/-- Who loads the sites of a user is shown sites of that user, and each as it was at
some moment between the call and the answer. -/
structure Shows (record : Record) (history : SiteHistory) : Prop where
  owned : ∀ number user sites, .answered number ⟨.sites user, .ok sites⟩ ∈ record →
    ∀ site ∈ sites, history.owner site.id = user
  current : ∀ call answer number user sites, call < answer →
    record[call]? = some (.called number (.sites user)) →
      record[answer]? = some (.answered number ⟨.sites user, .ok sites⟩) →
        ∀ site ∈ sites, ∃ moment, call < moment ∧ moment ≤ answer ∧
          site.lastDataFetch = history.fetched moment site.id

/-- The task calls for a bulk refresh of the site, among others. -/
def SentAt (record : Record) (site : SiteId) (number : Nat) (order : RefreshOrder)
    (moment : Nat) : Prop :=
  record[moment]? = some (.called number (.refresh order)) ∧ ∃ entry ∈ order.sites, entry.id = site

/-- A bulk refresh of the site, among others, came back well. -/
def FetchedAt (record : Record) (site : SiteId) (moment : Nat) : Prop :=
  ∃ number order, record[moment]? = some (.answered number ⟨.refresh order, .ok ()⟩) ∧
    ∃ entry ∈ order.sites, entry.id = site

end Record

theorem Errand.length_opening (errand : Errand) (snapshot other : Settings) :
    (errand.opening snapshot).length = (errand.opening other).length := by
  cases errand <;> rfl

/-- A task that is entitled to a bulk refresh has not been answered one. -/
theorem Entitlement.unrefreshed {gate : Gate} {record : Record} {number : Nat}
    {order other : RefreshOrder} (entitlement : Entitlement gate record number order)
    (answer : Except Failure Unit) : ⟨.refresh other, answer⟩ ∉ record.answers number := by
  rw [entitlement.answers_eq]
  cases entitlement.errand <;> simp [Errand.opening]

/-- A task that stands at a bulk refresh twice was answered nothing in between. -/
theorem Entitlement.answers_between {gate : Gate} {record between : Record} {number : Nat}
    {order other : RefreshOrder} (first : Entitlement gate record number order)
    (second : Entitlement gate (record ++ between) number other) :
    between.answers number = [] := by
  have errands_eq := second.errands_eq
  rw [Record.errands_append, first.errands_eq] at errands_eq
  have same : first.errand = second.errand := (List.cons.inj errands_eq).1
  have answers_eq := congrArg List.length second.answers_eq
  rw [Record.answers_append, first.answers_eq, same] at answers_eq
  have lengths := second.errand.length_opening first.snapshot second.snapshot
  simp only [List.length_append, List.length_cons, List.length_nil, lengths] at answers_eq
  exact List.eq_nil_of_length_eq_zero (by omega)

/-- What a task has behind it where it stands at a bulk refresh. -/
structure Preparation (gate : Gate) (record : Record) (number : Nat) (order : RefreshOrder)
    (moment : Nat) where
  entitlement : Entitlement gate (record.take moment) number order
  unended : Record.endings (record.take moment) number = []
  call : Nat
  answer : Nat
  call_lt : call < answer
  answer_lt : answer < moment
  called : record[call]? = some (.called number (.sites order.userId))
  answered : record[answer]? =
    some (.answered number ⟨.sites order.userId, .ok entitlement.sites⟩)

namespace Trigger.IsRun

variable {gate : Gate} {record : Record} {number moment : Nat} {order : RefreshOrder}

theorem preparation (isRun : IsRun gate record) {trigger : Trigger}
    (chronicle : Chronicle gate trigger (record.take moment)) {errand : Errand}
    {onward : Question.Answer (.refresh order) → Procedure Outcome}
    (stood : trigger.standing number = some (errand, .ask (.refresh order) onward)) :
    Nonempty (Preparation gate record number order moment) := by
  obtain ⟨entitlement⟩ := chronicle.entitlement stood
  obtain ⟨-, unended, -⟩ := chronicle.underWay stood
  have loaded : ⟨.sites order.userId, .ok entitlement.sites⟩ ∈
      Record.answers (record.take moment) number := by
    rw [entitlement.answers_eq, entitlement.userId_eq]
    simp
  obtain ⟨answer, answer_lt, answered⟩ := Record.mem_answers_take_iff.mp loaded
  obtain ⟨call, call_lt, called⟩ := isRun.called_of_answered answered rfl
  exact ⟨entitlement, unended, call, answer, call_lt, answer_lt, called, answered⟩

theorem preparation_of_called (isRun : IsRun gate record)
    (called : record[moment]? = some (.called number (.refresh order))) :
    Nonempty (Preparation gate record number order moment) := by
  obtain ⟨trigger, errand, resume, chronicle, stood⟩ := isRun.standing_of_called called
  exact isRun.preparation chronicle stood

theorem preparation_of_answered (isRun : IsRun gate record) {answer : Except Failure Unit}
    (answered : record[moment]? = some (.answered number ⟨.refresh order, answer⟩)) :
    Nonempty (Preparation gate record number order moment) := by
  obtain ⟨trigger, errand, resume, chronicle, stood⟩ := isRun.standing_of_answered answered rfl
  exact isRun.preparation chronicle stood

/-- What was answered was sent. -/
theorem sent_of_answered (isRun : IsRun gate record) {answer : Except Failure Unit}
    (answered : record[moment]? = some (.answered number ⟨.refresh order, answer⟩)) :
    .called number (.refresh order) ∈ record := by
  obtain ⟨earlier, -, called⟩ := isRun.called_of_answered answered rfl
  exact List.mem_of_getElem? called

end Trigger.IsRun

namespace Preparation

variable {gate : Gate} {record : Record} {number moment : Nat} {order : RefreshOrder}
  {history : SiteHistory} {site : UserSite}

theorem unanswered (preparation : Preparation gate record number order moment) {earlier : Nat}
    (before : earlier < moment) (other : RefreshOrder) (answer : Except Failure Unit) :
    record[earlier]? ≠ some (.answered number ⟨.refresh other, answer⟩) := by
  intro answered
  have member := Record.mem_answers_take_iff.mpr ⟨earlier, before, answered⟩
  exact preparation.entitlement.unrefreshed answer member

/-- The task refreshes its user from the loading of the sites on. -/
theorem refreshing (preparation : Preparation gate record number order moment)
    (sent : .called number (.refresh order) ∈ record) {between : Nat}
    (loaded : preparation.call < between) (until_moment : between ≤ moment) :
    record.Refreshing order.userId number between where
  loads := ⟨preparation.call, loaded, preparation.called⟩
  sends := ⟨order, sent⟩
  unanswered earlier before other answer :=
    preparation.unanswered (Nat.lt_of_lt_of_le before until_moment) other answer
  unended earlier before outcome ended := by
    have member : outcome ∈ Record.endings (record.take moment) number := by
      rw [Record.mem_endings_iff]
      exact Record.mem_take_iff.mpr ⟨earlier, Nat.lt_of_lt_of_le before until_moment, ended⟩
    simp [preparation.unended] at member

theorem silent_between (first : Preparation gate record number order moment)
    {other : RefreshOrder} {later : Nat} (second : Preparation gate record number other later)
    {place : Nat} (since_first : moment ≤ place) (until_second : place < later) (reply : Reply) :
    record[place]? ≠ some (.answered number reply) := by
  intro answered
  have ordered : moment ≤ later := Nat.le_trans since_first (Nat.le_of_lt until_second)
  obtain ⟨between, take_eq, told⟩ := Record.exists_take_append ordered
  have member := Record.mem_answers_iff.mpr (told place _ since_first until_second answered)
  rw [first.entitlement.answers_between (take_eq ▸ second.entitlement)] at member
  simp at member

/-- The sites were loaded before the bulk refresh was called for. -/
theorem loaded_before_call (preparation : Preparation gate record number order moment)
    (isRun : Trigger.IsRun gate record) {other : RefreshOrder} {call : Nat}
    (called : record[call]? = some (.called number (.refresh other))) :
    preparation.answer < call := by
  obtain ⟨own⟩ := isRun.preparation_of_called called
  by_contra late
  have between := own.silent_between preparation (Nat.le_of_not_lt late) preparation.answer_lt
  exact between _ preparation.answered

theorem owner_eq (preparation : Preparation gate record number order moment)
    (shows : record.Shows history) (member : site ∈ order.sites) :
    history.owner site.id = order.userId :=
  shows.owned number order.userId preparation.entitlement.sites
    (List.mem_of_getElem? preparation.answered) site
    (preparation.entitlement.sites_sublist.subset member)

theorem shown (preparation : Preparation gate record number order moment)
    (shows : record.Shows history) (member : site ∈ order.sites) :
    ∃ seen, preparation.call < seen ∧ seen ≤ preparation.answer ∧
      site.lastDataFetch = history.fetched seen site.id :=
  shows.current _ _ number order.userId preparation.entitlement.sites preparation.call_lt
    preparation.called preparation.answered site
    (preparation.entitlement.sites_sublist.subset member)

/-- Where refreshes of the user keep apart, an earlier fetch of one of the sites was over
before the sites were loaded. -/
theorem fetch_before_load (preparation : Preparation gate record number order moment)
    (isRun : Trigger.IsRun gate record) (shows : record.Shows history)
    (apart : record.Apart order.userId) (sent : .called number (.refresh order) ∈ record)
    (member : site ∈ order.sites) {earlier : Nat} (before : earlier < moment)
    (fetched : record.FetchedAt site.id earlier) : earlier < preparation.call := by
  obtain ⟨other, former, answered, entry, included, same⟩ := fetched
  obtain ⟨formerly⟩ := isRun.preparation_of_answered answered
  have alike : former.userId = order.userId := by
    rw [← formerly.owner_eq shows included, same, preparation.owner_eq shows member]
  by_contra late
  have different : preparation.call ≠ earlier := by
    intro same
    have effects := (same ▸ preparation.called).symm.trans answered
    simp at effects
  have loaded : preparation.call < earlier := by omega
  have others := formerly.refreshing (isRun.sent_of_answered answered)
    (Nat.lt_trans formerly.call_lt formerly.answer_lt) (Nat.le_refl earlier)
  obtain rfl : other = number :=
    apart earlier other number (alike ▸ others)
      (preparation.refreshing sent loaded (Nat.le_of_lt before))
  exact preparation.unanswered before former (.ok ()) answered

end Preparation

end UnattendedRefresh
