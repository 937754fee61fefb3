import Mathlib.Data.Nat.Find
import UnattendedRefresh.Proofs.Trigger.Fetches

/-!
# The spacing of fetches

No schedule is kept: what spaces the fetches of a site is that every scheduled refresh
looks at the last fetch before it sends anything. Over a whole run, with passes of any
minutes as often as one likes and with forced refreshes in between, a scheduled fetch
keeps the interval of its own snapshot from every fetch before it.
-/

namespace UnattendedRefresh

/-- The bulk refresh of the task is still on its way when the record stops. -/
def Record.Pending (record : Record) (number : Nat) : Prop :=
  (∀ order answer, .answered number ⟨.refresh order, answer⟩ ∉ record) ∧
    ∀ outcome, .ended number outcome ∉ record

/-- What the collaborators keep to under a clock that never goes back: refreshes of the
user do not overlap, a bulk refresh that comes back well marks every site that it was
asked for with an instant of its own time, and nothing else changes a mark. -/
structure ClockedHistory (record : Record) (user : UserId) (history : SiteHistory)
    (clock : Nat → Int) : Prop where
  apart : record.Apart user
  shows : record.Shows history
  forward : ∀ earlier later, earlier ≤ later → clock earlier ≤ clock later
  reads : ∀ call answer number now, call < answer →
    record[call]? = some (.called number .clock) →
      record[answer]? = some (.answered number ⟨.clock, now⟩) →
        clock call ≤ now.ticks ∧ now.ticks ≤ clock (answer + 1)
  marks : ∀ call answer number order, call < answer →
    record[call]? = some (.called number (.refresh order)) →
      record[answer]? = some (.answered number ⟨.refresh order, .ok ()⟩) →
        ∀ site ∈ order.sites, ∃ last, history.fetched (answer + 1) site.id = some last ∧
          clock call ≤ last.ticks ∧ last.ticks ≤ clock (answer + 1)
  changes : ∀ moment site, history.fetched (moment + 1) site ≠ history.fetched moment site →
    ∃ call number order, call ≤ moment ∧ record.SentAt site number order call ∧
      (record.Pending number ∨ ∃ answer, moment ≤ answer ∧
        record[answer]? = some (.answered number ⟨.refresh order, .ok ()⟩))

/-- A scheduled bulk refresh of the site, judged at one instant under the snapshot of its
pass, keeps the interval from every fetch before. -/
structure Spacing (record : Record) (history : SiteHistory) (site : SiteId) (number : Nat)
    (moment : Nat) where
  candidate : Candidate
  snapshot : Settings
  now : Instant
  errands_eq : Record.errands (record.take moment) number = [.scheduled candidate snapshot]
  read_iff : ∀ other, ⟨.clock, other⟩ ∈ Record.answers (record.take moment) number ↔ other = now
  spaced : ∀ earlier < moment, record.FetchedAt site earlier →
    ∃ last, history.fetched (earlier + 1) site = some last ∧ snapshot.minInterval ≤ now.since last

/-- Of the fetches of a site before some moment one is the latest. -/
theorem Record.exists_latest {record : Record} {site : SiteId} {earlier moment : Nat}
    (before : earlier < moment) (fetched : record.FetchedAt site earlier) :
    ∃ latest < moment, earlier ≤ latest ∧ record.FetchedAt site latest ∧
      ∀ other < moment, record.FetchedAt site other → other ≤ latest := by
  classical
  have within : earlier ≤ moment - 1 := by omega
  have bound := Nat.findGreatest_le (P := record.FetchedAt site) (moment - 1)
  refine ⟨Nat.findGreatest (record.FetchedAt site) (moment - 1), by omega,
    Nat.le_findGreatest within fetched, Nat.findGreatest_spec within fetched, ?_⟩
  intro other early fetchedOther
  exact Nat.le_findGreatest (by omega) fetchedOther

/-- A task whose bulk refresh is on its way refreshes its user from the loading on. -/
theorem Preparation.refreshing_of_pending {gate : Gate} {record : Record}
    {number moment : Nat} {order : RefreshOrder}
    (preparation : Preparation gate record number order moment)
    (sent : .called number (.refresh order) ∈ record) (pending : record.Pending number)
    {later : Nat} (loaded : preparation.call < later) :
    record.Refreshing order.userId number later where
  loads := ⟨preparation.call, loaded, preparation.called⟩
  sends := ⟨order, sent⟩
  unanswered _ _ other answer answered := pending.1 other answer (List.mem_of_getElem? answered)
  unended _ _ outcome ended := pending.2 outcome (List.mem_of_getElem? ended)

namespace ClockedHistory

variable {gate : Gate} {record : Record} {user : UserId} {history : SiteHistory}
  {clock : Nat → Int} {site : SiteId} {moment number : Nat} {order : RefreshOrder}

/-- While a task loads the sites of a user, no bulk refresh of the user is on its way
that comes back after the task's own was called for, or never. -/
theorem alone (clocked : ClockedHistory record user history clock)
    (isRun : Trigger.IsRun gate record)
    (preparation : Preparation gate record number order moment)
    (sent : .called number (.refresh order) ∈ record) (own : order.userId = user)
    {other call : Nat} {former : RefreshOrder} (before : call < preparation.answer)
    (called : record[call]? = some (.called other (.refresh former)))
    (alike : former.userId = user) :
    ¬ record.Pending other ∧ ∀ finish answer, moment ≤ finish →
      record[finish]? ≠ some (.answered other ⟨.refresh former, answer⟩) := by
  have sentFormer := List.mem_of_getElem? called
  have answer_lt := preparation.answer_lt
  have loading : record.Refreshing user number preparation.answer :=
    own ▸ preparation.refreshing sent preparation.call_lt (Nat.le_of_lt answer_lt)
  have different : ¬ record.Refreshing user other preparation.answer := by
    intro refreshing
    obtain rfl : other = number := clocked.apart preparation.answer _ _ refreshing loading
    have loaded := preparation.loaded_before_call isRun called
    omega
  constructor
  · intro pending
    obtain ⟨formerly⟩ := isRun.preparation_of_called called
    have call_lt := formerly.call_lt
    have answered_lt := formerly.answer_lt
    exact different (alike ▸ formerly.refreshing_of_pending sentFormer pending (by omega))
  · intro finish answer late answered
    obtain ⟨formerly⟩ := isRun.preparation_of_answered answered
    have call_lt := formerly.call_lt
    have loaded := formerly.loaded_before_call isRun called
    exact different (alike ▸ formerly.refreshing sentFormer (by omega) (by omega))

/-- From the latest fetch on, until a task has loaded the sites, the mark stays. -/
theorem mark_stays (clocked : ClockedHistory record user history clock)
    (isRun : Trigger.IsRun gate record) (owned : history.owner site = user)
    (preparation : Preparation gate record number order moment)
    (sent : .called number (.refresh order) ∈ record) (own : order.userId = user)
    {earlier : Nat}
    (latest : ∀ other < moment, record.FetchedAt site other → other ≤ earlier)
    {seen : Nat} (after_fetch : earlier + 1 ≤ seen) (until_answer : seen ≤ preparation.answer) :
    history.fetched seen site = history.fetched (earlier + 1) site := by
  induction seen, after_fetch using Nat.le_induction with
  | base => rfl
  | succ place after_fetch ih =>
      rw [← ih (by omega)]
      by_contra changed
      obtain ⟨call, other, former, before, ⟨called, entry, member, rfl⟩, fate⟩ :=
        clocked.changes place site changed
      obtain ⟨formerly⟩ := isRun.preparation_of_called called
      have alike : former.userId = user :=
        (formerly.owner_eq clocked.shows member).symm.trans owned
      obtain ⟨notPending, notLate⟩ := clocked.alone isRun preparation sent own
        (by omega : call < preparation.answer) called alike
      rcases fate with pending | ⟨finish, later, answered⟩
      · exact notPending pending
      · rcases Nat.lt_or_ge finish moment with early | late
        · have := latest finish early ⟨other, former, answered, entry, member, rfl⟩
          omega
        · exact notLate finish _ late answered

/-- Every fetch of a site is marked with an instant of its own time, and the fetches of a
user come one after the other. -/
theorem mark_of_fetch (clocked : ClockedHistory record user history clock)
    (isRun : Trigger.IsRun gate record) (fetched : record.FetchedAt site moment) :
    ∃ last, history.fetched (moment + 1) site = some last ∧ last.ticks ≤ clock (moment + 1) ∧
      (history.owner site = user → ∀ earlier < moment, record.FetchedAt site earlier →
        clock (earlier + 1) ≤ last.ticks) := by
  obtain ⟨number, order, answered, entry, member, rfl⟩ := fetched
  obtain ⟨call, before, called⟩ := isRun.called_of_answered answered rfl
  obtain ⟨last, marked, first, final⟩ :=
    clocked.marks call moment number order before called answered entry member
  refine ⟨last, marked, final, fun owned earlier early fetchedEarlier => ?_⟩
  obtain ⟨preparation⟩ := isRun.preparation_of_answered answered
  have own : order.userId = user := (preparation.owner_eq clocked.shows member).symm.trans owned
  have past := preparation.fetch_before_load isRun clocked.shows (own ▸ clocked.apart)
    (List.mem_of_getElem? called) member early fetchedEarlier
  have loaded := preparation.loaded_before_call isRun called
  have call_lt := preparation.call_lt
  calc
    clock (earlier + 1) ≤ clock call := clocked.forward _ _ (by omega)
    _ ≤ last.ticks := first

/-- A task that comes to fetch a site has seen a mark no older than any fetch before. -/
theorem mark_seen (clocked : ClockedHistory record user history clock)
    (isRun : Trigger.IsRun gate record)
    (preparation : Preparation gate record number order moment)
    (sent : .called number (.refresh order) ∈ record) (own : order.userId = user)
    {entry : UserSite} (member : entry ∈ order.sites) {earlier : Nat} (before : earlier < moment)
    (fetched : record.FetchedAt entry.id earlier) :
    ∃ last mark, history.fetched (earlier + 1) entry.id = some last ∧
      entry.lastDataFetch = some mark ∧ last.ticks ≤ mark.ticks := by
  have owned : history.owner entry.id = user :=
    (preparation.owner_eq clocked.shows member).trans own
  obtain ⟨latest, latest_lt, le_latest, fetchedLatest, greatest⟩ :=
    Record.exists_latest before fetched
  have past := preparation.fetch_before_load isRun clocked.shows (own ▸ clocked.apart) sent
    member latest_lt fetchedLatest
  obtain ⟨seen, after_call, until_answer, shown⟩ := preparation.shown clocked.shows member
  obtain ⟨mark, marked, -, increasing⟩ := clocked.mark_of_fetch isRun fetchedLatest
  have stays := clocked.mark_stays isRun owned preparation sent own greatest
    (by omega : latest + 1 ≤ seen) until_answer
  obtain ⟨last, formerly, final, -⟩ := clocked.mark_of_fetch isRun fetched
  refine ⟨last, mark, formerly, shown.trans (stays.trans marked), ?_⟩
  rcases Nat.eq_or_lt_of_le le_latest with rfl | earlier_lt
  · obtain rfl : last = mark := Option.some.inj (formerly.symm.trans marked)
    exact Int.le_refl _
  · exact Int.le_trans final (increasing owned earlier earlier_lt fetched)

/-- The clock that a task has read shows no later than it does now. -/
theorem reading_le (clocked : ClockedHistory record user history clock)
    (isRun : Trigger.IsRun gate record) {now : Instant}
    (read : ⟨.clock, now⟩ ∈ Record.answers (record.take moment) number) :
    now.ticks ≤ clock moment := by
  obtain ⟨answer, before, answered⟩ := Record.mem_answers_take_iff.mp read
  obtain ⟨call, earlier, called⟩ := isRun.called_of_answered answered rfl
  calc
    now.ticks ≤ clock (answer + 1) :=
      (clocked.reads call answer number now earlier called answered).2
    _ ≤ clock moment := clocked.forward _ _ before

/-- Judged at one instant under one snapshot, the sites that are sent keep the interval. -/
theorem spacing (clocked : ClockedHistory record user history clock)
    (isRun : Trigger.IsRun gate record) (owned : history.owner site = user)
    (sent : record.SentAt site number order moment) (origin : order.origin = .schedule) :
    Nonempty (Spacing record history site number moment) := by
  obtain ⟨called, entry, member, rfl⟩ := sent
  obtain ⟨preparation⟩ := isRun.preparation_of_called called
  have own : order.userId = user := (preparation.owner_eq clocked.shows member).symm.trans owned
  have entitlement := preparation.entitlement
  obtain ⟨candidate, scheduled, -, rules⟩ := entitlement.scheduled origin
  refine ⟨candidate, entitlement.snapshot, entitlement.now, scheduled ▸ entitlement.errands_eq,
    ?_, ?_⟩
  · intro other
    rw [entitlement.answers_eq, scheduled]
    simp [Errand.opening]
  · intro earlier before fetched
    obtain ⟨last, mark, marked, seen, le_mark⟩ := clocked.mark_seen isRun preparation
      (List.mem_of_getElem? called) own member before fetched
    obtain ⟨-, -, unthrottled⟩ := rules entry member
    have interval := unthrottled mark seen
    refine ⟨last, marked, ?_⟩
    unfold Instant.since at interval ⊢
    omega

end ClockedHistory

/-- A bulk refresh that goes back to a pass has the origin that says so. -/
theorem Entitlement.origin_of_scheduled {gate : Gate} {record : Record} {number : Nat}
    {order : RefreshOrder} (entitlement : Entitlement gate record number order)
    {candidate : Candidate} {snapshot : Settings}
    (begun : record.errands number = [.scheduled candidate snapshot]) :
    order.origin = .schedule := by
  have same := List.singleton_injective (begun.symm.trans entitlement.errands_eq)
  cases origin : order.origin with
  | schedule => rfl
  | operator =>
      obtain ⟨userId, forced⟩ := entitlement.origin_iff.mp origin
      rw [forced] at same
      simp at same

namespace Trigger

/-- In every run each scheduled bulk refresh keeps the interval from all former fetches
of its sites. As long as the clock has not come that far, none contains the site. -/
theorem fetches_spaced (gate : Gate) (settings : Settings) (sizes : PoolSizes)
    (moves : List Move) {user : UserId} {history : SiteHistory} {clock : Nat → Int}
    (clocked : ClockedHistory ((create gate settings sizes).run moves).2 user history clock)
    {site : SiteId} (owned : history.owner site = user) :
    let record : Record := ((create gate settings sizes).run moves).2
    (∀ moment number order, record.SentAt site number order moment → order.origin = .schedule →
      Nonempty (Spacing record history site number moment)) ∧
      ∀ earlier moment last number candidate snapshot order, earlier < moment →
        record.FetchedAt site earlier → history.fetched (earlier + 1) site = some last →
          Record.errands (record.take moment) number = [.scheduled candidate snapshot] →
            clock moment < last.ticks + snapshot.minInterval →
              ¬ record.SentAt site number order moment := by
  intro record
  have isRun : IsRun gate record := ⟨settings, sizes, moves, rfl⟩
  constructor
  · intro moment number order sent origin
    exact clocked.spacing isRun owned sent origin
  · intro earlier moment last number candidate snapshot order before fetched marked begun early sent
    obtain ⟨preparation⟩ := isRun.preparation_of_called sent.1
    have origin := preparation.entitlement.origin_of_scheduled begun
    obtain ⟨spacing⟩ := clocked.spacing isRun owned sent origin
    obtain ⟨-, rfl⟩ := Errand.scheduled.inj
      (List.singleton_injective (begun.symm.trans spacing.errands_eq))
    obtain ⟨other, alike, interval⟩ := spacing.spaced earlier before fetched
    obtain rfl : last = other := Option.some.inj (marked.symm.trans alike)
    have reading := clocked.reading_le isRun ((spacing.read_iff _).mpr rfl)
    unfold Instant.since at interval
    omega

section Interval

def regular : User :=
  ⟨Identifier.ofNat 7, Identifier.ofNat 1, .active, false⟩

def regularSite (last : Option Instant) : UserSite :=
  ⟨Identifier.ofNat 10, regular.id, "bank", last, false, .proceed⟩

def regularOrder (last : Option Instant) (origin : Origin) : RefreshOrder :=
  ⟨regular.id, [regularSite last], false, ⟨"token"⟩, origin⟩

/-- A task comes to a bulk refresh of the site. -/
def regularCalls (number : Nat) (last : Option Instant) (now : Instant) : List Move :=
  [.call number, .answer number ⟨.user regular.id, .ok (some regular)⟩,
    .call number, .answer number ⟨.sites regular.id, .ok [regularSite last]⟩,
    .call number, .answer number ⟨.clock, now⟩,
    .call number, .answer number ⟨.credential regular.tenantId regular.id, .ok ⟨"token"⟩⟩,
    .call number]

def regularContacts (number : Nat) (last : Option Instant) (now : Instant)
    (origin : Origin) : Record :=
  [.called number (.user regular.id), .answered number ⟨.user regular.id, .ok (some regular)⟩,
    .called number (.sites regular.id),
    .answered number ⟨.sites regular.id, .ok [regularSite last]⟩,
    .called number .clock, .answered number ⟨.clock, now⟩,
    .called number (.credential regular.tenantId regular.id),
    .answered number ⟨.credential regular.tenantId regular.id, .ok ⟨"token"⟩⟩,
    .called number (.refresh (regularOrder last origin))]

/-- A forced refresh, and a pass a day later. -/
def spacedMoves : List Move :=
  [.runForced regular.id, .advance 0] ++ regularCalls 0 none ⟨0, 0⟩ ++
  [.answer 0 ⟨.refresh (regularOrder none .operator), .ok ()⟩,
    .triggerPass (.ofInstant ⟨0, 0⟩), .start .pass 1, .advance 1,
    .call 1, .answer 1 ⟨.tenants, .ok [regular.tenantId]⟩,
    .call 1, .answer 1 ⟨.usersInRange regular.tenantId (Wheel.span 0 4), .ok [regular.id]⟩,
    .advance 1, .advance 1, .start .dispatch 2] ++
  regularCalls 2 (some ⟨5, 0⟩) ⟨90000, 0⟩

def spacedRecord : Record :=
  [.begun 0 (.forced regular.id), .started 0, .answered 0 ⟨.snapshot, .default⟩] ++
  regularContacts 0 none ⟨0, 0⟩ .operator ++
  [.answered 0 ⟨.refresh (regularOrder none .operator), .ok ()⟩,
    .begun 1 (.pass (.ofInstant ⟨0, 0⟩)), .accepted 1 .pass, .started 1,
    .answered 1 ⟨.snapshot, .default⟩,
    .called 1 .tenants, .answered 1 ⟨.tenants, .ok [regular.tenantId]⟩,
    .called 1 (.usersInRange regular.tenantId (Wheel.span 0 4)),
    .answered 1 ⟨.usersInRange regular.tenantId (Wheel.span 0 4), .ok [regular.id]⟩,
    .reported 1 (Journal.note .trace "Tenant candidates"),
    .answered 1 ⟨.enqueue ⟨regular.tenantId, regular.id⟩ .default, .ok ()⟩,
    .begun 2 (.scheduled ⟨regular.tenantId, regular.id⟩ .default), .accepted 2 .dispatch,
    .started 2] ++
  regularContacts 2 (some ⟨5, 0⟩) ⟨90000, 0⟩ .schedule

theorem spaced_run :
    ((create Gate.neededAction .default .default).run spacedMoves).2 = spacedRecord :=
  rfl

/-- The forced refresh fetches the site within five seconds. -/
def spacedHistory : SiteHistory where
  owner _ := regular.id
  fetched moment site :=
    if site = Identifier.ofNat 10 ∧ 12 < moment then some ⟨5, 0⟩ else none

def spacedClock (moment : Nat) : Int :=
  if moment ≤ 11 then 0 else if moment ≤ 20 then 5000000000 else 90000000000000

theorem spaced_shows : spacedRecord.Shows spacedHistory where
  owned number user sites loaded site member := by
    simp [spacedRecord, regularContacts] at loaded
    rcases loaded with ⟨-, rfl, -⟩ | ⟨-, rfl, -⟩ <;> rfl
  current call answer number user sites before called answered := by
    have calls := List.mk_mem_zipIdx_iff_getElem?.mpr called
    have answers := List.mk_mem_zipIdx_iff_getElem?.mpr answered
    simp [spacedRecord, regularContacts, List.zipIdx_cons] at calls answers
    rcases calls with ⟨⟨rfl, -⟩, rfl⟩ | ⟨⟨rfl, -⟩, rfl⟩
    · obtain ⟨⟨-, rfl⟩, rfl⟩ : (_ ∧ sites = [regularSite none]) ∧ answer = 6 := by
        simpa using answers
      intro site member
      exact ⟨6, by decide, by decide, List.mem_singleton.mp member ▸ rfl⟩
    · obtain ⟨⟨-, rfl⟩, rfl⟩ : (_ ∧ sites = [regularSite (some ⟨5, 0⟩)]) ∧ answer = 29 := by
        simpa using answers
      intro site member
      exact ⟨29, by decide, by decide, List.mem_singleton.mp member ▸ rfl⟩

/-- The forced refresh is over when the scheduled one loads the sites. -/
theorem spaced_apart : spacedRecord.Apart regular.id := by
  have turns {moment number : Nat} (refreshing : spacedRecord.Refreshing regular.id number moment) :
      (number = 0 ∧ moment ≤ 12) ∨ (number = 2 ∧ 28 < moment) := by
    obtain ⟨call, before, called⟩ := refreshing.loads
    have calls := List.mk_mem_zipIdx_iff_getElem?.mpr called
    simp [spacedRecord, regularContacts, List.zipIdx_cons] at calls
    rcases calls with ⟨rfl, rfl⟩ | ⟨rfl, rfl⟩
    · refine Or.inl ⟨rfl, ?_⟩
      by_contra late
      exact refreshing.unanswered 12 (by omega) (regularOrder none .operator) (.ok ()) rfl
    · exact Or.inr ⟨rfl, before⟩
  intro moment number other refreshing others
  rcases turns refreshing with ⟨rfl, early⟩ | ⟨rfl, late⟩ <;>
    rcases turns others with ⟨rfl, early'⟩ | ⟨rfl, late'⟩
  · rfl
  · omega
  · omega
  · rfl

theorem spaced_clocked : ClockedHistory spacedRecord regular.id spacedHistory spacedClock where
  apart := spaced_apart
  shows := spaced_shows
  forward earlier later ordered := by
    unfold spacedClock
    split <;> split <;> omega
  reads call answer number now before called answered := by
    have calls := List.mk_mem_zipIdx_iff_getElem?.mpr called
    have answers := List.mk_mem_zipIdx_iff_getElem?.mpr answered
    simp [spacedRecord, regularContacts, List.zipIdx_cons] at calls answers
    rcases calls with ⟨rfl, rfl⟩ | ⟨rfl, rfl⟩
    · obtain ⟨rfl, rfl⟩ : now = ⟨0, 0⟩ ∧ answer = 8 := by simpa using answers
      decide
    · obtain ⟨rfl, rfl⟩ : now = ⟨90000, 0⟩ ∧ answer = 31 := by simpa using answers
      decide
  marks call answer number order before called answered site member := by
    have calls := List.mk_mem_zipIdx_iff_getElem?.mpr called
    have answers := List.mk_mem_zipIdx_iff_getElem?.mpr answered
    simp [spacedRecord, regularContacts, List.zipIdx_cons] at calls answers
    obtain ⟨⟨-, rfl⟩, rfl⟩ := answers
    obtain rfl : call = 11 := by omega
    obtain rfl := List.mem_singleton.mp member
    exact ⟨⟨5, 0⟩, by decide, by decide, by decide⟩
  changes moment site changed := by
    obtain ⟨rfl, rfl⟩ : site = Identifier.ofNat 10 ∧ moment = 12 := by
      by_contra elsewhere
      apply changed
      unfold spacedHistory
      by_cases own : site = Identifier.ofNat 10
      · have away : moment ≠ 12 := fun here => elsewhere ⟨own, here⟩
        have alike : 12 < moment + 1 ↔ 12 < moment := by omega
        simp only [alike]
      · simp only [own, false_and]
    exact ⟨11, 0, regularOrder none .operator, by decide, ⟨rfl, by decide⟩,
      Or.inr ⟨12, by decide, rfl⟩⟩

/-- The pass a day later sends the site again, which was fetched five seconds in. -/
theorem fetches_spaced_by_a_day :
    let record : Record := ((create Gate.neededAction .default .default).run spacedMoves).2
    ClockedHistory record regular.id spacedHistory spacedClock ∧
      record.FetchedAt (Identifier.ofNat 10) 12 ∧
      record.SentAt (Identifier.ofNat 10) 2 (regularOrder (some ⟨5, 0⟩) .schedule) 34 ∧
      Nonempty (Spacing record spacedHistory (Identifier.ofNat 10) 2 34) := by
  intro record
  have told : record = spacedRecord := spaced_run
  have clocked : ClockedHistory record regular.id spacedHistory spacedClock :=
    told ▸ spaced_clocked
  have fetched : record.FetchedAt (Identifier.ofNat 10) 12 :=
    ⟨0, regularOrder none .operator, by rw [told]; rfl, by decide⟩
  have sent : record.SentAt (Identifier.ofNat 10) 2
      (regularOrder (some ⟨5, 0⟩) .schedule) 34 :=
    ⟨by rw [told]; rfl, by decide⟩
  have spaced := fetches_spaced Gate.neededAction .default .default spacedMoves clocked
    (rfl : spacedHistory.owner (Identifier.ofNat 10) = regular.id)
  exact ⟨clocked, fetched, sent, spaced.1 34 2 _ sent rfl⟩

end Interval

end Trigger

end UnattendedRefresh
