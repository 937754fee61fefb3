import UnattendedRefresh.Proofs.Trigger.Fetches

/-!
# One fetch for a one-off user

A site of a user who may be fetched once is fetched at most once in a whole run,
however often and by whomever refreshes of the user are asked for. What carries this
is the order of the work: the sites are loaded after the former fetch was over, so
the loading shows it, and the rules leave the site out.
-/

namespace UnattendedRefresh

/-- What the collaborators keep to around a user who may be fetched once: refreshes of
the user do not overlap, a bulk refresh that comes back well marks every site that it
was asked for as fetched, no mark is taken back, and the user stays a one-off user. -/
structure OneOffHistory (record : Record) (user : UserId) (history : SiteHistory) : Prop where
  apart : record.Apart user
  shows : record.Shows history
  marks : ∀ moment number order,
    record[moment]? = some (.answered number ⟨.refresh order, .ok ()⟩) →
      ∀ site ∈ order.sites, (history.fetched (moment + 1) site.id).isSome = true
  keeps : ∀ moment site, (history.fetched moment site).isSome = true →
    (history.fetched (moment + 1) site).isSome = true
  oneOff : ∀ number asked found, .answered number ⟨.user asked, .ok (some found)⟩ ∈ record →
    found.id = user → found.oneOff = true

namespace OneOffHistory

variable {gate : Gate} {record : Record} {user : UserId} {history : SiteHistory}
  {site : SiteId} {moment : Nat}

theorem isSome_of_le (oneOff : OneOffHistory record user history) {later : Nat}
    (ordered : moment ≤ later) (marked : (history.fetched moment site).isSome = true) :
    (history.fetched later site).isSome = true := by
  induction later, ordered using Nat.le_induction with
  | base => exact marked
  | succ later ordered ih => exact oneOff.keeps later site ih

/-- A task that comes to fetch the site has seen it without a mark. -/
theorem unmarked (oneOff : OneOffHistory record user history) {number : Nat}
    {order : RefreshOrder} (preparation : Preparation gate record number order moment)
    (own : order.userId = user) {entry : UserSite} (member : entry ∈ order.sites) :
    ∃ seen, preparation.call < seen ∧ history.fetched seen entry.id = none := by
  obtain ⟨seen, after_call, -, shown⟩ := preparation.shown oneOff.shows member
  have entitlement := preparation.entitlement
  have loaded : .answered number ⟨.user entitlement.asked, .ok (some entitlement.user)⟩ ∈
      record := by
    have given : ⟨.user entitlement.asked, .ok (some entitlement.user)⟩ ∈
        Record.answers (record.take moment) number := by
      rw [entitlement.answers_eq]
      simp
    exact List.mem_of_mem_take (Record.mem_answers_iff.mp given)
  have once := oneOff.oneOff number _ _ loaded (entitlement.userId_eq.symm.trans own)
  exact ⟨seen, after_call, shown ▸ entitlement.never_fetched once entry member⟩

/-- A fetch of a site of the user sees that no fetch came before. -/
theorem fetched_once (oneOff : OneOffHistory record user history)
    (isRun : Trigger.IsRun gate record) (owned : history.owner site = user)
    (fetched : record.FetchedAt site moment) :
    history.fetched 0 site = none ∧ ∀ earlier < moment, ¬ record.FetchedAt site earlier := by
  obtain ⟨number, order, answered, entry, member, rfl⟩ := fetched
  obtain ⟨preparation⟩ := isRun.preparation_of_answered answered
  have own : order.userId = user := (preparation.owner_eq oneOff.shows member).symm.trans owned
  obtain ⟨seen, after_call, none⟩ := oneOff.unmarked preparation own member
  have unmarked_before {place : Nat} (before : place ≤ seen) :
      (history.fetched place entry.id).isSome ≠ true := by
    intro marked
    have still := oneOff.isSome_of_le before marked
    simp [none] at still
  refine ⟨by simpa using unmarked_before (Nat.zero_le seen), ?_⟩
  intro earlier before fetchedEarlier
  have past := preparation.fetch_before_load isRun oneOff.shows (own ▸ oneOff.apart)
    (isRun.sent_of_answered answered) member before fetchedEarlier
  obtain ⟨former, formerOrder, formerly, other, included, same⟩ := fetchedEarlier
  have marked := oneOff.marks earlier former formerOrder formerly other included
  exact unmarked_before (by omega) (same ▸ marked)

end OneOffHistory

namespace Trigger

/-- In every run a site of a one-off user is part of at most one bulk refresh that
comes back well, and of none if it was fetched before the run. -/
theorem one_off_fetched_at_most_once (gate : Gate) (settings : Settings) (sizes : PoolSizes)
    (moves : List Move) {user : UserId} {history : SiteHistory}
    (oneOff : OneOffHistory ((create gate settings sizes).run moves).2 user history)
    {site : SiteId} (owned : history.owner site = user) :
    let record : Record := ((create gate settings sizes).run moves).2
    (∀ moment other, record.FetchedAt site moment → record.FetchedAt site other →
        moment = other) ∧
      ((history.fetched 0 site).isSome = true → ∀ moment, ¬ record.FetchedAt site moment) := by
  intro record
  have isRun : IsRun gate record := ⟨settings, sizes, moves, rfl⟩
  constructor
  · intro moment other first second
    rcases Nat.lt_trichotomy moment other with before | same | after
    · exact absurd first ((oneOff.fetched_once isRun owned second).2 moment before)
    · exact same
    · exact absurd second ((oneOff.fetched_once isRun owned first).2 other after)
  · intro marked moment fetched
    have none := (oneOff.fetched_once isRun owned fetched).1
    simp [none] at marked

section Insistence

def insistentOrder : RefreshOrder :=
  ⟨newcomer.id, newcomerSites.take 1, true, ⟨"token"⟩, .operator⟩

/-- The sites once the first of them was fetched. -/
def newcomerFetched : List UserSite :=
  newcomerSites.map fun site => { site with lastDataFetch := some ⟨0, 0⟩ }

def unthrottled : Settings :=
  { Settings.default with minSecondsSinceLastRefresh := 0 }

/-- An operator has the newcomer refreshed, and under new settings again. -/
def insistentMoves : List Move :=
  [.runForced newcomer.id, .advance 0,
    .call 0, .answer 0 ⟨.user newcomer.id, .ok (some newcomer)⟩,
    .call 0, .answer 0 ⟨.sites newcomer.id, .ok newcomerSites⟩,
    .call 0, .answer 0 ⟨.clock, ⟨0, 0⟩⟩, .advance 0,
    .call 0, .answer 0 ⟨.credential newcomer.tenantId newcomer.id, .ok ⟨"token"⟩⟩,
    .call 0, .answer 0 ⟨.refresh insistentOrder, .ok ()⟩,
    .replaceSettings unthrottled, .runForced newcomer.id, .advance 1,
    .call 1, .answer 1 ⟨.user newcomer.id, .ok (some newcomer)⟩,
    .call 1, .answer 1 ⟨.sites newcomer.id, .ok newcomerFetched⟩,
    .call 1, .answer 1 ⟨.clock, ⟨9, 0⟩⟩, .advance 1, .advance 1, .advance 1, .advance 1,
    .advance 1]

def insistentRecord : Record :=
  [.begun 0 (.forced newcomer.id), .started 0, .answered 0 ⟨.snapshot, .default⟩,
    .called 0 (.user newcomer.id), .answered 0 ⟨.user newcomer.id, .ok (some newcomer)⟩,
    .called 0 (.sites newcomer.id), .answered 0 ⟨.sites newcomer.id, .ok newcomerSites⟩,
    .called 0 .clock, .answered 0 ⟨.clock, ⟨0, 0⟩⟩,
    .reported 0 (Journal.note .debug "User-site excluded from refresh"),
    .called 0 (.credential newcomer.tenantId newcomer.id),
    .answered 0 ⟨.credential newcomer.tenantId newcomer.id, .ok ⟨"token"⟩⟩,
    .called 0 (.refresh insistentOrder), .answered 0 ⟨.refresh insistentOrder, .ok ()⟩,
    .begun 1 (.forced newcomer.id), .started 1, .answered 1 ⟨.snapshot, unthrottled⟩,
    .called 1 (.user newcomer.id), .answered 1 ⟨.user newcomer.id, .ok (some newcomer)⟩,
    .called 1 (.sites newcomer.id), .answered 1 ⟨.sites newcomer.id, .ok newcomerFetched⟩,
    .called 1 .clock, .answered 1 ⟨.clock, ⟨9, 0⟩⟩,
    .reported 1 (Journal.note .debug "User-site excluded from refresh"),
    .reported 1 (Journal.note .debug "User-site excluded from refresh"),
    .reported 1 (Journal.note .debug "No eligible user-sites"),
    .reported 1 (Journal.note .info "Forced refresh complete"),
    .ended 1 (some .refreshed)]

theorem insistent_run :
    ((create Gate.neededAction .default .default).run insistentMoves).2 = insistentRecord :=
  rfl

/-- The first site is marked where the bulk refresh comes back. -/
def insistentHistory : SiteHistory where
  owner _ := newcomer.id
  fetched moment site :=
    if site = Identifier.ofNat 10 ∧ moment ≤ 13 then none else some ⟨0, 0⟩

theorem insistent_shows : insistentRecord.Shows insistentHistory where
  owned number user sites loaded site member := by
    simp [insistentRecord] at loaded
    rcases loaded with ⟨-, rfl, -⟩ | ⟨-, rfl, -⟩ <;> rfl
  current call answer number user sites before called answered := by
    have calls := List.mk_mem_zipIdx_iff_getElem?.mpr called
    have answers := List.mk_mem_zipIdx_iff_getElem?.mpr answered
    simp [insistentRecord, List.zipIdx_cons] at calls answers
    rcases calls with ⟨⟨rfl, -⟩, rfl⟩ | ⟨⟨rfl, -⟩, rfl⟩
    · obtain ⟨⟨-, rfl⟩, rfl⟩ : (_ ∧ sites = newcomerSites) ∧ answer = 6 := by simpa using answers
      intro site member
      refine ⟨6, by decide, by decide, ?_⟩
      revert site
      decide
    · obtain ⟨⟨-, rfl⟩, rfl⟩ : (_ ∧ sites = newcomerFetched) ∧ answer = 20 := by
        simpa using answers
      intro site member
      refine ⟨20, by decide, by decide, ?_⟩
      revert site
      decide

theorem insistent_oneOff : OneOffHistory insistentRecord newcomer.id insistentHistory where
  apart := by
    have first {moment number : Nat}
        (refreshing : insistentRecord.Refreshing newcomer.id number moment) : number = 0 := by
      obtain ⟨order, sent⟩ := refreshing.sends
      simp [insistentRecord] at sent
      exact sent.1
    intro moment number other refreshing others
    rw [first refreshing, first others]
  shows := insistent_shows
  marks moment number order answered site member := by
    have answers := List.mk_mem_zipIdx_iff_getElem?.mpr answered
    simp [insistentRecord, List.zipIdx_cons] at answers
    obtain ⟨-, rfl⟩ := answers
    simp [insistentHistory]
  keeps moment site marked := by
    unfold insistentHistory at marked ⊢
    dsimp only at marked ⊢
    split at marked
    next => simp at marked
    next late =>
      rw [if_neg fun early => late ⟨early.1, by omega⟩]
      rfl
  oneOff number asked found loaded same := by
    simp [insistentRecord] at loaded
    rcases loaded with ⟨-, -, rfl⟩ | ⟨-, -, rfl⟩ <;> rfl

/-- One site is fetched by the first of the two refreshes and not again; the other one
was fetched before, and is not fetched at all. -/
theorem one_off_fetched_at_most_once_insistently :
    let record : Record := ((create Gate.neededAction .default .default).run insistentMoves).2
    OneOffHistory record newcomer.id insistentHistory ∧
      record.FetchedAt (Identifier.ofNat 10) 13 ∧
      (∀ moment, record.FetchedAt (Identifier.ofNat 10) moment → moment = 13) ∧
      ∀ moment, ¬ record.FetchedAt (Identifier.ofNat 11) moment := by
  intro record
  have told : record = insistentRecord := insistent_run
  have oneOff : OneOffHistory record newcomer.id insistentHistory := told ▸ insistent_oneOff
  have fetched : record.FetchedAt (Identifier.ofNat 10) 13 :=
    ⟨0, insistentOrder, by rw [told]; rfl, by decide⟩
  have once := one_off_fetched_at_most_once Gate.neededAction .default .default insistentMoves
    oneOff (rfl : insistentHistory.owner (Identifier.ofNat 10) = newcomer.id)
  have never := one_off_fetched_at_most_once Gate.neededAction .default .default insistentMoves
    oneOff (rfl : insistentHistory.owner (Identifier.ofNat 11) = newcomer.id)
  exact ⟨oneOff, fetched, fun moment other => once.1 moment 13 other fetched, never.2 (by decide)⟩

end Insistence

end Trigger

end UnattendedRefresh
