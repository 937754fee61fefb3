import UnattendedRefresh.Eligibility

/-!
# The rules of eligibility

Five rules keep a site out of a refresh. They are tried in one order, and the verdict
names the first that applies. An operator's force sets the last three aside and leaves
the first two as they are. Of the five only the throttle looks at the clock, and it lets
go with time, so a site that is eligible stays so.
-/

namespace UnattendedRefresh

theorem OrderedSet.contains_iff {Key : Type} [Ord Key] [DecidableEq Key] {set : OrderedSet Key}
    {key : Key} : set.contains key = true ↔ key ∈ set.toList := by
  simp [contains, toList, OrderedMap.find?, OrderedMap.keys]

namespace Exclusion

/-- The rules in the order in which they are tried. -/
def inOrder : List Exclusion :=
  [blacklisted, complianceExhausted, actionRequired, throttled, migrating]

/-- Whether force sets the rule aside. -/
def isWaivable : Exclusion → Bool
  | blacklisted => false
  | complianceExhausted => false
  | actionRequired => true
  | throttled => true
  | migrating => true

/-- What each rule says. -/
def Holds (assessment : Assessment) (site : UserSite) : Exclusion → Prop
  | blacklisted => site.provider ∈ assessment.settings.blacklistedProviders.toList
  | complianceExhausted => assessment.oneOff = true ∧ ∃ last, site.lastDataFetch = some last
  | actionRequired => assessment.gate site = false
  | throttled => ∃ last, site.lastDataFetch = some last ∧
      assessment.now.since last < assessment.settings.minInterval
  | migrating => site.migrating = true

end Exclusion

/-- The verdict that force leaves of one. -/
def Verdict.waived : Verdict → Verdict
  | .eligible => .eligible
  | .excluded reason => if reason.isWaivable then .eligible else .excluded reason

namespace Assessment

def forced (assessment : Assessment) : Assessment :=
  { assessment with force := true }

def unforced (assessment : Assessment) : Assessment :=
  { assessment with force := false }

/-- The same judgement at another instant. -/
def at_ (assessment : Assessment) (now : Instant) : Assessment :=
  { assessment with now }

/-- The rule holds and is not set aside. -/
def Counts (assessment : Assessment) (site : UserSite) (reason : Exclusion) : Prop :=
  reason.Holds assessment site ∧ (assessment.force = true → reason.isWaivable = false)

variable {assessment : Assessment} {site : UserSite} {reason : Exclusion}

/-- Each test of the verdict is what its rule says. -/
theorem isBlacklisted_iff : assessment.settings.isBlacklisted site.provider = true ↔
    Exclusion.blacklisted.Holds assessment site :=
  OrderedSet.contains_iff

theorem isExhausted_iff : (assessment.oneOff = true ∧ site.lastDataFetch.isSome = true) ↔
    Exclusion.complianceExhausted.Holds assessment site :=
  and_congr_right' Option.isSome_iff_exists

theorem isRefused_iff : ¬ assessment.gate site = true ↔
    Exclusion.actionRequired.Holds assessment site :=
  Bool.not_eq_true _ ▸ Iff.rfl

theorem isThrottled_iff :
    assessment.isThrottled site = true ↔ Exclusion.throttled.Holds assessment site := by
  cases fetched : site.lastDataFetch <;> simp [isThrottled, Exclusion.Holds, fetched]

instance (assessment : Assessment) (site : UserSite) :
    DecidablePred (Exclusion.Holds assessment site)
  | .blacklisted => decidable_of_iff _ isBlacklisted_iff
  | .complianceExhausted => decidable_of_iff _ isExhausted_iff
  | .actionRequired => decidable_of_iff _ isRefused_iff
  | .throttled => decidable_of_iff _ isThrottled_iff
  | .migrating => inferInstanceAs (Decidable (_ = _))

instance (assessment : Assessment) (site : UserSite) :
    DecidablePred (assessment.Counts site) :=
  fun reason => inferInstanceAs (Decidable (reason.Holds assessment site ∧ _))

/-- The verdict goes through the rules and stops at the first that counts. -/
theorem exclusion?_eq_find? (assessment : Assessment) (site : UserSite) :
    assessment.exclusion? site = Exclusion.inOrder.find? (assessment.Counts site) := by
  have migrating_iff : site.migrating = true ↔ Exclusion.migrating.Holds assessment site := Iff.rfl
  simp only [exclusion?, isBlacklisted_iff, isExhausted_iff, isRefused_iff, isThrottled_iff,
    migrating_iff, Exclusion.inOrder, List.find?_cons, List.find?_nil, Counts,
    Exclusion.isWaivable]
  by_cases listed : Exclusion.blacklisted.Holds assessment site
  · simp [listed]
  by_cases exhausted : Exclusion.complianceExhausted.Holds assessment site
  · simp [listed, exhausted]
  by_cases force : assessment.force = true
  · simp [listed, exhausted, force]
  by_cases refused : Exclusion.actionRequired.Holds assessment site
  · simp [listed, exhausted, force, refused]
  by_cases throttled : Exclusion.throttled.Holds assessment site
  · simp [listed, exhausted, force, refused, throttled]
  by_cases migrating : Exclusion.migrating.Holds assessment site <;>
    simp [listed, exhausted, force, refused, throttled, migrating]

theorem evaluate_eq_excluded_iff :
    assessment.evaluate site = .excluded reason ↔ assessment.exclusion? site = some reason := by
  cases found : assessment.exclusion? site <;> simp [evaluate, found]

theorem evaluate_eq_eligible_iff :
    assessment.evaluate site = .eligible ↔ assessment.exclusion? site = none := by
  cases found : assessment.exclusion? site <;> simp [evaluate, found]

/-- The rule counts, and none before it does. -/
def IsFirst (assessment : Assessment) (site : UserSite) (reason : Exclusion) : Prop :=
  assessment.Counts site reason ∧ ∃ before after,
    Exclusion.inOrder = before ++ reason :: after ∧
      ∀ earlier ∈ before, ¬ assessment.Counts site earlier

theorem excluded_iff_isFirst :
    assessment.evaluate site = .excluded reason ↔ assessment.IsFirst site reason := by
  rw [evaluate_eq_excluded_iff, exclusion?_eq_find?, List.find?_eq_some_iff_append]
  simp [IsFirst]

theorem mem_inOrder (reason : Exclusion) : reason ∈ Exclusion.inOrder := by
  cases reason <;> decide

theorem eligible_iff :
    assessment.evaluate site = .eligible ↔ ∀ reason, ¬ assessment.Counts site reason := by
  rw [evaluate_eq_eligible_iff, exclusion?_eq_find?, List.find?_eq_none]
  simp [mem_inOrder]

theorem excluded_iff :
    (∃ reason, assessment.evaluate site = .excluded reason) ↔
      ∃ reason, assessment.Counts site reason := by
  simp only [evaluate_eq_excluded_iff, ← Option.isSome_iff_exists, exclusion?_eq_find?,
    List.find?_isSome, mem_inOrder, true_and, decide_eq_true_eq]

theorem forced_counts_iff :
    assessment.forced.Counts site reason ↔
      reason.Holds assessment site ∧ reason.isWaivable = false := by
  cases reason <;> simp [Counts, forced, Exclusion.Holds]

theorem unforced_counts_iff :
    assessment.unforced.Counts site reason ↔ reason.Holds assessment site := by
  cases reason <;> simp [Counts, unforced, Exclusion.Holds]

/-- Force leaves the first rules, so a rule that it leaves never comes after one that it
sets aside. -/
theorem mem_before_of_isWaivable {before after : List Exclusion} {lasting : Exclusion}
    (order : Exclusion.inOrder = before ++ reason :: after) (waivable : reason.isWaivable = true)
    (lasts : lasting.isWaivable = false) : lasting ∈ before := by
  have sorted : Exclusion.inOrder.Pairwise fun earlier later =>
      earlier.isWaivable = true → later.isWaivable = true := by decide
  have member := mem_inOrder lasting
  rw [order] at sorted member
  rcases List.mem_append.mp member with first | rest
  · exact first
  · obtain ⟨above, -⟩ := List.pairwise_cons.mp (List.pairwise_append.mp sorted).2.1
    rcases List.mem_cons.mp rest with rfl | later
    · simp [lasts] at waivable
    · simpa [lasts] using above lasting later waivable

/-- A verdict under force is the verdict without it, waived. -/
theorem evaluate_forced (assessment : Assessment) (site : UserSite) :
    assessment.forced.evaluate site = (assessment.unforced.evaluate site).waived := by
  cases verdict : assessment.unforced.evaluate site with
  | eligible =>
      have none := eligible_iff.mp verdict
      refine eligible_iff.mpr fun reason counts => none reason ?_
      exact unforced_counts_iff.mpr (forced_counts_iff.mp counts).1
  | excluded reason =>
      obtain ⟨counts, before, after, order, first⟩ := excluded_iff_isFirst.mp verdict
      cases waivable : reason.isWaivable with
      | true =>
          simp only [Verdict.waived, waivable, if_true]
          refine eligible_iff.mpr fun lasting counts => ?_
          obtain ⟨holds, lasts⟩ := forced_counts_iff.mp counts
          exact first lasting (mem_before_of_isWaivable order waivable lasts)
            (unforced_counts_iff.mpr holds)
      | false =>
          simp only [Verdict.waived, waivable, Bool.false_eq_true, if_false]
          refine excluded_iff_isFirst.mpr ⟨forced_counts_iff.mpr
            ⟨unforced_counts_iff.mp counts, waivable⟩, before, after, order, ?_⟩
          intro earlier member counts
          exact first earlier member (unforced_counts_iff.mpr (forced_counts_iff.mp counts).1)

theorem forced_excluded_iff : (∃ reason, assessment.forced.evaluate site = .excluded reason) ↔
    Exclusion.blacklisted.Holds assessment site ∨
      Exclusion.complianceExhausted.Holds assessment site := by
  simp only [excluded_iff, forced_counts_iff]
  constructor
  · rintro ⟨reason, holds, lasting⟩
    cases reason with
    | blacklisted => exact Or.inl holds
    | complianceExhausted => exact Or.inr holds
    | _ => cases lasting
  · rintro (holds | holds) <;> exact ⟨_, holds, rfl⟩

theorem unforced_excluded_iff : (∃ reason, assessment.unforced.evaluate site = .excluded reason) ↔
    Exclusion.blacklisted.Holds assessment site ∨
      Exclusion.complianceExhausted.Holds assessment site ∨
      Exclusion.actionRequired.Holds assessment site ∨
      Exclusion.throttled.Holds assessment site ∨
      Exclusion.migrating.Holds assessment site := by
  simp only [excluded_iff, unforced_counts_iff]
  constructor
  · rintro ⟨reason, holds⟩
    cases reason <;> simp [holds]
  · rintro (holds | holds | holds | holds | holds) <;> exact ⟨_, holds⟩

theorem eligible_waived {verdict : Verdict} (eligible : verdict = .eligible) :
    verdict.waived = .eligible := by
  rw [eligible, Verdict.waived]

theorem waived_eq_excluded_iff {verdict : Verdict} (lasting : reason.isWaivable = false) :
    verdict.waived = .excluded reason ↔ verdict = .excluded reason := by
  cases verdict with
  | eligible => simp [Verdict.waived]
  | excluded other =>
      cases waivable : other.isWaivable with
      | true =>
          have apart : other ≠ reason := fun same => by simp [same, lasting] at waivable
          simp [Verdict.waived, waivable, apart]
      | false => simp [Verdict.waived, waivable]

/-- A rule that applies at an instant has applied at every earlier one. -/
theorem Counts.of_later {later : Instant} (after : assessment.now.ticks ≤ later.ticks)
    (counts : (assessment.at_ later).Counts site reason) : assessment.Counts site reason := by
  obtain ⟨holds, force⟩ := counts
  refine ⟨?_, force⟩
  cases reason with
  | throttled =>
      obtain ⟨last, fetched, short⟩ := holds
      refine ⟨last, fetched, ?_⟩
      simp only [at_, Instant.since] at short ⊢
      omega
  | _ => exact holds

theorem eligible_later {later : Instant} (after : assessment.now.ticks ≤ later.ticks)
    (eligible : assessment.evaluate site = .eligible) :
    (assessment.at_ later).evaluate site = .eligible :=
  eligible_iff.mpr fun reason counts => eligible_iff.mp eligible reason (counts.of_later after)

/-- What a verdict says, with and without force. An exclusion names the first rule that
counts; force turns exclusions by the last three rules into eligibility and changes nothing
else; and eligibility without force lasts as long as nothing but time goes on. The instants
that it is about are those of clocks and of stored dates, none of them a leap second. -/
theorem evaluate_by_rules (assessment : Assessment) (site : UserSite) :
    ((∃ reason, assessment.forced.evaluate site = .excluded reason) ↔
      Exclusion.blacklisted.Holds assessment site ∨
        Exclusion.complianceExhausted.Holds assessment site) ∧
    ((∃ reason, assessment.unforced.evaluate site = .excluded reason) ↔
      Exclusion.blacklisted.Holds assessment site ∨
        Exclusion.complianceExhausted.Holds assessment site ∨
        Exclusion.actionRequired.Holds assessment site ∨
        Exclusion.throttled.Holds assessment site ∨
        Exclusion.migrating.Holds assessment site) ∧
    (∀ reason, assessment.evaluate site = .excluded reason ↔ assessment.IsFirst site reason) ∧
    assessment.forced.evaluate site = (assessment.unforced.evaluate site).waived ∧
    (assessment.unforced.evaluate site = .eligible → assessment.forced.evaluate site = .eligible) ∧
    (∀ reason, reason.isWaivable = false →
      (assessment.forced.evaluate site = .excluded reason ↔
        assessment.unforced.evaluate site = .excluded reason)) ∧
    ∀ later : Instant, assessment.now.ticks ≤ later.ticks →
      assessment.unforced.evaluate site = .eligible →
        (assessment.unforced.at_ later).evaluate site = .eligible := by
  have waived := evaluate_forced assessment site
  refine ⟨forced_excluded_iff, unforced_excluded_iff, fun _ => excluded_iff_isFirst, waived, ?_, ?_,
    fun later after => eligible_later after⟩
  · exact fun eligible => waived.trans (eligible_waived eligible)
  · exact fun reason lasting => waived ▸ waived_eq_excluded_iff lasting

end Assessment

end UnattendedRefresh
