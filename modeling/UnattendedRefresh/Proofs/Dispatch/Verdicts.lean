import UnattendedRefresh.Dispatch
import UnattendedRefresh.MinutePass
import UnattendedRefresh.Proofs.Procedure.Answers

/-!
# The verdict of a refresh job

Once the sites of a user were loaded and the clock was read, the snapshot that the
job carries decides what it asks: nothing more if it leaves no site, and otherwise
one bulk refresh of exactly the sites that it leaves.
-/

namespace UnattendedRefresh

open Procedure

/-- What is left to ask when the sites are judged. -/
def Assessment.orders (assessment : Assessment) (user : User) (sites : List UserSite)
    (credential : Credential) : List Question :=
  if assessment.eligibleSites sites = [] then
    []
  else
    [.credential user.tenantId user.id,
      .refresh ⟨user.id, assessment.eligibleSites sites, user.oneOff, credential,
        Origin.ofForce assessment.force⟩]

variable {gate : Gate} {user : User} {force : Bool} {settings : Settings}
  {sites : List UserSite} {now : Instant} {more : List Reply} {questions : List Question}

namespace Dispatch

theorem send_asks {eligible : List UserSite} {excluded : Nat}
    (asks : Asks (send user eligible excluded force) more questions) :
    ∃ credential, questions <+: [.credential user.tenantId user.id,
      .refresh ⟨user.id, eligible, user.oneOff, credential, Origin.ofForce force⟩] := by
  rw [send, bind_eq, question_bind] at asks
  cases more with
  | nil =>
      refine ⟨⟨""⟩, ?_⟩
      rcases Asks.ask_nil_iff.mp asks with rfl | rfl <;> simp
  | cons reply more =>
      obtain ⟨answer, further, rfl, rfl, issued⟩ := Asks.ask_cons_iff.mp asks
      cases answer with
      | error source =>
          obtain ⟨rfl, rfl⟩ := Asks.done_iff.mp issued
          exact ⟨⟨""⟩, by simp⟩
      | ok credential =>
          refine ⟨credential, ?_⟩
          simp only at issued
          rw [bind_eq, question_bind] at issued
          cases more with
          | nil => rcases Asks.ask_nil_iff.mp issued with rfl | rfl <;> simp
          | cons reply more =>
              obtain ⟨answer, last, rfl, rfl, refreshed⟩ := Asks.ask_cons_iff.mp issued
              cases answer with
              | error source => simp [(Asks.done_iff.mp refreshed).2]
              | ok sent =>
                  simp only [bind_eq, note_bind, Asks.report_iff, pure_eq_done,
                    Asks.done_iff] at refreshed
                  simp [refreshed.2]

theorem sendEligible_asks
    (asks : Asks (sendEligible gate user force settings sites) (⟨.clock, now⟩ :: more) questions) :
    ∃ credential, questions <+: .clock ::
      (Assessment.mk settings gate user.oneOff force now).orders user sites credential := by
  rw [sendEligible, bind_eq, question_bind, Asks.ask_answer_iff] at asks
  obtain ⟨further, rfl, judged⟩ := asks
  simp only [Asks.reportAll_iff] at judged
  split at judged
  next noneLeft =>
    simp only [bind_eq, note_bind, Asks.report_iff, pure_eq_done, Asks.done_iff] at judged
    exact ⟨⟨""⟩, by simp [judged.2]⟩
  next someLeft =>
    obtain ⟨credential, within⟩ := send_asks judged
    have left : (Assessment.mk settings gate user.oneOff force now).eligibleSites sites ≠ [] := by
      simpa using someLeft
    exact ⟨credential, by simpa [Assessment.orders, left] using within⟩

theorem refreshUser_asks
    (asks : Asks (refreshUser gate user force settings)
      (⟨.sites user.id, .ok sites⟩ :: ⟨.clock, now⟩ :: more) questions) :
    ∃ credential, questions <+: .sites user.id :: .clock ::
      (Assessment.mk settings gate user.oneOff force now).orders user sites credential := by
  rw [refreshUser, bind_eq, question_bind, Asks.ask_answer_iff] at asks
  obtain ⟨further, rfl, loaded⟩ := asks
  simp only at loaded
  split at loaded
  next => simp at loaded
  next =>
    obtain ⟨credential, within⟩ := sendEligible_asks loaded
    exact ⟨credential, by simpa using within⟩

end Dispatch

namespace RefreshJob

/-- Where the answers tell of a user's sites and of the instant, the calls are those
that the verdict leaves to make. -/
def Judged (gate : Gate) (settings : Settings) (force : Bool) (asked : UserId)
    (answers : List Reply) (calls : List Question) : Prop :=
  ∀ user sites now more,
    answers = ⟨.user asked, .ok (some user)⟩ :: ⟨.sites user.id, .ok sites⟩ ::
      ⟨.clock, now⟩ :: more →
    ∃ credential, calls <+: .user asked :: .sites user.id :: .clock ::
      (Assessment.mk settings gate user.oneOff force now).orders user sites credential

/-- The job went on to a credential wherever the verdict left some site. -/
def Served (gate : Gate) (settings : Settings) (force : Bool) (asked : UserId)
    (answers : List Reply) : Prop :=
  ∀ user sites now more,
    answers = ⟨.user asked, .ok (some user)⟩ :: ⟨.sites user.id, .ok sites⟩ ::
      ⟨.clock, now⟩ :: more →
    (Assessment.mk settings gate user.oneOff force now).eligibleSites sites ≠ [] →
      ∃ answer rest, more = ⟨.credential user.tenantId user.id, answer⟩ :: rest

section Loaded

variable {asked : UserId} {answers : List Reply}
  {onward : Except Failure (Option User) → Procedure Unit}
  {refusal : Procedure Unit} {word : Except DispatchFault DispatchOutcome → Procedure Unit}

/-- What both kinds of job do with a user that was loaded: a blocked one gets a note,
any other is refreshed, and a last word asks nothing. -/
theorem judged_of_loaded
    (onward_eq : ∀ user, onward (.ok (some user)) = if user.isBlocked then refusal else
      (Dispatch.refreshUser gate user force settings).bind word)
    (refuses : AsksOnly (fun _ => False) refusal)
    (speaks : ∀ result, AsksOnly (fun _ => False) (word result))
    (asks : Asks (Procedure.question (.user asked) >>= onward) answers questions) :
    Judged gate settings force asked answers questions := by
  rintro user sites now more rfl
  rw [bind_eq, question_bind, Asks.ask_answer_iff] at asks
  obtain ⟨further, rfl, loaded⟩ := asks
  rw [onward_eq] at loaded
  split at loaded
  next => simpa using (loaded.of_silent refuses).1
  next =>
    obtain ⟨credential, within⟩ := Dispatch.refreshUser_asks (loaded.of_bind speaks)
    exact ⟨credential, by simpa using within⟩

end Loaded

section Jobs

variable {candidate : Candidate} {userId : UserId} {answers : List Reply}

/-- A forced job takes its own snapshot first. -/
theorem forced_judged
    (asks : Asks (forced gate userId) (⟨.snapshot, settings⟩ :: answers) questions) :
    ∃ further, questions = .snapshot :: further ∧
      Judged gate settings true userId answers further := by
  rw [forced, bind_eq, question_bind, Asks.ask_answer_iff] at asks
  obtain ⟨further, rfl, begun⟩ := asks
  refine ⟨further, rfl, judged_of_loaded (fun _ => rfl) ?_ (fun result => ?_) begun⟩
  · trivial
  · cases result <;> trivial

end Jobs

end RefreshJob

end UnattendedRefresh
