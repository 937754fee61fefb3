import UnattendedRefresh.Proofs.Dispatch.Orders

/-!
# How a refresh ends

A refresh of one user comes to its end in one of six ways, and the way decides both
what was asked and what is reported. The jobs around it add the loading of the user.
-/

namespace UnattendedRefresh

open Procedure

namespace Dispatch

/-- The ways in which the refresh of a user ends: all it was answered, in turn, and its
outcome. -/
inductive Concluded (gate : Gate) (user : User) (force : Bool) (settings : Settings) :
    List Reply → Except DispatchFault DispatchOutcome → Prop where
  | unloaded (source : Failure) :
      Concluded gate user force settings [⟨.sites user.id, .error source⟩]
        (.error (.loadUserSites user.id source))
  | noSites :
      Concluded gate user force settings [⟨.sites user.id, .ok []⟩] (.ok .noUserSites)
  | noneLeft {sites : List UserSite} {now : Instant} (nonempty : sites ≠ [])
      (none : (Assessment.mk settings gate user.oneOff force now).eligibleSites sites = []) :
      Concluded gate user force settings [⟨.sites user.id, .ok sites⟩, ⟨.clock, now⟩]
        (.ok (.nothingEligible sites.length))
  | unissued {sites eligible : List UserSite} {now : Instant}
      (judged : (Assessment.mk settings gate user.oneOff force now).eligibleSites sites = eligible)
      (left : eligible ≠ []) (source : Failure) :
      Concluded gate user force settings
        [⟨.sites user.id, .ok sites⟩, ⟨.clock, now⟩,
          ⟨.credential user.tenantId user.id, .error source⟩]
        (.error (.issueCredential user.id source))
  | refused {sites eligible : List UserSite} {now : Instant}
      (judged : (Assessment.mk settings gate user.oneOff force now).eligibleSites sites = eligible)
      (left : eligible ≠ []) (credential : Credential) (source : Failure) :
      Concluded gate user force settings
        [⟨.sites user.id, .ok sites⟩, ⟨.clock, now⟩,
          ⟨.credential user.tenantId user.id, .ok credential⟩,
          ⟨.refresh ⟨user.id, eligible, user.oneOff, credential, Origin.ofForce force⟩,
            .error source⟩]
        (.error (.refresh user.id eligible.length source))
  | dispatched {sites eligible : List UserSite} {now : Instant}
      (judged : (Assessment.mk settings gate user.oneOff force now).eligibleSites sites = eligible)
      (left : eligible ≠ []) (credential : Credential) :
      Concluded gate user force settings
        [⟨.sites user.id, .ok sites⟩, ⟨.clock, now⟩,
          ⟨.credential user.tenantId user.id, .ok credential⟩,
          ⟨.refresh ⟨user.id, eligible, user.oneOff, credential, Origin.ofForce force⟩, .ok ()⟩]
        (.ok (.dispatched eligible.length (sites.length - eligible.length)))

variable {gate : Gate} {user : User} {force : Bool} {settings : Settings}
  {replies : List Reply} {outcome : Except DispatchFault DispatchOutcome}

theorem sendEligible_to_done {sites : List UserSite} (nonempty : sites ≠ [])
    (course : Course (sendEligible gate user force settings sites) replies (.done outcome)) :
    Concluded gate user force settings (⟨.sites user.id, .ok sites⟩ :: replies) outcome := by
  rw [sendEligible, bind_eq, question_bind, Course.ask_to_done] at course
  obtain ⟨now, rest, rfl, judged⟩ := course
  simp only [Course.reportAll_to_done] at judged
  split at judged
  next none =>
    have none : (Assessment.mk settings gate user.oneOff force now).eligibleSites sites = [] := by
      simpa using none
    simp only [bind_eq, note_bind, Course.report_to_done, pure_eq_done, Course.done_iff,
      Procedure.done.injEq] at judged
    obtain ⟨rfl, rfl⟩ := judged
    simpa [none] using Concluded.noneLeft nonempty none
  next left =>
    have left : (Assessment.mk settings gate user.oneOff force now).eligibleSites sites ≠ [] := by
      simpa using left
    rw [send, bind_eq, question_bind, Course.ask_to_done] at judged
    obtain ⟨issued, rest, rfl, sending⟩ := judged
    cases issued with
    | error source =>
        simp only [pure_eq_done, Course.done_iff, Procedure.done.injEq] at sending
        obtain ⟨rfl, rfl⟩ := sending
        exact .unissued rfl left source
    | ok credential =>
        simp only at sending
        rw [bind_eq, question_bind, Course.ask_to_done] at sending
        obtain ⟨refreshed, rest, rfl, told⟩ := sending
        cases refreshed with
        | error source =>
            simp only [pure_eq_done, Course.done_iff, Procedure.done.injEq] at told
            obtain ⟨rfl, rfl⟩ := told
            exact .refused rfl left credential source
        | ok sent =>
            simp only [bind_eq, note_bind, Course.report_to_done, pure_eq_done, Course.done_iff,
              Procedure.done.injEq] at told
            obtain ⟨rfl, rfl⟩ := told
            exact .dispatched rfl left credential

/-- A refresh that has ended has ended in one of these ways. -/
theorem refreshUser_to_done
    (course : Course (refreshUser gate user force settings) replies (.done outcome)) :
    Concluded gate user force settings replies outcome := by
  rw [refreshUser, bind_eq, question_bind, Course.ask_to_done] at course
  obtain ⟨answer, rest, rfl, loaded⟩ := course
  cases answer with
  | error source =>
      simp only [pure_eq_done, Course.done_iff, Procedure.done.injEq] at loaded
      obtain ⟨rfl, rfl⟩ := loaded
      exact .unloaded source
  | ok sites =>
      simp only at loaded
      split at loaded
      next none =>
        obtain rfl : sites = [] := by simpa using none
        simp only [bind_eq, note_bind, Course.report_to_done, pure_eq_done, Course.done_iff,
          Procedure.done.injEq] at loaded
        obtain ⟨rfl, rfl⟩ := loaded
        exact .noSites
      next nonempty => exact sendEligible_to_done (by simpa using nonempty) loaded

end Dispatch

end UnattendedRefresh
