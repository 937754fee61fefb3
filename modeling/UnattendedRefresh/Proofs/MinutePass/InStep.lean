import UnattendedRefresh.Proofs.MinutePass.Questions
import UnattendedRefresh.Proofs.Procedure.Answers

/-!
# Passes in step

Two passes of one minute that are answered alike ask the same. The verdicts of the
dispatch pool on their candidates may differ: they change none of the questions.
-/

namespace UnattendedRefresh

namespace Question

/-- The question submits a candidate to the dispatch pool. -/
def Submits (question : Question) : Prop :=
  ∃ candidate settings, question = .enqueue candidate settings

end Question

namespace MinutePass

open Procedure

/-- The verdicts change the counts of a pass and none of its questions. -/
theorem enqueueAll_inStep (snapshot : Settings) (queue : List Candidate)
    (queued rejected queued' rejected' : Nat) :
    InStep Question.Submits (fun _ _ => True) (enqueueAll snapshot queue queued rejected)
      (enqueueAll snapshot queue queued' rejected') := by
  induction queue generalizing queued rejected queued' rejected' with
  | nil => exact .done trivial
  | cons candidate queue ih =>
      refine .ofEither fun answer given => ?_
      cases answer with
      | ok =>
          cases given with
          | ok => exact ih _ _ _ _
          | error => exact .reportRight (ih _ _ _ _)
      | error =>
          cases given with
          | ok => exact .reportLeft (ih _ _ _ _)
          | error => exact .reportLeft (.reportRight (ih _ _ _ _))

theorem run_inStep (minute : MinuteOfDay) :
    InStep Question.Submits (fun _ _ => True) (run minute) (run minute) := by
  have same {procedure : Procedure PassOutcome}
      (only : AsksOnly (fun question => ¬ question.Submits) procedure) :
      InStep Question.Submits (fun _ _ => True) procedure procedure :=
    (InStep.refl only).mono fun _ _ _ => trivial
  refine .ask (fun snapshot => ?_) fun submits => ?_
  · rw [done_bind]
    split
    next =>
      refine .ask (fun answer => ?_) fun submits => ?_
      · rw [done_bind]
        cases answer with
        | error failure => exact same trivial
        | ok tenants =>
            have collecting := collect_asksOnly minute snapshot tenants Harvest.empty
            refine InStep.bind (InStep.refl (collecting.mono ?_)) ?_
            · rintro question ⟨tenant, range, rfl, -⟩ ⟨candidate, settings, submits⟩
              simp at submits
            · rintro result _ rfl
              cases result with
              | error fault => exact same trivial
              | ok harvest =>
                  refine InStep.bind (enqueueAll_inStep _ _ _ _ _ _) fun counts counts' _ => ?_
                  exact .reportLeft (.reportRight (.done trivial))
      · obtain ⟨candidate, settings, submits⟩ := submits
        simp at submits
    next => exact same trivial
  · obtain ⟨candidate, settings, submits⟩ := submits
    simp at submits

end MinutePass

end UnattendedRefresh
