import UnattendedRefresh.Proofs.Dispatch.Orders
import UnattendedRefresh.Proofs.MinutePass.Questions
import UnattendedRefresh.Trigger

/-!
# What errands ask for

A pass queues candidates and refreshes nobody; a refresh job queues nobody and
has the groundwork of its order. Only the errand decides, so what a task has asked
tells what it is about.
-/

namespace UnattendedRefresh

namespace Errand

open Procedure

variable {gate : Gate} {errand : Errand} {minute : MinuteOfDay} {replies : List Reply}

/-- Telling the outcome asks nothing more. -/
theorem pass_course {point : Procedure Outcome}
    (course : Course ((pass minute).procedure gate) replies point) :
    ∃ inner, Course (MinutePass.run minute) replies inner := by
  rcases Course.bind_iff.mp course with
    ⟨inner, within, -⟩ | ⟨first, second, outcome, rfl, within, told⟩
  · exact ⟨inner, within⟩
  · obtain ⟨rfl, -⟩ := Course.done_iff.mp told
    exact ⟨.done outcome, by simpa using within⟩

theorem pass_course_done {outcome : Outcome}
    (course : Course ((pass minute).procedure gate) replies (.done outcome)) :
    ∃ ended, outcome = .pass ended ∧ Course (MinutePass.run minute) replies (.done ended) := by
  obtain ⟨first, second, ended, rfl, within, told⟩ := Course.bind_to_done.mp course
  obtain ⟨rfl, same⟩ := Course.done_iff.mp told
  exact ⟨ended, Procedure.done.inj same, by simpa using within⟩

/-- Only a pass ends with the outcome of a pass. -/
theorem pass_of_outcome {outcome : PassOutcome}
    (course : Course (errand.procedure gate) replies (.done (.pass outcome))) :
    ∃ minute, errand = .pass minute := by
  cases errand with
  | pass minute => exact ⟨minute, rfl⟩
  | scheduled candidate settings =>
      obtain ⟨_, _, _, _, _, told⟩ := Course.bind_to_done.mp course
      simp at told
  | forced userId =>
      obtain ⟨_, _, _, _, _, told⟩ := Course.bind_to_done.mp course
      simp at told

/-- Only a pass queues candidates. -/
theorem pass_of_enqueue {candidate : Candidate} {settings : Settings}
    {onward : Question.Answer (.enqueue candidate settings) → Procedure Outcome}
    (course : Course (errand.procedure gate) replies
      (.ask (.enqueue candidate settings) onward)) :
    ∃ minute, errand = .pass minute := by
  cases errand with
  | pass minute => exact ⟨minute, rfl⟩
  | scheduled other snapshot =>
      have only := (RefreshJob.scheduled_asksOnly gate other snapshot).bind
        fun _ => show AsksOnly _ (.done Outcome.refreshed) from trivial
      exact (only.allowed course).elim
  | forced userId =>
      obtain ⟨rest, same, rest_only⟩ := RefreshJob.forced_asksOnly gate userId
      rw [procedure, same, ask_bind, Course.ask_to_ask] at course
      rcases course with ⟨-, other⟩ | ⟨snapshot, replies, -, further⟩
      · simp at other
      · have only := (rest_only snapshot).bind
          fun _ => show AsksOnly _ (.done Outcome.refreshed) from trivial
        exact (only.allowed further).elim

/-- A bulk refresh belongs to a scheduled or to a forced job, which has done the
groundwork for it. -/
theorem groundwork_of_refresh {order : RefreshOrder}
    {onward : Question.Answer (.refresh order) → Procedure Outcome}
    (course : Course (errand.procedure gate) replies (.ask (.refresh order) onward)) :
    (∃ candidate settings, errand = .scheduled candidate settings ∧
      Nonempty (RefreshJob.Groundwork gate settings false candidate.userId replies order)) ∨
    (∃ userId settings rest, errand = .forced userId ∧ replies = ⟨.snapshot, settings⟩ :: rest ∧
      Nonempty (RefreshJob.Groundwork gate settings true userId rest order)) := by
  cases errand with
  | pass minute =>
      rcases Course.bind_to_ask.mp course with ⟨resume, refreshing, -⟩ | ⟨_, _, _, -, -, ended⟩
      · exact absurd refreshing MinutePass.run_not_refresh
      · simp at ended
  | scheduled candidate settings =>
      rcases Course.bind_to_ask.mp course with ⟨resume, refreshing, -⟩ | ⟨_, _, _, -, -, ended⟩
      · exact Or.inl ⟨candidate, settings, rfl, RefreshJob.scheduled_to_refresh refreshing⟩
      · simp at ended
  | forced userId =>
      rcases Course.bind_to_ask.mp course with ⟨resume, refreshing, -⟩ | ⟨_, _, _, -, -, ended⟩
      · obtain ⟨settings, rest, answers, groundwork⟩ := RefreshJob.forced_to_refresh refreshing
        exact Or.inr ⟨userId, settings, rest, rfl, answers, groundwork⟩
      · simp at ended

end Errand

end UnattendedRefresh
