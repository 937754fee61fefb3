import UnattendedRefresh.Proofs.Trigger.Calls
import UnattendedRefresh.Proofs.Trigger.Entitlement

/-!
# Moments of a run

A moment of a run is the number of effects that it has told by then, so the effect
at place `moment` is what happens next. A task is called for, or answered, where it
stands at the question, with everything that the record tells of it so far behind
it; what it was answered by a collaborator it has called for before.
-/

namespace UnattendedRefresh

open Procedure

namespace Record

variable {record : Record} {moment number : Nat} {effect : Effect} {reply : Reply}

theorem mem_take_iff : effect ∈ record.take moment ↔
    ∃ earlier < moment, record[earlier]? = some effect := by
  rw [List.mem_iff_getElem?]
  constructor
  · rintro ⟨earlier, happened⟩
    rw [List.getElem?_take] at happened
    split at happened
    next before => exact ⟨earlier, before, happened⟩
    next => simp at happened
  · rintro ⟨earlier, before, happened⟩
    exact ⟨earlier, by rw [List.getElem?_take, if_pos before, happened]⟩

theorem eq_take_append_cons (happened : record[moment]? = some effect) :
    record = record.take moment ++ effect :: record.drop (moment + 1) := by
  obtain ⟨within, rfl⟩ := List.getElem?_eq_some_iff.mp happened
  rw [List.getElem_cons_drop, List.take_append_drop]

theorem mem_answers_take_iff : reply ∈ Record.answers (record.take moment) number ↔
    ∃ earlier < moment, record[earlier]? = some (.answered number reply) :=
  mem_answers_iff.trans mem_take_iff

theorem mem_calls_take_iff {question : Question} :
    question ∈ Record.calls (record.take moment) number ↔
      ∃ earlier < moment, record[earlier]? = some (.called number question) :=
  mem_calls_iff.trans mem_take_iff

/-- What a record tells by one moment it tells by every later one. -/
theorem exists_take_append {later : Nat} (ordered : moment ≤ later) :
    ∃ between : Record, record.take later = record.take moment ++ between ∧
      ∀ place effect, moment ≤ place → place < later → record[place]? = some effect →
        effect ∈ between := by
  refine ⟨(record.take later).drop moment, ?_, fun place effect first last happened => ?_⟩
  · have shorter : (record.take later).take moment = record.take moment := by
      rw [List.take_take, Nat.min_eq_left ordered]
    rw [← shorter, List.take_append_drop]
  · rw [List.mem_iff_getElem?]
    refine ⟨place - moment, ?_⟩
    rw [List.getElem?_drop, Nat.add_sub_cancel' first, List.getElem?_take, if_pos last]
    exact happened

end Record

namespace Trigger

variable {gate : Gate} {record : Record} {moment number : Nat} {effect : Effect}

theorem Contact.alone {trigger after : Trigger} {effects : List Effect}
    (contact : Contact trigger after effects) (member : effect ∈ effects)
    (loud : effect.isSilent = false) : effects = [effect] := by
  cases contact with
  | silent quiet => simp [quiet effect member] at loud
  | called => rw [List.mem_singleton.mp member]
  | answered => rw [List.mem_singleton.mp member]

/-- The record is that of a run, under any settings, with any pools and by any moves. -/
def IsRun (gate : Gate) (record : Record) : Prop :=
  ∃ settings sizes moves, ((create gate settings sizes).run moves).2 = record

/-- A call or an answer of a collaborator is all that its move tells, so the run
stood before it as the record tells. -/
theorem IsRun.contact (isRun : IsRun gate record) (happened : record[moment]? = some effect)
    (loud : effect.isSilent = false) :
    ∃ trigger after, Chronicle gate trigger (record.take moment) ∧
      Attended gate trigger (record.take moment) ∧ Contact trigger after [effect] := by
  obtain ⟨settings, sizes, moves, told⟩ := isRun
  rw [Record.eq_take_append_cons happened] at told
  obtain ⟨earlier, move, first, last, before_eq, effects_eq⟩ := run_eq_append_cons told
  have chronicle := chronicle_run gate settings sizes earlier
  have attended := (attended_create gate settings sizes).run
    (chronicle_create gate settings sizes) earlier
  rw [List.nil_append] at attended
  have contact := step_contact chronicle.sound move
  have alone := contact.alone (by simp [effects_eq]) loud
  obtain ⟨rfl, rfl⟩ : first = [] ∧ last = [] := by
    rw [effects_eq] at alone
    simpa [List.append_eq_singleton_iff] using alone
  rw [List.append_nil] at before_eq
  exact ⟨_, _, before_eq ▸ chronicle, before_eq ▸ attended, effects_eq ▸ contact⟩

variable {question : Question} {reply : Reply}

theorem IsRun.standing_of_called (isRun : IsRun gate record)
    (called : record[moment]? = some (.called number question)) :
    ∃ trigger errand resume, Chronicle gate trigger (record.take moment) ∧
      trigger.standing number = some (errand, .ask question resume) := by
  obtain ⟨trigger, after, chronicle, -, contact⟩ := isRun.contact called rfl
  cases contact with
  | silent quiet => simp [Effect.isSilent] at quiet
  | called external stood =>
      obtain ⟨errand, resume, stood⟩ := stood
      exact ⟨trigger, errand, resume, chronicle, stood⟩

theorem IsRun.standing_of_answered (isRun : IsRun gate record)
    (answered : record[moment]? = some (.answered number reply))
    (external : reply.question.isInternal = false) :
    ∃ trigger errand resume, Chronicle gate trigger (record.take moment) ∧
      trigger.standing number = some (errand, .ask reply.question resume) := by
  obtain ⟨trigger, after, chronicle, -, contact⟩ := isRun.contact answered external
  cases contact with
  | silent quiet => simp [Effect.isSilent, external] at quiet
  | answered reply external stood =>
      obtain ⟨errand, resume, stood⟩ := stood
      exact ⟨trigger, errand, resume, chronicle, stood⟩

/-- No collaborator answers before it was called. -/
theorem IsRun.called_of_answered (isRun : IsRun gate record)
    (answered : record[moment]? = some (.answered number reply))
    (external : reply.question.isInternal = false) :
    ∃ earlier < moment, record[earlier]? = some (.called number reply.question) := by
  obtain ⟨trigger, after, chronicle, attended, contact⟩ := isRun.contact answered external
  cases contact with
  | silent quiet => simp [Effect.isSilent, external] at quiet
  | answered reply external stood waiting =>
      obtain ⟨errand, resume, stood⟩ := stood
      obtain ⟨begun, -, course⟩ := chronicle.underWay stood
      obtain ⟨pending, calls_eq, waits, flags⟩ := attended number
      obtain ⟨question, rfl⟩ := Option.isSome_iff_exists.mp (flags true waiting).symm
      obtain ⟨-, own, there, alike, toQuestion⟩ := waits question rfl
      obtain rfl := List.singleton_injective (begun.symm.trans alike)
      obtain rfl := toQuestion.ask_unique course
      exact Record.mem_calls_take_iff.mp (by simp [calls_eq])

end Trigger

end UnattendedRefresh
