import UnattendedRefresh.Proofs.Trigger.Life

/-!
# Driving tasks to their end

A task that was called directly can always be taken to its end, whatever its
procedure and whatever the collaborators answer. So passes of any minutes can be
run one after another.
-/

namespace UnattendedRefresh

open Function Procedure

namespace Effect

/-- The number and the minute of the pass that begins with this effect. -/
def passOf? : Effect → Option (Nat × MinuteOfDay)
  | begun number (.pass minute) => some (number, minute)
  | _ => none

end Effect

namespace Record

def passes (record : Record) : List (Nat × MinuteOfDay) :=
  record.filterMap Effect.passOf?

@[simp]
theorem passes_append (record news : Record) :
    passes (record ++ news) = record.passes ++ news.passes :=
  List.filterMap_append

end Record

/-- What the collaborators answer to every question. -/
abbrev World := ∀ question : Question, question.Answer

namespace Trigger

/-- Moves that replace no settings and hand on the answers of a world. -/
structure Honest (world : World) (trigger : Trigger) (moves : List Move) : Prop where
  kept : ∀ settings, .replaceSettings settings ∉ moves
  answered : ∀ number reply, .answered number reply ∈ (trigger.run moves).2 →
    reply.question.isInternal = true ∨ reply = ⟨reply.question, world reply.question⟩

/-- Honest moves that begin no pass and take the task to its end. -/
structure Drives (world : World) (trigger : Trigger) (number : Nat) (moves : List Move) :
    Prop extends Honest world trigger moves where
  passes_eq : Record.passes (trigger.run moves).2 = []
  ended : ∃ outcome, some outcome ∈ Record.endings (trigger.run moves).2 number

variable {world : World} {trigger : Trigger} {number : Nat} {moves later : List Move}

theorem Honest.append (first : Honest world trigger moves)
    (second : Honest world (trigger.run moves).1 later) :
    Honest world trigger (moves ++ later) where
  kept settings := by simp [first.kept settings, second.kept settings]
  answered number reply member := by
    rw [run_append, List.mem_append] at member
    rcases member with now | after
    · exact first.answered number reply now
    · exact second.answered number reply after

/-- Honest moves that begin no pass may come first. -/
theorem Drives.after (second : Drives world (trigger.run moves).1 number later)
    (first : Honest world trigger moves) (none : Record.passes (trigger.run moves).2 = []) :
    Drives world trigger number (moves ++ later) where
  toHonest := first.append second.toHonest
  passes_eq := by rw [run_append, Record.passes_append, none, second.passes_eq, List.nil_append]
  ended := by
    obtain ⟨outcome, ended⟩ := second.ended
    exact ⟨outcome, by rw [run_append, Record.endings_append]; simp [ended]⟩

theorem withTask_direct {task : Task} (found : trigger.task? number = some task)
    (direct : task.lane = none) (act : Task → Trigger × List Effect) :
    trigger.withTask number act = act task := by
  simp [withTask, found, isMovable, direct]

section Drive

variable {errand : Errand} {rest : Procedure Outcome}

/-- Resuming a direct task, in whatever state the trigger is by then. -/
theorem direct_resumeTask {task : Task} (found : trigger.task? number = some task)
    (direct : task.lane = none) (errand_eq : task.errand = errand) (rest : Procedure Outcome) :
    (trigger.resumeTask number rest).task? number = some ⟨number, none, errand, rest, false⟩ := by
  have known := number_of_task? found
  obtain ⟨_, _, _, _, _⟩ := task
  simp only at known direct errand_eq
  subst known direct errand_eq
  rw [task?_resumeTask found, update_self]

/-- A collaborator answers a direct task and the task goes on. -/
theorem run_external {question : Question} {resume : question.Answer → Procedure Outcome}
    (found : trigger.task? number = some ⟨number, none, errand, .ask question resume, false⟩)
    (external : question.isInternal = false) :
    Honest world trigger [.call number, .answer number ⟨question, world question⟩] ∧
      Record.passes
        (trigger.run [.call number, .answer number ⟨question, world question⟩]).2 = [] ∧
      (trigger.run [.call number, .answer number ⟨question, world question⟩]).1.task? number =
        some ⟨number, none, errand, resume (world question), false⟩ := by
  let waiting : Trigger :=
    { trigger with
      tasks := trigger.tasks.map fun other =>
        if other.number = number then { other with awaiting := true } else other }
  have still : waiting.task? number =
      some ⟨number, none, errand, .ask question resume, true⟩ := by
    rw [task?_await found, update_self]
  have moved : trigger.run [.call number, .answer number ⟨question, world question⟩] =
      (waiting.resumeTask number (resume (world question)),
        [.called number question, .answered number ⟨question, world question⟩]) := by
    have called : trigger.step (.call number) = (waiting, [.called number question]) := by
      simp [step, withTask_direct found, callTask, external, waiting]
    have answered : waiting.step (.answer number ⟨question, world question⟩) =
        (waiting.resumeTask number (resume (world question)),
          [.answered number ⟨question, world question⟩]) := by
      simp [step, withTask_direct still, answerTask]
    simp [run, called, answered]
  refine ⟨⟨by simp, fun other reply member => ?_⟩, ?_, ?_⟩
  · simp only [moved, List.mem_cons, Effect.answered.injEq, reduceCtorEq, List.not_mem_nil,
      or_false, false_or] at member
    obtain ⟨-, rfl⟩ := member
    exact Or.inr rfl
  · simp [moved, Record.passes, Effect.passOf?]
  · rw [moved]
    exact direct_resumeTask still rfl rfl _

variable (sound : trigger.Sound)

include sound

/-- The trigger answers a direct task itself and the task goes on. -/
theorem run_internal {question : Question} {resume : question.Answer → Procedure Outcome}
    (found : trigger.task? number = some ⟨number, none, errand, .ask question resume, false⟩)
    (internal : question.isInternal = true) :
    Honest world trigger [.advance number] ∧
      Record.passes (trigger.run [.advance number]).2 = [] ∧
      ∃ answer, (trigger.run [.advance number]).1.task? number =
        some ⟨number, none, errand, resume answer, false⟩ := by
  have moved : trigger.run [.advance number] =
      trigger.answerInternally ⟨number, none, errand, .ask question resume, false⟩
        question resume := by
    simp [run, step, withTask_direct found, advanceTask]
  cases question with
  | snapshot =>
      have settled : trigger.run [.advance number] =
          (trigger.resumeTask number (resume trigger.settings),
            [.answered number ⟨.snapshot, trigger.settings⟩]) := moved
      refine ⟨⟨by simp, fun other reply member => ?_⟩, ?_, trigger.settings, ?_⟩
      · rw [settled] at member
        simp only [List.mem_singleton, Effect.answered.injEq] at member
        exact Or.inl (member.2 ▸ rfl)
      · simp [settled, Record.passes, Effect.passOf?]
      · rw [settled]
        exact direct_resumeTask found rfl rfl _
  | enqueue candidate settings =>
      simp only [answerInternally, submit] at moved
      cases taken : (trigger.pool .dispatch).submit trigger.next with
      | ok pool =>
          simp only [taken] at moved
          have still := sound.still_of_newcomer found .dispatch pool (.scheduled candidate settings)
          refine ⟨⟨by simp, fun other reply member => ?_⟩, ?_, .ok (), ?_⟩
          · simp only [moved, admission, List.mem_cons, Effect.answered.injEq, reduceCtorEq,
              List.not_mem_nil, or_false] at member
            exact Or.inl (member.2 ▸ rfl)
          · simp [moved, Record.passes, Effect.passOf?, admission]
          · rw [moved]
            exact direct_resumeTask still rfl rfl _
      | error fault =>
          simp only [taken] at moved
          refine ⟨⟨by simp, fun other reply member => ?_⟩, ?_, .error fault, ?_⟩
          · simp only [moved, List.mem_cons, Effect.answered.injEq, reduceCtorEq,
              List.not_mem_nil, or_false] at member
            exact Or.inl (member.2 ▸ rfl)
          · simp [moved, Record.passes, Effect.passOf?]
          · rw [moved]
            exact direct_resumeTask found rfl rfl _
  | _ => simp [Question.isInternal] at internal

/-- Every task that was called directly can be taken to its end. -/
theorem exists_drive (world : World)
    (found : trigger.task? number = some ⟨number, none, errand, rest, false⟩) :
    ∃ moves, Drives world trigger number moves := by
  -- Each move leaves the task at a later point of its procedure.
  induction rest generalizing trigger with
  | done outcome =>
      have told : (trigger.run [.advance number]).2 = [.ended number (some outcome)] := by
        simp [run, step, withTask_direct found, advanceTask]
      refine ⟨[.advance number], ⟨by simp, ?_⟩, ?_, outcome, ?_⟩
      · simp [told]
      · simp [told, Record.passes, Effect.passOf?]
      · simp [told]
  | report entry rest ih =>
      have moved : trigger.run [.advance number] =
          (trigger.resumeTask number rest, [.reported number entry]) := by
        simp [run, step, withTask_direct found, advanceTask]
      obtain ⟨later, drives⟩ := ih (sound_run sound [.advance number])
        (by rw [moved]; exact direct_resumeTask found rfl rfl rest)
      refine ⟨_, drives.after ⟨by simp, ?_⟩ ?_⟩
      · simp [moved]
      · simp [moved, Record.passes, Effect.passOf?]
  | ask question resume ih =>
      cases kind : question.isInternal with
      | true =>
          obtain ⟨honest, none, answer, onward⟩ := run_internal sound found kind
          obtain ⟨later, drives⟩ := ih answer (sound_run sound _) onward
          exact ⟨_, drives.after honest none⟩
      | false =>
          obtain ⟨honest, none, onward⟩ := run_external found kind
          obtain ⟨later, drives⟩ := ih (world question) (sound_run sound _) onward
          exact ⟨_, drives.after honest none⟩

end Drive

section Passes

/-- Honest moves that run passes of these minutes, one after another. -/
structure RunsPasses (world : World) (trigger : Trigger) (minutes : List MinuteOfDay)
    (moves : List Move) : Prop extends Honest world trigger moves where
  minutes_eq : (Record.passes (trigger.run moves).2).map Prod.snd = minutes
  completed : ∀ number minute, (number, minute) ∈ Record.passes (trigger.run moves).2 →
    ∃ outcome, some outcome ∈ Record.endings (trigger.run moves).2 number

theorem exists_runsPasses (world : World) (minutes : List MinuteOfDay) {trigger : Trigger}
    (sound : trigger.Sound) : ∃ moves, RunsPasses world trigger minutes moves := by
  induction minutes generalizing trigger with
  | nil => exact ⟨[], ⟨by simp, by simp [run]⟩, by simp [run, Record.passes],
      by simp [run, Record.passes]⟩
  | cons minute minutes ih =>
      have began : trigger.run [.runPass minute] = (trigger.addTask none (.pass minute),
          [.begun trigger.next (.pass minute), .started trigger.next]) := by
        simp [run, step, beginMove]
      have stands : (trigger.run [.runPass minute]).1.task? trigger.next = some
          ⟨trigger.next, none, .pass minute, (Errand.pass minute).procedure trigger.gate,
            false⟩ := by
        rw [began, task?_addTask sound, update_self]
      have begins : Honest world trigger [.runPass minute] :=
        ⟨by simp, fun number reply member => by simp [began] at member⟩
      obtain ⟨onward, drives⟩ := exists_drive (sound_run sound _) world stands
      obtain ⟨later, runs⟩ := ih (sound_run (sound_run sound [.runPass minute]) onward)
      have record : (trigger.run ([.runPass minute] ++ (onward ++ later))).2 =
          [.begun trigger.next (.pass minute), .started trigger.next] ++
            (((trigger.run [.runPass minute]).1.run onward).2 ++
              (((trigger.run [.runPass minute]).1.run onward).1.run later).2) := by
        rw [run_append, run_append, began]
      have first : Record.passes [.begun trigger.next (.pass minute), .started trigger.next] =
          [(trigger.next, minute)] := rfl
      refine ⟨_, begins.append (drives.toHonest.append runs.toHonest), ?_, ?_⟩
      · rw [record, Record.passes_append, Record.passes_append, first, drives.passes_eq]
        simp [runs.minutes_eq]
      · intro number other among
        rw [record] at among ⊢
        simp only [Record.passes_append, first, drives.passes_eq, List.nil_append,
          List.mem_append, List.mem_singleton, Prod.mk.injEq, Record.endings_append] at among ⊢
        rcases among with ⟨rfl, rfl⟩ | among
        · obtain ⟨outcome, ended⟩ := drives.ended
          exact ⟨outcome, Or.inr (Or.inl ended)⟩
        · obtain ⟨outcome, ended⟩ := runs.completed number other among
          exact ⟨outcome, Or.inr (Or.inr ended)⟩

end Passes

end Trigger

end UnattendedRefresh
