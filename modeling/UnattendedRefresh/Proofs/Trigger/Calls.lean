import UnattendedRefresh.Proofs.Procedure.Answers
import UnattendedRefresh.Proofs.Trigger.Life

/-!
# The calls of a task

A task calls a collaborator once for every answer it gets from one, and then waits
for that answer. So its calls on the record are the questions that its procedure
has put, without those that the trigger answers itself.
-/

namespace UnattendedRefresh

open Function Procedure

namespace Effect

def callOf? (number : Nat) : Effect → Option Question
  | called other question => if other = number then some question else none
  | _ => none

@[simp]
theorem answerTo?_called (number other : Nat) (question : Question) :
    (called other question).answerTo? number = none :=
  rfl

/-- Whether the effect tells of no contact with a collaborator. -/
def isSilent : Effect → Bool
  | called _ _ => false
  | answered _ reply => reply.question.isInternal
  | _ => true

end Effect

/-- The questions among these that go to a collaborator. -/
def externals (questions : List Question) : List Question :=
  questions.filter fun question => ! question.isInternal

@[simp]
theorem externals_append (questions more : List Question) :
    externals (questions ++ more) = externals questions ++ externals more :=
  List.filter_append ..

namespace Record

variable {record news : Record} {number : Nat}

/-- What the task called its collaborators for, in turn. -/
def calls (record : Record) (number : Nat) : List Question :=
  record.filterMap (Effect.callOf? number)

@[simp]
theorem calls_append (record news : Record) (number : Nat) :
    calls (record ++ news) number = record.calls number ++ news.calls number :=
  List.filterMap_append

theorem mem_calls_iff {question : Question} :
    question ∈ record.calls number ↔ .called number question ∈ record := by
  apply mem_filterMap_iff
  intro effect question
  cases effect <;> simp [Effect.callOf?]

/-- What the task has asked and was answered, in turn. -/
def asked (record : Record) (number : Nat) : List Question :=
  (record.answers number).map (·.question)

@[simp]
theorem asked_append (record news : Record) (number : Nat) :
    asked (record ++ news) number = record.asked number ++ news.asked number := by
  simp [asked]

section Contact

variable (number other : Nat) (question : Question) (reply : Reply)

@[simp]
theorem calls_called :
    calls [.called other question] number = if other = number then [question] else [] := by
  by_cases same : other = number <;> simp [calls, Effect.callOf?, same]

@[simp]
theorem calls_answered : calls [.answered other reply] number = [] :=
  rfl

@[simp]
theorem asked_called : asked [.called other question] number = [] :=
  rfl

@[simp]
theorem asked_answered :
    asked [.answered other reply] number = if other = number then [reply.question] else [] := by
  by_cases same : other = number <;> simp [asked, same]

end Contact

theorem silent (quiet : ∀ effect ∈ news, effect.isSilent = true) (number : Nat) :
    news.calls number = [] ∧ externals (news.asked number) = [] := by
  constructor
  · rw [calls, List.filterMap_eq_nil_iff]
    intro effect member
    have untold := quiet effect member
    cases effect <;> simp_all [Effect.isSilent, Effect.callOf?]
  · rw [externals, List.filter_eq_nil_iff]
    intro question member
    obtain ⟨reply, answered, rfl⟩ := List.mem_map.mp member
    simpa [Effect.isSilent] using quiet _ (mem_answers_iff.mp answered)

end Record

theorem Life.course {gate : Gate} {standing : Option (Errand × Procedure Outcome)}
    {errand : Errand} {answers : List Reply} {endings : List (Option Outcome)}
    (life : Life gate standing [errand] answers endings) :
    ∃ rest, Course (errand.procedure gate) answers rest := by
  cases life with
  | underWay course => exact ⟨_, course⟩
  | finished _ course => exact ⟨_, course⟩

namespace Trigger

variable {gate : Gate} {trigger after : Trigger} {record news : Record} {number : Nat}
  {task : Task}

/-- Whether a task that has not ended waits for a collaborator. -/
def awaits (trigger : Trigger) : Nat → Option Bool :=
  Option.map Task.awaiting ∘ trigger.task?

theorem awaits_congr (same : after.task? = trigger.task?) : after.awaits = trigger.awaits := by
  rw [awaits, awaits, same]

theorem awaits_update {entry : Option Task}
    (table : after.task? = update trigger.task? number entry) :
    after.awaits = update trigger.awaits number (entry.map Task.awaiting) := by
  rw [awaits, table, comp_update, awaits]

theorem awaits_of_task? (found : trigger.task? number = some task) :
    trigger.awaits number = some task.awaiting := by
  simp [awaits, found]

/-- What a move can do to the contact with the collaborators. -/
inductive Contact (trigger after : Trigger) : List Effect → Prop where
  | silent {effects : List Effect} (quiet : ∀ effect ∈ effects, effect.isSilent = true)
      (told : ∀ number reply, .answered number reply ∈ effects →
        trigger.awaits number = some false)
      (kept : ∀ number flag, after.awaits number = some flag →
        trigger.awaits number = some flag ∨ (trigger.next ≤ number ∧ flag = false)) :
      Contact trigger after effects
  | called {number : Nat} {question : Question} (external : question.isInternal = false)
      (stood : ∃ errand resume, trigger.standing number = some (errand, .ask question resume))
      (idle : trigger.awaits number = some false)
      (awaits_eq : after.awaits = update trigger.awaits number (some true)) :
      Contact trigger after [.called number question]
  | answered {number : Nat} (reply : Reply) (external : reply.question.isInternal = false)
      (stood : ∃ errand resume,
        trigger.standing number = some (errand, .ask reply.question resume))
      (waits : trigger.awaits number = some true)
      (awaits_eq : after.awaits = update trigger.awaits number (some false)) :
      Contact trigger after [.answered number reply]

theorem Contact.unchanged (trigger : Trigger) : Contact trigger trigger [] :=
  .silent (by simp) (by simp) fun _ _ kept => Or.inl kept

/-- No task on the table moves, and none is answered. -/
theorem Contact.still {effects : List Effect} (same : after.task? = trigger.task?)
    (quiet : ∀ effect ∈ effects, effect.isSilent = true)
    (untold : ∀ number reply, .answered number reply ∉ effects) :
    Contact trigger after effects :=
  .silent quiet (fun number reply member => absurd member (untold number reply))
    fun _ _ kept => Or.inl (awaits_congr same ▸ kept)

/-- Where one entry changes to that of a task that does not wait, or to none. -/
theorem kept_of_update {flag : Option Bool}
    (awaits_eq : after.awaits = update trigger.awaits number flag)
    (entry : ∀ own, flag = some own → own = false ∧
      (trigger.awaits number = some false ∨ trigger.next ≤ number)) :
    ∀ other own, after.awaits other = some own →
      trigger.awaits other = some own ∨ (trigger.next ≤ other ∧ own = false) := by
  intro other own kept
  rw [awaits_eq] at kept
  by_cases same : other = number
  · subst same
    rw [update_self] at kept
    obtain ⟨rfl, idle | new⟩ := entry own kept
    · exact Or.inl idle
    · exact Or.inr ⟨new, rfl⟩
  · rw [update_of_ne same] at kept
    exact Or.inl kept

/-- A task that does not wait goes on without a collaborator. -/
theorem Goes.contact_of_resume {effects : List Effect} (goes : trigger.Goes task)
    (idle : task.awaiting = false) (rest : Procedure Outcome)
    (quiet : ∀ effect ∈ effects, effect.isSilent = true)
    (own : ∀ number reply, .answered number reply ∈ effects → number = task.number) :
    Contact trigger (trigger.resumeTask task.number rest) effects := by
  have waiting : trigger.awaits task.number = some false := idle ▸ awaits_of_task? goes.found
  refine .silent quiet (fun number reply member => own number reply member ▸ waiting)
    (kept_of_update (awaits_update (task?_resumeTask goes.found rest)) ?_)
  rintro flag ⟨⟩
  exact ⟨rfl, Or.inl waiting⟩

theorem Goes.contact_of_remove {effects : List Effect} (goes : trigger.Goes task)
    (quiet : ∀ effect ∈ effects, effect.isSilent = true)
    (untold : ∀ number reply, .answered number reply ∉ effects) :
    Contact trigger (trigger.removeTask task) effects :=
  .silent quiet (fun number reply member => absurd member (untold number reply))
    (kept_of_update (awaits_update (task?_removeTask goes.found)) (by simp))

/-- A newcomer does not wait. -/
theorem contact_of_newcomer {effects : List Effect}
    (awaits_eq : after.awaits = update trigger.awaits trigger.next (some false))
    (quiet : ∀ effect ∈ effects, effect.isSilent = true)
    (untold : ∀ number reply, .answered number reply ∉ effects) :
    Contact trigger after effects := by
  refine .silent quiet (fun number reply member => absurd member (untold number reply))
    (kept_of_update awaits_eq ?_)
  rintro flag ⟨⟩
  exact ⟨rfl, Or.inr (Nat.le_refl _)⟩

/-- A task that stands at a question for the trigger does not wait. -/
theorem Sound.idle_of_internal (sound : trigger.Sound) (goes : trigger.Goes task)
    {question : Question} {resume : question.Answer → Procedure Outcome}
    (stands : task.rest = .ask question resume) (internal : question.isInternal = true) :
    task.awaiting = false := by
  by_contra waits
  have external := sound.external_of_awaiting goes stands (by simpa using waits)
  simp [internal] at external

theorem Sound.idle_of_report (sound : trigger.Sound) (goes : trigger.Goes task)
    {entry : Journal.Entry} {rest : Procedure Outcome} (stands : task.rest = .report entry rest) :
    task.awaiting = false := by
  by_contra waits
  obtain ⟨question, resume, same, -⟩ :=
    sound.awaits task.number task goes.found (by simpa using waits)
  simp [stands] at same

theorem Deed.contact {effects : List Effect} (deed : Deed trigger after effects)
    (sound : trigger.Sound) : Contact trigger after effects := by
  cases deed with
  | nothing => exact .unchanged trigger
  | refused refuses => exact .still rfl (by simp [Effect.isSilent]) (by simp)
  | @admitted lane errand pool direct taken =>
      exact contact_of_newcomer (awaits_update (sound.newcomer lane pool errand).2)
        (by simp [Effect.isSilent]) (by simp)
  | @begun errand direct =>
      exact contact_of_newcomer (awaits_update (task?_addTask sound none errand))
        (by simp [Effect.isSilent]) (by simp)
  | started taken => exact .still (by simp) (by simp [Effect.isSilent]) (by simp)
  | wrote goes stands =>
      have idle := sound.idle_of_report goes stands
      exact goes.contact_of_resume idle _ (by simp [Effect.isSilent]) (by simp)
  | showed goes stands =>
      have idle := sound.idle_of_internal goes stands rfl
      exact goes.contact_of_resume idle _ (by simp [Effect.isSilent, Question.isInternal])
        (by simp)
  | @queued task candidate settings resume pool goes stands taken =>
      have idle := sound.idle_of_internal goes stands rfl
      have waiting : trigger.awaits task.number = some false :=
        idle ▸ awaits_of_task? goes.found
      have still :=
        sound.still_of_newcomer goes.found .dispatch pool (.scheduled candidate settings)
      have table := (sound.newcomer .dispatch pool (.scheduled candidate settings)).2
      have newcomer := kept_of_update (awaits_update table)
        (by rintro flag ⟨⟩; exact ⟨rfl, Or.inr (Nat.le_refl _)⟩)
      have resumed := awaits_update (task?_resumeTask still (resume (.ok ())))
      refine .silent (by simp [Effect.isSilent, Question.isInternal]) (by simp [waiting])
        fun number flag kept => ?_
      rw [resumed] at kept
      by_cases same : number = task.number
      · subst same
        obtain rfl : false = flag := by simpa using kept
        exact Or.inl waiting
      · rw [update_of_ne same] at kept
        exact newcomer number flag kept
  | turnedAway goes stands refuses =>
      have idle := sound.idle_of_internal goes stands rfl
      exact goes.contact_of_resume idle _ (by simp [Effect.isSilent, Question.isInternal])
        (by simp)
  | called goes stands external idle =>
      exact .called external ⟨_, _, stands ▸ goes.standing⟩
        (idle ▸ awaits_of_task? goes.found) (awaits_update (task?_await goes.found))
  | answered reply goes stands waits =>
      exact .answered reply (sound.external_of_awaiting goes stands waits)
        ⟨_, _, stands ▸ goes.standing⟩ (waits ▸ awaits_of_task? goes.found)
        (awaits_update (task?_resumeTask goes.found _))
  | ended goes stands => exact goes.contact_of_remove (by simp [Effect.isSilent]) (by simp)
  | crashed goes noted =>
      refine goes.contact_of_remove (fun effect member => ?_) fun number reply member => ?_
      · rcases List.mem_append.mp member with note | last
        · obtain rfl := noted effect note
          rfl
        · obtain rfl := List.mem_singleton.mp last
          rfl
      · rcases List.mem_append.mp member with note | last
        · have same := noted _ note
          simp at same
        · simp at last
  | closedPasses => exact .still (task?_congr rfl) (by simp) (by simp)
  | closedRefreshes => exact .still (task?_congr rfl) (by simp) (by simp)
  | drained => exact .still (task?_congr rfl) (by simp [Effect.isSilent]) (by simp)

theorem step_contact (sound : trigger.Sound) (move : Move) :
    Contact trigger (trigger.step move).1 (trigger.step move).2 := by
  rcases trigger.replaced_or_deed move with ⟨settings, rfl⟩ | deed
  · exact .still (task?_congr rfl) (by simp [step]) (by simp [step])
  · exact deed.contact sound

/-- By its record the task stands at a question for a collaborator. -/
def Waits (gate : Gate) (record : Record) (number : Nat) (question : Question) : Prop :=
  question.isInternal = false ∧ ∃ errand resume, record.errands number = [errand] ∧
    Course (errand.procedure gate) (record.answers number) (.ask question resume)

/-- Every task has called for its answers, and once more exactly if it waits. -/
def Attended (gate : Gate) (trigger : Trigger) (record : Record) : Prop :=
  ∀ number, ∃ pending : Option Question,
    record.calls number = externals (record.asked number) ++ pending.toList ∧
      (∀ question, pending = some question → Waits gate record number question) ∧
      ∀ flag, trigger.awaits number = some flag → flag = pending.isSome

theorem attended_create (gate : Gate) (settings : Settings) (sizes : PoolSizes) :
    Attended gate (create gate settings sizes) [] := by
  intro number
  exact ⟨none, rfl, by simp, by simp [awaits, task?, create]⟩

/-- A task stands where it stood as long as it is told nothing. -/
theorem Waits.append {question : Question} (waits : Waits gate record number question)
    (later : Chronicle gate after (record ++ news)) (untold : news.answers number = []) :
    Waits gate (record ++ news) number question := by
  obtain ⟨external, errand, resume, begun, course⟩ := waits
  have once := (later.lives number).length_errands_le
  have noneNew : news.errands number = [] := by
    rw [Record.errands_append, begun] at once
    exact List.eq_nil_of_length_eq_zero (by simpa using once)
  exact ⟨external, errand, resume, by simp [begun, noneNew], by simpa [untold] using course⟩

theorem Attended.extend (attended : Attended gate trigger record)
    (chronicle : Chronicle gate trigger record) (later : Chronicle gate after (record ++ news))
    (contact : Contact trigger after news) : Attended gate after (record ++ news) := by
  intro number
  obtain ⟨pending, calls_eq, waits, flags⟩ := attended number
  cases contact with
  | silent quiet told kept =>
      obtain ⟨noCalls, noAnswers⟩ := Record.silent quiet number
      refine ⟨pending, by simp [calls_eq, noCalls, noAnswers], ?_, fun flag own => ?_⟩
      · rintro question rfl
        -- An answered task would not wait.
        refine (waits question rfl).append later (List.eq_nil_iff_forall_not_mem.mpr ?_)
        intro reply member
        have idle := flags false (told number reply (Record.mem_answers_iff.mp member))
        simp at idle
      · rcases kept number flag own with earlier | ⟨new, rfl⟩
        · exact flags flag earlier
        · cases pending with
          | none => rfl
          | some question =>
              obtain ⟨-, errand, -, begun, -⟩ := waits question rfl
              simp [chronicle.unused number new] at begun
  | @called caller question external stood idle awaits_eq =>
      by_cases same : caller = number
      · subst same
        obtain rfl : pending = none := by simpa using (flags false idle).symm
        obtain ⟨errand, resume, stood⟩ := stood
        obtain ⟨begun, -, course⟩ := chronicle.underWay stood
        have now : Waits gate record caller question := ⟨external, errand, resume, begun, course⟩
        refine ⟨some question, by simp [calls_eq, externals], ?_, by simp [awaits_eq]⟩
        rintro _ ⟨⟩
        exact now.append later (by simp)
      · refine ⟨pending, by simp [calls_eq, same, externals], fun other own => ?_,
          fun flag own => flags flag ?_⟩
        · exact (waits other own).append later (by simp)
        · rwa [awaits_eq, update_of_ne (Ne.symm same)] at own
  | @answered asker reply external stood waiting awaits_eq =>
      by_cases same : asker = number
      · subst same
        obtain ⟨question, rfl⟩ := Option.isSome_iff_exists.mp (flags true waiting).symm
        obtain ⟨-, errand, resume, begun, course⟩ := waits question rfl
        obtain ⟨_, _, stood⟩ := stood
        obtain ⟨alike, -, there⟩ := chronicle.underWay stood
        obtain rfl := List.singleton_injective (begun.symm.trans alike)
        obtain rfl := course.ask_unique there
        exact ⟨none, by simp [calls_eq, externals, external], by simp, by simp [awaits_eq]⟩
      · refine ⟨pending, by simp [calls_eq, same, externals], fun other own => ?_,
          fun flag own => flags flag ?_⟩
        · exact (waits other own).append later (by simp [same])
        · rwa [awaits_eq, update_of_ne (Ne.symm same)] at own

theorem Attended.run (attended : Attended gate trigger record)
    (chronicle : Chronicle gate trigger record) (moves : List Move) :
    Attended gate (trigger.run moves).1 (record ++ (trigger.run moves).2) := by
  induction moves generalizing trigger record with
  | nil => simpa [Trigger.run] using attended
  | cons move moves ih =>
      have later := chronicle.step move
      simpa [Trigger.run] using
        ih (attended.extend chronicle later (step_contact chronicle.sound move)) later

/-- The calls of a task are what its procedure has put to the collaborators, and
once it has an outcome all of that was answered. -/
theorem calls_asks (gate : Gate) (settings : Settings) (sizes : PoolSizes) (moves : List Move)
    {number : Nat} {errand : Errand}
    (begun : Record.errands ((create gate settings sizes).run moves).2 number = [errand]) :
    let record : Record := ((create gate settings sizes).run moves).2
    ∃ questions, Asks (errand.procedure gate) (record.answers number) questions ∧
      record.calls number = externals questions ∧
      ∀ outcome, some outcome ∈ record.endings number → questions = record.asked number := by
  intro record
  have chronicle := chronicle_run gate settings sizes moves
  have attended := (attended_create gate settings sizes).run
    (chronicle_create gate settings sizes) moves
  rw [List.nil_append] at attended
  obtain ⟨pending, calls_eq, waits, -⟩ := attended number
  cases pending with
  | none =>
      obtain ⟨rest, course⟩ := (begun ▸ chronicle.lives number).course
      exact ⟨_, course.asks, by simpa [Record.asked] using calls_eq, fun _ _ => rfl⟩
  | some question =>
      obtain ⟨external, own, resume, same, course⟩ := waits question rfl
      obtain rfl := List.singleton_injective (begun.symm.trans same)
      refine ⟨_, course.asks_next, ?_, fun outcome ended => ?_⟩
      · simpa [Record.asked, externals, external] using calls_eq
      · obtain ⟨_, alike, -, toEnd⟩ := (chronicle.lives number).of_outcome ended
        obtain rfl := List.singleton_injective (same.symm.trans alike)
        exact absurd course toEnd.not_ask_of_done

end Trigger

end UnattendedRefresh
