import UnattendedRefresh.Proofs.Procedure.Course
import UnattendedRefresh.Proofs.Trigger.Turns

/-!
# The life of a task

The record of a run tells of each task the errand it began with, the answers it
got and how it ended. However the moves of the tasks are mixed, what is told of
one task is a course of its own procedure, and a scheduled refresh begins only
where a pass has queued its candidate.
-/

namespace UnattendedRefresh

open Function Procedure

namespace Effect

def errandOf? (number : Nat) : Effect → Option Errand
  | begun other errand => if other = number then some errand else none
  | _ => none

def answerTo? (number : Nat) : Effect → Option Reply
  | answered other reply => if other = number then some reply else none
  | _ => none

def endingOf? (number : Nat) : Effect → Option (Option Outcome)
  | ended other outcome => if other = number then some outcome else none
  | _ => none

section Told

variable (number other : Nat) (errand : Errand) (reply : Reply) (outcome : Option Outcome)

@[simp]
theorem errandOf?_begun :
    (begun other errand).errandOf? number = if other = number then some errand else none :=
  rfl

@[simp]
theorem errandOf?_answered : (answered other reply).errandOf? number = none :=
  rfl

@[simp]
theorem errandOf?_ended : (ended other outcome).errandOf? number = none :=
  rfl

@[simp]
theorem answerTo?_begun : (begun other errand).answerTo? number = none :=
  rfl

@[simp]
theorem answerTo?_answered :
    (answered other reply).answerTo? number = if other = number then some reply else none :=
  rfl

@[simp]
theorem answerTo?_ended : (ended other outcome).answerTo? number = none :=
  rfl

@[simp]
theorem endingOf?_begun : (begun other errand).endingOf? number = none :=
  rfl

@[simp]
theorem endingOf?_answered : (answered other reply).endingOf? number = none :=
  rfl

@[simp]
theorem endingOf?_ended :
    (ended other outcome).endingOf? number = if other = number then some outcome else none :=
  rfl

end Told

theorem untold_of_isAside {effect : Effect} (quiet : effect.isAside = true) (number : Nat) :
    effect.errandOf? number = none ∧ effect.answerTo? number = none ∧
      effect.endingOf? number = none := by
  cases effect <;> simp_all [isAside, errandOf?, answerTo?, endingOf?]

end Effect

/-- Everything a run did, in turn. -/
abbrev Record := List Effect

namespace Record

variable {record news : Record} {number : Nat}

/-- The errands of the tasks that began with this number. -/
def errands (record : Record) (number : Nat) : List Errand :=
  record.filterMap (Effect.errandOf? number)

/-- The answers the task got, in turn. -/
def answers (record : Record) (number : Nat) : List Reply :=
  record.filterMap (Effect.answerTo? number)

/-- How the task ended, with an outcome or by a crash. -/
def endings (record : Record) (number : Nat) : List (Option Outcome) :=
  record.filterMap (Effect.endingOf? number)

@[simp]
theorem errands_nil (number : Nat) : errands [] number = [] :=
  rfl

@[simp]
theorem answers_nil (number : Nat) : answers [] number = [] :=
  rfl

@[simp]
theorem endings_nil (number : Nat) : endings [] number = [] :=
  rfl

@[simp]
theorem errands_append (record news : Record) (number : Nat) :
    errands (record ++ news) number = record.errands number ++ news.errands number :=
  List.filterMap_append

@[simp]
theorem answers_append (record news : Record) (number : Nat) :
    answers (record ++ news) number = record.answers number ++ news.answers number :=
  List.filterMap_append

@[simp]
theorem endings_append (record news : Record) (number : Nat) :
    endings (record ++ news) number = record.endings number ++ news.endings number :=
  List.filterMap_append

@[simp]
theorem errands_cons (effect : Effect) (news : Record) (number : Nat) :
    errands (effect :: news) number =
      (effect.errandOf? number).toList ++ news.errands number := by
  cases told : effect.errandOf? number <;> simp [errands, told]

@[simp]
theorem answers_cons (effect : Effect) (news : Record) (number : Nat) :
    answers (effect :: news) number =
      (effect.answerTo? number).toList ++ news.answers number := by
  cases told : effect.answerTo? number <;> simp [answers, told]

@[simp]
theorem endings_cons (effect : Effect) (news : Record) (number : Nat) :
    endings (effect :: news) number =
      (effect.endingOf? number).toList ++ news.endings number := by
  cases told : effect.endingOf? number <;> simp [endings, told]

/-- What is read off a record, where each value is told by one effect only. -/
theorem mem_filterMap_iff {Value : Type} {read : Effect → Option Value} {tells : Value → Effect}
    (read_iff : ∀ effect value, read effect = some value ↔ effect = tells value) {value : Value} :
    value ∈ record.filterMap read ↔ tells value ∈ record := by
  simp [List.mem_filterMap, read_iff]

theorem mem_answers_iff {reply : Reply} :
    reply ∈ record.answers number ↔ .answered number reply ∈ record := by
  apply mem_filterMap_iff
  intro effect reply
  cases effect <;> simp [Effect.answerTo?]

theorem mem_errands_iff {errand : Errand} :
    errand ∈ record.errands number ↔ .begun number errand ∈ record := by
  apply mem_filterMap_iff
  intro effect errand
  cases effect <;> simp [Effect.errandOf?]

theorem mem_endings_iff {ending : Option Outcome} :
    ending ∈ record.endings number ↔ .ended number ending ∈ record := by
  apply mem_filterMap_iff
  intro effect ending
  cases effect <;> simp [Effect.endingOf?]

theorem untold_of_isAside (quiet : ∀ effect ∈ news, effect.isAside = true) (number : Nat) :
    news.errands number = [] ∧ news.answers number = [] ∧ news.endings number = [] := by
  induction news with
  | nil => simp
  | cons effect news ih =>
      have first := Effect.untold_of_isAside (quiet effect (by simp)) number
      have others := ih fun effect member => quiet effect (by simp [member])
      simp [first, others]

end Record

/-- What is known of one task: where it stands, and its errand, answers and
ending on the record. -/
inductive Life (gate : Gate) : Option (Errand × Procedure Outcome) →
    List Errand → List Reply → List (Option Outcome) → Prop where
  | unborn : Life gate none [] [] []
  | underWay {errand : Errand} {answers : List Reply} {rest : Procedure Outcome}
      (course : Course (errand.procedure gate) answers rest) :
      Life gate (some (errand, rest)) [errand] answers []
  | finished {errand : Errand} {answers : List Reply} {rest : Procedure Outcome}
      (ending : Option Outcome) (course : Course (errand.procedure gate) answers rest)
      (reached : ∀ outcome, ending = some outcome → rest = .done outcome) :
      Life gate none [errand] answers [ending]

namespace Life

variable {gate : Gate} {standing : Option (Errand × Procedure Outcome)}
  {errands : List Errand} {answers : List Reply} {endings : List (Option Outcome)}

theorem of_errands_eq_nil (life : Life gate standing [] answers endings) :
    standing = none ∧ answers = [] ∧ endings = [] := by
  cases life
  exact ⟨rfl, rfl, rfl⟩

theorem of_standing {errand : Errand} {rest : Procedure Outcome}
    (life : Life gate (some (errand, rest)) errands answers endings) :
    errands = [errand] ∧ endings = [] ∧ Course (errand.procedure gate) answers rest := by
  cases life with
  | underWay course => exact ⟨rfl, rfl, course⟩

theorem of_answer {reply : Reply} (life : Life gate standing errands answers endings)
    (member : reply ∈ answers) :
    ∃ errand rest, errands = [errand] ∧ Course (errand.procedure gate) answers rest := by
  cases life with
  | unborn => simp at member
  | underWay course => exact ⟨_, _, rfl, course⟩
  | finished _ course => exact ⟨_, _, rfl, course⟩

theorem errands_eq {errand : Errand} (life : Life gate standing errands answers endings)
    (member : errand ∈ errands) : errands = [errand] := by
  cases life with
  | unborn => simp at member
  | underWay course => rw [List.mem_singleton.mp member]
  | finished _ course => rw [List.mem_singleton.mp member]

theorem length_errands_le (life : Life gate standing errands answers endings) :
    errands.length ≤ 1 := by
  cases life <;> simp

theorem of_outcome {outcome : Outcome} (life : Life gate standing errands answers endings)
    (member : some outcome ∈ endings) :
    ∃ errand, errands = [errand] ∧ endings = [some outcome] ∧
      Course (errand.procedure gate) answers (.done outcome) := by
  cases life with
  | unborn => simp at member
  | underWay course => simp at member
  | finished _ course reached =>
      obtain rfl := List.mem_singleton.mp member
      exact ⟨_, rfl, rfl, reached outcome rfl ▸ course⟩

/-- A task that has begun and not ended stands somewhere. -/
theorem of_unended {errand : Errand} (life : Life gate standing errands answers [])
    (member : errand ∈ errands) : ∃ rest, standing = some (errand, rest) := by
  cases life with
  | unborn => simp at member
  | underWay course =>
      obtain rfl := List.mem_singleton.mp member
      exact ⟨_, rfl⟩

theorem length_endings_le (life : Life gate standing errands answers endings) :
    endings.length ≤ 1 := by
  cases life <;> simp

end Life

namespace Trigger

/-- The record agrees with where the tasks stand, task by task, and tells of every
scheduled refresh that its candidate was queued. -/
structure Chronicle (gate : Gate) (trigger : Trigger) (record : Record) : Prop where
  sound : trigger.Sound
  gate_eq : trigger.gate = gate
  lives : ∀ number, Life gate (trigger.standing number) (record.errands number)
    (record.answers number) (record.endings number)
  unused : ∀ number, trigger.next ≤ number → record.errands number = []
  queued : ∀ number candidate settings,
    .scheduled candidate settings ∈ record.errands number →
      ∃ pass, ⟨.enqueue candidate settings, .ok ()⟩ ∈ record.answers pass

theorem chronicle_create (gate : Gate) (settings : Settings) (sizes : PoolSizes) :
    Chronicle gate (create gate settings sizes) [] where
  sound := sound_create gate settings sizes
  gate_eq := rfl
  lives number := by simpa [standing, task?, create] using Life.unborn
  unused := by simp
  queued := by simp

variable {gate : Gate} {trigger after : Trigger} {record news : Record} {number : Nat}

/-- A number that was not given out stands nowhere and is not on the record. -/
theorem Chronicle.untold (chronicle : Chronicle gate trigger record)
    (fresh : trigger.next ≤ number) :
    trigger.standing number = none ∧ record.errands number = [] ∧
      record.answers number = [] ∧ record.endings number = [] := by
  have unused := chronicle.unused number fresh
  have life := chronicle.lives number
  rw [unused] at life
  obtain ⟨standing, answers, endings⟩ := life.of_errands_eq_nil
  exact ⟨standing, unused, answers, endings⟩

/-- The record of a task that stands somewhere is a course to where it stands. -/
theorem Chronicle.underWay (chronicle : Chronicle gate trigger record) {errand : Errand}
    {rest : Procedure Outcome} (stood : trigger.standing number = some (errand, rest)) :
    record.errands number = [errand] ∧ record.endings number = [] ∧
      Course (errand.procedure gate) (record.answers number) rest := by
  have life := chronicle.lives number
  rw [stood] at life
  exact life.of_standing

/-- One turn, seen from each task. -/
theorem Chronicle.lives_turn (chronicle : Chronicle gate trigger record)
    (turn : Turn trigger after news) (number : Nat) :
    Life gate (after.standing number) (Record.errands (record ++ news) number)
      (Record.answers (record ++ news) number) (Record.endings (record ++ news) number) := by
  have life := chronicle.lives number
  have newcomer := chronicle.untold (Nat.le_refl trigger.next)
  cases turn with
  | aside quiet standing_eq =>
      have untold := Record.untold_of_isAside quiet number
      simpa [standing_eq, untold] using life
  | @began errand told quiet direct taken standing_eq =>
      have untold := Effect.untold_of_isAside quiet number
      by_cases same : trigger.next = number
      · subst same
        simpa [standing_eq, newcomer, untold, chronicle.gate_eq] using
          Life.underWay (.here (errand.procedure gate))
      · simpa [standing_eq, same, Ne.symm same, untold] using life
  | @wrote writer errand entry rest stood standing_eq =>
      have untold := @Effect.untold_of_isAside (.reported writer entry) rfl number
      by_cases same : writer = number
      · subst same
        obtain ⟨errands, endings, course⟩ := chronicle.underWay stood
        simpa [standing_eq, untold, errands, endings] using
          Life.underWay (course.trans (.report (.here rest)))
      · simpa [standing_eq, same, Ne.symm same, untold] using life
  | @answered asker errand reply resume told quiet stood given standing_eq =>
      have untold := Record.untold_of_isAside quiet number
      by_cases same : asker = number
      · subst same
        obtain ⟨errands, endings, course⟩ := chronicle.underWay stood
        simpa [standing_eq, untold, errands, endings] using
          Life.underWay (course.trans (.answer reply.answer (.here _)))
      · simpa [standing_eq, same, Ne.symm same, untold] using life
  | @enqueued pass errand candidate settings resume told quiet stood taken standing_eq =>
      have untold := Effect.untold_of_isAside quiet number
      -- The pass stands at its question, so it is not the refresh that begins here.
      have different : trigger.next ≠ pass := by
        rintro rfl
        simp [newcomer] at stood
      by_cases same : pass = number
      · subst same
        obtain ⟨errands, endings, course⟩ := chronicle.underWay stood
        simpa [standing_eq, different, untold, errands, endings] using
          Life.underWay (course.trans (.answer (Except.ok ()) (.here _)))
      · by_cases new : trigger.next = number
        · subst new
          simpa [standing_eq, same, different, newcomer, untold, chronicle.gate_eq] using
            Life.underWay (.here ((Errand.scheduled candidate settings).procedure gate))
        · simpa [standing_eq, same, Ne.symm same, new, Ne.symm new, untold] using life
  | @ended finisher errand outcome stood standing_eq =>
      by_cases same : finisher = number
      · subst same
        obtain ⟨errands, endings, course⟩ := chronicle.underWay stood
        simpa [standing_eq, errands, endings] using
          Life.finished (some outcome) course (by simp)
      · simpa [standing_eq, same, Ne.symm same] using life
  | @crashed victim errand rest notes quiet stood standing_eq =>
      have untold := Record.untold_of_isAside quiet number
      by_cases same : victim = number
      · subst same
        obtain ⟨errands, endings, course⟩ := chronicle.underWay stood
        simpa [standing_eq, untold, errands, endings] using
          Life.finished none course (by simp)
      · simpa [standing_eq, same, Ne.symm same, untold] using life

/-- A turn begins at most one errand, under the next number, and a scheduled
refresh only with the answer that its candidate is queued. -/
theorem Turn.errands_eq (turn : Turn trigger after news) (number : Nat) :
    news.errands number = [] ∨
      (number = trigger.next ∧ trigger.next < after.next ∧ ∃ errand,
        news.errands number = [errand] ∧
          ∀ candidate settings, errand = .scheduled candidate settings →
            ∃ pass, ⟨.enqueue candidate settings, .ok ()⟩ ∈ news.answers pass) := by
  cases turn with
  | aside quiet => exact Or.inl (Record.untold_of_isAside quiet number).1
  | @began errand told quiet direct taken =>
      by_cases same : trigger.next = number
      · refine Or.inr ⟨same.symm, taken, errand, ?_, fun candidate settings scheduled => ?_⟩
        · simp [same, Effect.untold_of_isAside quiet]
        · exact absurd scheduled (direct candidate settings)
      · exact Or.inl (by simp [same, Effect.untold_of_isAside quiet])
  | @wrote writer errand entry =>
      exact Or.inl (by simp [@Effect.untold_of_isAside (.reported writer entry) rfl])
  | answered reply quiet => exact Or.inl (by simp [Record.untold_of_isAside quiet])
  | @enqueued pass errand candidate settings resume told quiet stood taken =>
      by_cases same : trigger.next = number
      · refine Or.inr ⟨same.symm, taken, .scheduled candidate settings, ?_, ?_⟩
        · simp [same, Effect.untold_of_isAside quiet]
        · rintro _ _ ⟨⟩
          exact ⟨pass, by simp⟩
      · exact Or.inl (by simp [same, Effect.untold_of_isAside quiet])
  | ended => exact Or.inl (by simp)
  | crashed quiet => exact Or.inl (by simp [Record.untold_of_isAside quiet])

/-- An answer is one that the trigger may give, or takes a candidate into the queue. -/
theorem Turn.isGivenBy (turn : Turn trigger after news) {reply : Reply}
    (told : reply ∈ news.answers number) :
    reply.IsGivenBy trigger ∨
      ∃ candidate settings, reply = ⟨.enqueue candidate settings, .ok ()⟩ := by
  cases turn with
  | aside quiet => simp [Record.untold_of_isAside quiet] at told
  | began quiet => simp [Effect.untold_of_isAside quiet] at told
  | @wrote writer errand entry =>
      simp [@Effect.untold_of_isAside (.reported writer entry) rfl] at told
  | @answered asker errand reply resume told quiet stood given =>
      have untold := Record.untold_of_isAside quiet number
      by_cases same : asker = number
      · simp only [Record.answers_cons, Effect.answerTo?_answered, same, untold, if_true,
          Option.toList_some, List.append_nil, List.mem_singleton] at told
        exact Or.inl (told ▸ given)
      · simp [same, untold] at told
  | @enqueued pass errand candidate settings resume told quiet =>
      have untold := Effect.untold_of_isAside quiet number
      by_cases same : pass = number
      · refine Or.inr ⟨candidate, settings, ?_⟩
        simpa [same, untold] using told
      · simp [same, untold] at told
  | ended => simp at told
  | crashed quiet => simp [Record.untold_of_isAside quiet] at told

theorem Chronicle.extend (chronicle : Chronicle gate trigger record)
    (lawful : Lawful trigger (after, news)) : Chronicle gate after (record ++ news) where
  sound := lawful.sound
  gate_eq := lawful.gate_eq.trans chronicle.gate_eq
  lives := chronicle.lives_turn lawful.turn
  unused number fresh := by
    have unborn := chronicle.unused number (Nat.le_trans lawful.next_le fresh)
    rcases lawful.turn.errands_eq number with none | ⟨rfl, taken, -⟩
    · simp [unborn, none]
    · exact absurd fresh (Nat.not_le_of_lt taken)
  queued number candidate settings begun := by
    rw [Record.errands_append, List.mem_append] at begun
    simp only [Record.answers_append, List.mem_append]
    rcases begun with earlier | now
    · obtain ⟨pass, answered⟩ := chronicle.queued number candidate settings earlier
      exact ⟨pass, Or.inl answered⟩
    · rcases lawful.turn.errands_eq number with none | ⟨-, -, errand, only, queued⟩
      · simp [none] at now
      · rw [only, List.mem_singleton] at now
        obtain ⟨pass, answered⟩ := queued candidate settings now.symm
        exact ⟨pass, Or.inr answered⟩

theorem Chronicle.step (chronicle : Chronicle gate trigger record) (move : Move) :
    Chronicle gate (trigger.step move).1 (record ++ (trigger.step move).2) :=
  chronicle.extend (step_lawful chronicle.sound move)

theorem Chronicle.run (chronicle : Chronicle gate trigger record) (moves : List Move) :
    Chronicle gate (trigger.run moves).1 (record ++ (trigger.run moves).2) := by
  induction moves generalizing trigger record with
  | nil => simpa [Trigger.run] using chronicle
  | cons move moves ih => simpa [Trigger.run] using ih (chronicle.step move)

/-- Every run from the start keeps a true record. -/
theorem chronicle_run (gate : Gate) (settings : Settings) (sizes : PoolSizes)
    (moves : List Move) :
    Chronicle gate ((create gate settings sizes).run moves).1
      ((create gate settings sizes).run moves).2 := by
  simpa using (chronicle_create gate settings sizes).run moves

/-- A task that has come to an outcome was answered all that its errand asks. -/
theorem course_of_outcome {settings : Settings} {sizes : PoolSizes} {moves : List Move}
    {errand : Errand} {outcome : Outcome}
    (begun : Record.errands ((create gate settings sizes).run moves).2 number = [errand])
    (ended : some outcome ∈ Record.endings ((create gate settings sizes).run moves).2 number) :
    Course (errand.procedure gate)
      (Record.answers ((create gate settings sizes).run moves).2 number) (.done outcome) := by
  have life := (chronicle_run gate settings sizes moves).lives number
  obtain ⟨own, same, -, course⟩ := life.of_outcome ended
  obtain rfl : errand = own := by simpa using begun.symm.trans same
  exact course

theorem run_cons (trigger : Trigger) (move : Move) (moves : List Move) :
    trigger.run (move :: moves) =
      (((trigger.step move).1.run moves).1,
        (trigger.step move).2 ++ ((trigger.step move).1.run moves).2) :=
  rfl

theorem run_append (trigger : Trigger) (moves later : List Move) :
    trigger.run (moves ++ later) =
      (((trigger.run moves).1.run later).1,
        (trigger.run moves).2 ++ ((trigger.run moves).1.run later).2) := by
  induction moves generalizing trigger with
  | nil => simp [run]
  | cons move moves ih => simp [run_cons, ih]

theorem sound_run (sound : trigger.Sound) (moves : List Move) : (trigger.run moves).1.Sound := by
  induction moves generalizing trigger with
  | nil => exact sound
  | cons move moves ih => exact ih (step_lawful sound move).sound

/-- While nobody replaces the settings, every snapshot of a run shows them. -/
theorem run_snapshots {settings : Settings} {moves : List Move} (sound : trigger.Sound)
    (current : trigger.settings = settings)
    (kept : ∀ other, .replaceSettings other ∈ moves → other = settings) {snapshot : Settings}
    (taken : ⟨.snapshot, snapshot⟩ ∈ Record.answers (trigger.run moves).2 number) :
    snapshot = settings := by
  induction moves generalizing trigger with
  | nil => simp [run] at taken
  | cons move moves ih =>
      have lawful := step_lawful sound move
      have still : (trigger.step move).1.settings = settings := by
        cases move with
        | replaceSettings other => exact kept other (by simp)
        | _ => rw [step_settings trigger (by simp), current]
      rw [run, Record.answers_append, List.mem_append] at taken
      rcases taken with now | later
      · rcases lawful.turn.isGivenBy now with given | ⟨candidate, settings, other⟩
        · exact given.trans current
        · simp at other
      · exact ih lawful.sound still (fun other member => kept other (by simp [member])) later

theorem exists_step_of_mem_run {moves : List Move} {effect : Effect}
    (told : effect ∈ (trigger.run moves).2) :
    ∃ (earlier : List Move) (move : Move) (later : List Move),
      moves = earlier ++ move :: later ∧ effect ∈ ((trigger.run earlier).1.step move).2 := by
  induction moves generalizing trigger with
  | nil => simp [run] at told
  | cons move moves ih =>
      rw [run, List.mem_append] at told
      rcases told with now | onward
      · exact ⟨[], move, moves, rfl, now⟩
      · obtain ⟨earlier, next, later, rfl, told⟩ := ih onward
        exact ⟨move :: earlier, next, later, rfl, told⟩

/-- An effect on the record of a run was told by one of its moves. -/
theorem run_eq_append_cons {moves : List Move} {before later : Record} {effect : Effect}
    (told : (trigger.run moves).2 = before ++ effect :: later) :
    ∃ (earlier : List Move) (move : Move) (first last : Record),
      before = (trigger.run earlier).2 ++ first ∧
        ((trigger.run earlier).1.step move).2 = first ++ effect :: last := by
  induction moves generalizing trigger before with
  | nil => simp [run] at told
  | cons move moves ih =>
      rw [Trigger.run, List.append_eq_append_iff] at told
      rcases told with ⟨between, rfl, onward⟩ | ⟨between, now, onward⟩
      · obtain ⟨earlier, next, first, last, rfl, told⟩ := ih onward
        exact ⟨move :: earlier, next, first, last, by simp [run], told⟩
      · cases between with
        | nil =>
            have next : (((trigger.step move).1).run moves).2 = [] ++ effect :: later := by
              simpa using onward.symm
            obtain ⟨earlier, next, first, last, none, told⟩ := ih next
            refine ⟨move :: earlier, next, first, last, ?_, told⟩
            simp only [run, List.append_assoc, ← none]
            simpa using now.symm
        | cons head tail =>
            simp only [List.cons_append, List.cons.injEq] at onward
            obtain ⟨rfl, -⟩ := onward
            exact ⟨[], move, before, tail, by simp [run], now⟩

theorem Deed.of_called {effects : List Effect} {question : Question}
    (deed : Deed trigger after effects) (called : .called number question ∈ effects) :
    effects = [.called number question] ∧
      ∃ errand resume, trigger.standing number = some (errand, .ask question resume) := by
  cases deed with
  | called goes stands =>
      obtain ⟨rfl, rfl⟩ := Effect.called.inj (List.mem_singleton.mp called)
      exact ⟨rfl, _, _, stands ▸ goes.standing⟩
  | crashed goes noted =>
      rcases List.mem_append.mp called with note | last
      · have same := noted _ note
        simp at same
      · simp at last
  | _ => simp at called

/-- A question was put where its task stood at it, and alone. -/
theorem standing_of_called {question : Question} {move : Move}
    (called : .called number question ∈ (trigger.step move).2) :
    (trigger.step move).2 = [.called number question] ∧
      ∃ errand resume, trigger.standing number = some (errand, .ask question resume) := by
  rcases trigger.replaced_or_deed move with ⟨settings, rfl⟩ | deed
  · simp [step] at called
  · exact deed.of_called called

end Trigger

end UnattendedRefresh
