import UnattendedRefresh.Proofs.Trigger.Deeds

/-!
# What one move does to the tasks

A move begins a task, takes one task a step further in its procedure, ends one, or
concerns no task's place at all. Queueing a candidate is the one move that touches
two: the pass goes on and the candidate's refresh begins.
-/

namespace UnattendedRefresh

open Function

namespace Effect

/-- Whether the effect leaves every task where it stands. -/
def isAside : Effect → Bool
  | begun _ _ => false
  | answered _ _ => false
  | ended _ _ => false
  | _ => true

end Effect

namespace Reply

/-- An answer that a task can get while no other task begins: the trigger tells
the settings in effect and refuses candidates; the rest is for the others to say. -/
def IsGivenBy (trigger : Trigger) : Reply → Prop
  | ⟨.snapshot, settings⟩ => settings = trigger.settings
  | ⟨.enqueue _ _, answer⟩ => ∃ fault, answer = .error fault
  | _ => True

theorem isGivenBy_of_external {trigger : Trigger} {reply : Reply}
    (external : reply.question.isInternal = false) : reply.IsGivenBy trigger := by
  obtain ⟨question, answer⟩ := reply
  cases question <;> simp_all [Question.isInternal, IsGivenBy]

end Reply

namespace Trigger

/-- What a move can do to the tasks, with the effects that tell of it. -/
inductive Turn (trigger after : Trigger) : List Effect → Prop where
  | aside {effects : List Effect} (quiet : ∀ effect ∈ effects, effect.isAside = true)
      (standing_eq : after.standing = trigger.standing) : Turn trigger after effects
  | began {errand : Errand} {told : Effect} (quiet : told.isAside = true)
      (direct : ∀ candidate settings, errand ≠ .scheduled candidate settings)
      (taken : trigger.next < after.next)
      (standing_eq : after.standing = update trigger.standing trigger.next
        (some (errand, errand.procedure trigger.gate))) :
      Turn trigger after [.begun trigger.next errand, told]
  | wrote {number : Nat} {errand : Errand} {entry : Journal.Entry}
      {rest : Procedure Outcome}
      (stood : trigger.standing number = some (errand, .report entry rest))
      (standing_eq : after.standing = update trigger.standing number (some (errand, rest))) :
      Turn trigger after [.reported number entry]
  | answered {number : Nat} {errand : Errand} (reply : Reply)
      {resume : reply.question.Answer → Procedure Outcome} {told : List Effect}
      (quiet : ∀ effect ∈ told, effect.isAside = true)
      (stood : trigger.standing number = some (errand, .ask reply.question resume))
      (given : reply.IsGivenBy trigger)
      (standing_eq : after.standing =
        update trigger.standing number (some (errand, resume reply.answer))) :
      Turn trigger after (.answered number reply :: told)
  | enqueued {number : Nat} {errand : Errand} {candidate : Candidate} {settings : Settings}
      {resume : Except PoolFault Unit → Procedure Outcome} {told : Effect}
      (quiet : told.isAside = true)
      (stood : trigger.standing number = some (errand, .ask (.enqueue candidate settings) resume))
      (taken : trigger.next < after.next)
      (standing_eq : after.standing =
        update (update trigger.standing trigger.next
            (some (.scheduled candidate settings,
              (Errand.scheduled candidate settings).procedure trigger.gate)))
          number (some (errand, resume (.ok ())))) :
      Turn trigger after [.answered number ⟨.enqueue candidate settings, .ok ()⟩,
        .begun trigger.next (.scheduled candidate settings), told]
  | ended {number : Nat} {errand : Errand} {outcome : Outcome}
      (stood : trigger.standing number = some (errand, .done outcome))
      (standing_eq : after.standing = update trigger.standing number none) :
      Turn trigger after [.ended number (some outcome)]
  | crashed {number : Nat} {errand : Errand} {rest : Procedure Outcome} {notes : List Effect}
      (quiet : ∀ effect ∈ notes, effect.isAside = true)
      (stood : trigger.standing number = some (errand, rest))
      (standing_eq : after.standing = update trigger.standing number none) :
      Turn trigger after (notes ++ [.ended number none])

/-- A move together with what it keeps. -/
structure Lawful (trigger : Trigger) (result : Trigger × List Effect) : Prop where
  sound : result.1.Sound
  gate_eq : result.1.gate = trigger.gate
  next_le : trigger.next ≤ result.1.next
  turn : Turn trigger result.1 result.2

variable {trigger after : Trigger} {number : Nat} {task : Task}

theorem Lawful.unchanged (sound : trigger.Sound) : Lawful trigger (trigger, []) :=
  ⟨sound, rfl, Nat.le_refl _, .aside (by simp) rfl⟩

theorem Lawful.table_unchanged {effects : List Effect} (sound : trigger.Sound)
    (same : after.task? = trigger.task?) (gate_eq : after.gate = trigger.gate)
    (next_le : trigger.next ≤ after.next)
    (quiet : ∀ effect ∈ effects, effect.isAside = true) :
    Lawful trigger (after, effects) :=
  ⟨sound.congr same next_le, gate_eq, next_le, .aside quiet (standing_congr same)⟩

theorem standing_of_task? (found : trigger.task? number = some task) :
    trigger.standing number = some (task.errand, task.rest) := by
  simp [standing, found]

theorem Goes.standing (goes : trigger.Goes task) :
    trigger.standing task.number = some (task.errand, task.rest) :=
  standing_of_task? goes.found

/-- A pool takes a new task: who is on the table then. -/
theorem Sound.newcomer (sound : trigger.Sound) (lane : Lane) (pool : WorkerPool Nat)
    (errand : Errand) :
    ((trigger.setPool lane pool).addTask (some lane) errand).Sound ∧
      ((trigger.setPool lane pool).addTask (some lane) errand).task? =
        update trigger.task? trigger.next
          (some ⟨trigger.next, some lane, errand, errand.procedure trigger.gate, false⟩) := by
  have pooled : (trigger.setPool lane pool).Sound := sound.congr (by simp) (by simp)
  have table : ((trigger.setPool lane pool).addTask (some lane) errand).task? =
      update trigger.task? trigger.next
        (some ⟨trigger.next, some lane, errand, errand.procedure trigger.gate, false⟩) := by
    simpa using task?_addTask pooled (some lane) errand
  refine ⟨sound.of_update table (by simp [addTask]) (by simp [addTask]) ?_, table⟩
  rintro task ⟨⟩ awaiting
  simp at awaiting

/-- Whoever was on the table before still is. -/
theorem Sound.still_of_newcomer (sound : trigger.Sound)
    (found : trigger.task? number = some task) (lane : Lane) (pool : WorkerPool Nat)
    (errand : Errand) :
    ((trigger.setPool lane pool).addTask (some lane) errand).task? number = some task := by
  have before := sound.lt_next found
  rw [(sound.newcomer lane pool errand).2, update_of_ne (by omega), found]

/-- A task goes on to a later point of its procedure. -/
theorem Sound.resume (sound : trigger.Sound) (found : trigger.task? number = some task)
    (rest : Procedure Outcome) :
    (trigger.resumeTask number rest).Sound ∧
      (trigger.resumeTask number rest).standing =
        update trigger.standing number (some (task.errand, rest)) := by
  have table := task?_resumeTask found rest
  refine ⟨sound.of_update table (sound.lt_next found) (Nat.le_refl _) ?_, standing_update table⟩
  rintro task ⟨⟩ awaiting
  simp at awaiting

/-- Taking a task out of its pool and off the table. -/
theorem Sound.remove (sound : trigger.Sound) (found : trigger.task? number = some task) :
    (trigger.removeTask task).Sound ∧ (trigger.removeTask task).gate = trigger.gate ∧
      (trigger.removeTask task).next = trigger.next ∧
      (trigger.removeTask task).standing = update trigger.standing number none := by
  have table := task?_removeTask found
  have gate_eq : (trigger.removeTask task).gate = trigger.gate := by
    simp only [removeTask]
    split <;> simp
  have next_eq : (trigger.removeTask task).next = trigger.next := by
    simp only [removeTask]
    split <;> simp
  refine ⟨sound.of_update table ?_ (Nat.le_of_eq next_eq.symm) (by simp), gate_eq, next_eq,
    standing_update table⟩
  rw [next_eq]
  exact sound.lt_next found

/-- A task that waits stands at a question for somebody else. -/
theorem Sound.external_of_awaiting (sound : trigger.Sound) (goes : trigger.Goes task)
    {question : Question} {resume : question.Answer → Procedure Outcome}
    (stands : task.rest = .ask question resume) (waits : task.awaiting = true) :
    question.isInternal = false := by
  obtain ⟨other, onward, same, external⟩ := sound.awaits task.number task goes.found waits
  obtain ⟨rfl, -⟩ := Procedure.ask.inj (stands.symm.trans same)
  exact external

/-- Every deed is one of the turns. -/
theorem Deed.lawful {effects : List Effect} (deed : Deed trigger after effects)
    (sound : trigger.Sound) : Lawful trigger (after, effects) := by
  cases deed with
  | nothing => exact .unchanged sound
  | refused refuses =>
      exact .table_unchanged sound rfl rfl (Nat.le_refl _) (by simp [Effect.isAside])
  | @admitted lane errand pool direct taken =>
      obtain ⟨kept, table⟩ := sound.newcomer lane pool errand
      exact ⟨kept, by simp [addTask], by simp [addTask],
        .began rfl direct (by simp [addTask]) (standing_update table)⟩
  | @begun errand direct =>
      have table := task?_addTask sound none errand
      refine ⟨sound.of_update table (by simp [addTask]) (by simp [addTask]) ?_, rfl,
        by simp [addTask], .began rfl direct (by simp [addTask]) (standing_update table)⟩
      rintro task ⟨⟩ awaiting
      simp at awaiting
  | started taken =>
      exact .table_unchanged sound (by simp) (by simp) (by simp) (by simp [Effect.isAside])
  | @wrote task entry rest goes stands =>
      obtain ⟨kept, standing_eq⟩ := sound.resume goes.found rest
      exact ⟨kept, rfl, Nat.le_refl _, .wrote (stands ▸ goes.standing) standing_eq⟩
  | @showed task resume goes stands =>
      obtain ⟨kept, standing_eq⟩ := sound.resume goes.found (resume trigger.settings)
      exact ⟨kept, rfl, Nat.le_refl _, .answered ⟨.snapshot, trigger.settings⟩ (by simp)
        (stands ▸ goes.standing) rfl standing_eq⟩
  | @queued task candidate settings resume pool goes stands taken =>
      obtain ⟨kept, table⟩ := sound.newcomer .dispatch pool (.scheduled candidate settings)
      have still :=
        sound.still_of_newcomer goes.found .dispatch pool (.scheduled candidate settings)
      obtain ⟨resumed, standing_eq⟩ := kept.resume still (resume (.ok ()))
      rw [standing_update table] at standing_eq
      exact ⟨resumed, by simp [resumeTask, addTask], by simp [resumeTask, addTask],
        .enqueued rfl (stands ▸ goes.standing) (by simp [resumeTask, addTask]) standing_eq⟩
  | @turnedAway task candidate settings resume fault goes stands refuses =>
      obtain ⟨kept, standing_eq⟩ := sound.resume goes.found (resume (.error fault))
      exact ⟨kept, rfl, Nat.le_refl _, .answered ⟨.enqueue candidate settings, .error fault⟩
        (by simp [Effect.isAside]) (stands ▸ goes.standing) ⟨fault, rfl⟩ standing_eq⟩
  | @called task question resume goes stands external idle =>
      have table := task?_await goes.found
      refine ⟨sound.of_update table (sound.lt_next goes.found) (Nat.le_refl _) ?_, rfl,
        Nat.le_refl _, .aside (by simp [Effect.isAside]) ?_⟩
      · rintro task ⟨⟩ -
        exact ⟨question, resume, stands, external⟩
      · rw [standing_update table]
        exact update_eq_self_iff.mpr goes.standing.symm
  | @answered task reply resume goes stands waits =>
      obtain ⟨kept, standing_eq⟩ := sound.resume goes.found (resume reply.answer)
      have external := sound.external_of_awaiting goes stands waits
      exact ⟨kept, rfl, Nat.le_refl _, .answered reply (by simp) (stands ▸ goes.standing)
        (Reply.isGivenBy_of_external external) standing_eq⟩
  | @ended task outcome goes stands =>
      obtain ⟨kept, gate_eq, next_eq, standing_eq⟩ := sound.remove goes.found
      exact ⟨kept, gate_eq, Nat.le_of_eq next_eq.symm,
        .ended (stands ▸ goes.standing) standing_eq⟩
  | @crashed task notes goes noted =>
      obtain ⟨kept, gate_eq, next_eq, standing_eq⟩ := sound.remove goes.found
      refine ⟨kept, gate_eq, Nat.le_of_eq next_eq.symm, .crashed ?_ goes.standing standing_eq⟩
      intro effect member
      obtain rfl := noted effect member
      rfl
  | closedPasses => exact .table_unchanged sound (task?_congr rfl) rfl (Nat.le_succ _) (by simp)
  | closedRefreshes call drained =>
      exact .table_unchanged sound (task?_congr rfl) rfl (Nat.le_refl _) (by simp)
  | drained waited dispatch forced =>
      exact .table_unchanged sound (task?_congr rfl) rfl (Nat.le_refl _)
        (by simp [Effect.isAside])

theorem step_lawful (sound : trigger.Sound) (move : Move) :
    Lawful trigger (trigger.step move) := by
  rcases trigger.replaced_or_deed move with ⟨settings, rfl⟩ | deed
  · exact .table_unchanged sound (task?_congr rfl) rfl (Nat.le_refl _) (by simp)
  · exact deed.lawful sound

theorem Deed.settings_eq {effects : List Effect} (deed : Deed trigger after effects) :
    after.settings = trigger.settings := by
  cases deed <;> simp

/-- Only a replacement changes the settings in effect. -/
theorem step_settings (trigger : Trigger) {move : Move}
    (keeps : ∀ settings, move ≠ .replaceSettings settings) :
    (trigger.step move).1.settings = trigger.settings := by
  rcases trigger.replaced_or_deed move with ⟨settings, rfl⟩ | deed
  · exact absurd rfl (keeps settings)
  · exact deed.settings_eq

end Trigger

end UnattendedRefresh
