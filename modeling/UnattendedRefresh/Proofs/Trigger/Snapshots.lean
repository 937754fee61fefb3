import UnattendedRefresh.Proofs.Trigger.Life
import UnattendedRefresh.Settings.Reload
import Mathlib.Data.List.Induction

/-!
# Snapshots among replacements

The settings are replaced from outside and by the task that reloads them, at any time
between the moves of the tasks. A task that takes a snapshot is told the settings in
effect at one such time, and the record tells at which.
-/

namespace UnattendedRefresh

open Function Procedure

/-- The settings in effect after the move. -/
def Move.settings (current : Settings) : Move → Settings
  | replaceSettings settings => settings
  | _ => current

/-- What happens to a running trigger: a move, or the reload task reads a source. -/
inductive Event where
  | move (move : Move)
  | reload (source : Settings.Source)

namespace Event

def asMove (current : Settings) : Event → Move
  | .move made => made
  | .reload source => .replaceSettings (current.reload source).1

def settings (current : Settings) (event : Event) : Settings :=
  (event.asMove current).settings current

/-- The moves that the events come to. -/
def moves (current : Settings) : List Event → List Move
  | [] => []
  | event :: events => event.asMove current :: moves (event.settings current) events

end Event

/-- The settings in effect after the events. -/
def inEffect (current : Settings) (events : List Event) : Settings :=
  events.foldl Event.settings current

theorem Event.moves_append (current : Settings) (events later : List Event) :
    moves current (events ++ later) =
      moves current events ++ moves (inEffect current events) later := by
  induction events generalizing current with
  | nil => rfl
  | cons event events ih => simp [moves, inEffect, ih]

/-- Everything that a new trigger does through the events. -/
abbrev Record.ofEvents (gate : Gate) (settings : Settings) (sizes : PoolSizes)
    (events : List Event) : Record :=
  ((Trigger.create gate settings sizes).run (Event.moves settings events)).2

namespace Trigger

variable {gate : Gate} {trigger after : Trigger} {news : Record} {number : Nat}
  {snapshot : Settings} {events : List Event}

theorem settings_step (trigger : Trigger) (move : Move) :
    (trigger.step move).1.settings = move.settings trigger.settings := by
  cases move with
  | replaceSettings settings => rfl
  | _ => exact step_settings trigger (by simp)

theorem settings_run (trigger : Trigger) (events : List Event) :
    (trigger.run (Event.moves trigger.settings events)).1.settings =
      inEffect trigger.settings events := by
  induction events generalizing trigger with
  | nil => rfl
  | cons event events ih =>
      have now := settings_step trigger (event.asMove trigger.settings)
      rw [Event.moves, run, Event.settings, ← now]
      simpa [inEffect, Event.settings, ← now] using ih _

/-- A turn tells a task at most one answer. -/
theorem Turn.length_answers_le (turn : Turn trigger after news) (number : Nat) :
    (news.answers number).length ≤ 1 := by
  cases turn with
  | aside quiet => simp [Record.untold_of_isAside quiet]
  | began quiet => simp [Effect.untold_of_isAside quiet]
  | @wrote writer errand entry rest =>
      simp [@Effect.untold_of_isAside (.reported writer entry) rfl]
  | @answered asker errand reply resume told quiet =>
      by_cases same : asker = number <;> simp [same, Record.untold_of_isAside quiet]
  | @enqueued pass errand candidate settings resume told quiet =>
      by_cases same : pass = number <;> simp [same, Effect.untold_of_isAside quiet]
  | ended => simp
  | crashed quiet => simp [Record.untold_of_isAside quiet]

/-- With this event the task was told its first answer, the settings in effect. -/
structure Takes (trigger : Trigger) (number : Nat) (snapshot : Settings)
    (earlier : List Event) (event : Event) : Prop where
  untold :
    Record.answers (trigger.run (Event.moves trigger.settings earlier)).2 number = []
  told :
    Record.answers (trigger.run (Event.moves trigger.settings (earlier ++ [event]))).2 number =
      [⟨.snapshot, snapshot⟩]
  current : snapshot = inEffect trigger.settings earlier

def Took (trigger : Trigger) (events : List Event) (number : Nat) (snapshot : Settings) : Prop :=
  ∃ earlier event later, events = earlier ++ event :: later ∧
    trigger.Takes number snapshot earlier event

/-- A snapshot that a task has got was taken with one of the events. -/
theorem took_of_answers (sound : trigger.Sound) {rest : List Reply}
    (answers_eq : Record.answers (trigger.run (Event.moves trigger.settings events)).2 number =
      ⟨.snapshot, snapshot⟩ :: rest) : trigger.Took events number snapshot := by
  induction events using List.reverseRecOn generalizing rest with
  | nil => simp [Event.moves, run] at answers_eq
  | append_singleton events event ih =>
      have answers_eq' := answers_eq
      rw [Event.moves_append, run_append, Record.answers_append] at answers_eq'
      cases earlier :
          Record.answers (trigger.run (Event.moves trigger.settings events)).2 number with
      | cons first others =>
          rw [earlier, List.cons_append, List.cons.injEq] at answers_eq'
          obtain ⟨rfl, -⟩ := answers_eq'
          obtain ⟨before, taking, later, rfl, takes⟩ := ih earlier
          exact ⟨before, taking, later ++ [event], by simp, takes⟩
      | nil =>
          let now := (trigger.run (Event.moves trigger.settings events)).1
          have current : now.settings = inEffect trigger.settings events :=
            settings_run trigger events
          have turn := (step_lawful (sound_run sound _)
            (event.asMove (inEffect trigger.settings events)) : Lawful now _).turn
          simp only [earlier, List.nil_append, Event.moves, run, List.append_nil] at answers_eq'
          have single := turn.length_answers_le number
          rw [answers_eq'] at single
          obtain rfl : rest = [] := by simpa using single
          refine ⟨events, event, [], rfl, earlier, answers_eq, ?_⟩
          have member := List.mem_singleton.mpr (Eq.refl (Reply.mk .snapshot snapshot))
          rw [← answers_eq'] at member
          rcases turn.isGivenBy member with given | ⟨_, _, other⟩
          · exact given.trans current
          · simp at other

end Trigger

end UnattendedRefresh
