import UnattendedRefresh.Proofs.Trigger.Life
import UnattendedRefresh.Proofs.Trigger.Pools
import Mathlib.Data.List.Perm.Basic
import Mathlib.Data.List.Nodup

/-!
# Who is in the pools

A pool holds the tasks that it accepted and that have not ended, each in one place. So
the end of a task, by an outcome or by a crash, gives its slot and its worker back, and
what is in flight is what the record has not told the end of.
-/

namespace UnattendedRefresh

open Function

namespace Effect

def acceptedBy? (lane : Lane) : Effect → Option Nat
  | accepted number taker => if taker = lane then some number else none
  | _ => none

/-- Whether the effect leaves who was accepted and who has ended as it is. -/
def isNeutral : Effect → Bool
  | accepted _ _ => false
  | ended _ _ => false
  | _ => true

theorem isNeutral_told {effect : Effect} (neutral : effect.isNeutral = true) (lane : Lane)
    (number : Nat) : effect.acceptedBy? lane = none ∧ effect.endingOf? number = none := by
  cases effect <;> simp_all [isNeutral, acceptedBy?, endingOf?]

end Effect

namespace Record

variable {record news : Record} {lane : Lane} {number : Nat}

/-- The tasks that the pool of a lane has accepted, in turn. -/
def accepted (record : Record) (lane : Lane) : List Nat :=
  record.filterMap (Effect.acceptedBy? lane)

/-- Those of them that have not ended. -/
def unended (record : Record) (lane : Lane) : List Nat :=
  (record.accepted lane).filter fun number => record.endings number = []

@[simp]
theorem accepted_append (record news : Record) (lane : Lane) :
    accepted (record ++ news) lane = record.accepted lane ++ news.accepted lane :=
  List.filterMap_append

@[simp]
theorem accepted_singleton (number : Nat) (taker lane : Lane) :
    accepted [.accepted number taker] lane = if taker = lane then [number] else [] := by
  by_cases same : taker = lane <;> simp [accepted, Effect.acceptedBy?, same]

@[simp]
theorem accepted_ended (number : Nat) (ending : Option Outcome) (lane : Lane) :
    accepted [.ended number ending] lane = [] :=
  rfl

theorem mem_accepted_iff : number ∈ record.accepted lane ↔ .accepted number lane ∈ record := by
  apply mem_filterMap_iff
  intro effect number
  cases effect <;> simp [Effect.acceptedBy?, and_comm]

theorem mem_unended_iff :
    number ∈ record.unended lane ↔ number ∈ record.accepted lane ∧ record.endings number = [] := by
  simp [unended]

theorem neutral (quiet : ∀ effect ∈ news, effect.isNeutral = true) (lane : Lane)
    (number : Nat) : news.accepted lane = [] ∧ news.endings number = [] := by
  rw [accepted, endings, List.filterMap_eq_nil_iff, List.filterMap_eq_nil_iff]
  constructor
  · intro effect member
    exact (Effect.isNeutral_told (quiet effect member) lane number).1
  · intro effect member
    exact (Effect.isNeutral_told (quiet effect member) lane number).2

theorem accepted_of_admitted (quiet : ∀ effect ∈ news, effect.isNeutral = true)
    (taker lane : Lane) : accepted (record ++ (news ++ [.accepted number taker])) lane =
      record.accepted lane ++ if taker = lane then [number] else [] := by
  simp [neutral quiet lane 0]

theorem endings_of_admitted (quiet : ∀ effect ∈ news, effect.isNeutral = true)
    (other : Nat) : endings (record ++ (news ++ [.accepted number lane])) other =
      record.endings other := by
  simp [neutral quiet lane other, Effect.endingOf?]

theorem accepted_of_ended {ending : Option Outcome}
    (quiet : ∀ effect ∈ news, effect.isNeutral = true) (lane : Lane) :
    accepted (record ++ (news ++ [.ended number ending])) lane = record.accepted lane := by
  simp [neutral quiet lane 0]

end Record

namespace Trigger

variable {gate : Gate} {trigger after : Trigger} {record news : Record} {number : Nat}
  {lane : Lane}

/-- The jobs of a pool, the waiting ones first. -/
def jobs (trigger : Trigger) (lane : Lane) : List Nat :=
  (trigger.pool lane).waiting ++ (trigger.pool lane).running

/-- What a move can do to who is on the table and in the pools. -/
inductive Lodging (trigger after : Trigger) : List Effect → Prop where
  | kept {effects : List Effect} (quiet : ∀ effect ∈ effects, effect.isNeutral = true)
      (seat_eq : ∀ number lane,
        after.seat number = some (some lane) ↔ trigger.seat number = some (some lane))
      (jobs_perm : ∀ lane, (after.jobs lane).Perm (trigger.jobs lane)) :
      Lodging trigger after effects
  | admitted {lane : Lane} {front : List Effect}
      (quiet : ∀ effect ∈ front, effect.isNeutral = true) (taken : trigger.next < after.next)
      (seat_eq : after.seat = update trigger.seat trigger.next (some (some lane)))
      (jobs_perm : (after.jobs lane).Perm (trigger.next :: trigger.jobs lane))
      (others : ∀ other, other ≠ lane → after.jobs other = trigger.jobs other) :
      Lodging trigger after (front ++ [.accepted trigger.next lane])
  | ended {number : Nat} {seat : Option Lane} {ending : Option Outcome} {notes : List Effect}
      (quiet : ∀ effect ∈ notes, effect.isNeutral = true)
      (sat : trigger.seat number = some seat)
      (seat_eq : after.seat = update trigger.seat number none)
      (jobs_perm : ∀ lane, seat = some lane →
        (number :: after.jobs lane).Perm (trigger.jobs lane))
      (others : ∀ other, seat ≠ some other → after.jobs other = trigger.jobs other) :
      Lodging trigger after (notes ++ [.ended number ending])

theorem Lodging.unmoved {effects : List Effect}
    (quiet : ∀ effect ∈ effects, effect.isNeutral = true) (seat_eq : after.seat = trigger.seat)
    (pool_eq : after.pool = trigger.pool) : Lodging trigger after effects := by
  refine .kept quiet (fun number lane => by rw [seat_eq]) fun lane => ?_
  rw [jobs, pool_eq]
  exact List.Perm.refl _

/-- The newcomer waits behind the others. -/
theorem jobs_of_submit {pool : WorkerPool Nat}
    (taken : (trigger.pool lane).submit number = .ok pool)
    (pool_eq : after.pool = update trigger.pool lane pool) :
    (after.jobs lane).Perm (number :: trigger.jobs lane) ∧
      ∀ other, other ≠ lane → after.jobs other = trigger.jobs other := by
  obtain ⟨-, -, rfl⟩ := WorkerPool.submit_eq_ok_iff.mp taken
  constructor
  · simp [jobs, pool_eq]
  · intro other different
    simp [jobs, pool_eq, different]

/-- A job that starts changes its place and stays in the pool. -/
theorem jobs_of_start {pool : WorkerPool Nat}
    (taken : (trigger.pool lane).start? number = some pool)
    (pool_eq : after.pool = update trigger.pool lane pool) (other : Lane) :
    (after.jobs other).Perm (trigger.jobs other) := by
  obtain ⟨waits, -, rfl⟩ := WorkerPool.start?_eq_some_iff.mp taken
  by_cases same : other = lane
  · subst same
    have first : (trigger.pool other).waiting.Perm
        (number :: (trigger.pool other).waiting.erase number) := List.perm_cons_erase waits
    have last := (first.append_right (trigger.pool other).running).trans
      List.perm_middle.symm
    have moved : ((trigger.pool other).waiting.erase number ++
        number :: (trigger.pool other).running).Perm
          ((trigger.pool other).waiting.erase number ++
            ((trigger.pool other).running ++ [number])) :=
      (List.perm_append_singleton _ _).symm.append_left _
    simpa [jobs, pool_eq] using (last.trans moved).symm
  · simp [jobs, pool_eq, same]

/-- A running job that ends leaves its pool. -/
theorem jobs_of_finish (runs : number ∈ (trigger.pool lane).running)
    (pool_eq : after.pool = update trigger.pool lane ((trigger.pool lane).finish number)) :
    (number :: after.jobs lane).Perm (trigger.jobs lane) ∧
      ∀ other, other ≠ lane → after.jobs other = trigger.jobs other := by
  constructor
  · have left : (trigger.pool lane).running.Perm
        (number :: (trigger.pool lane).running.erase number) := List.perm_cons_erase runs
    have moved := List.perm_middle.symm.trans (left.symm.append_left (trigger.pool lane).waiting)
    simpa [jobs, pool_eq] using moved
  · intro other different
    simp [jobs, pool_eq, different]

theorem Goes.lodging_of_remove {task : Task} {ending : Option Outcome} {notes : List Effect}
    (goes : trigger.Goes task) (quiet : ∀ effect ∈ notes, effect.isNeutral = true) :
    Lodging trigger (trigger.removeTask task) (notes ++ [.ended task.number ending]) := by
  have pool_eq := pool_removeTask trigger task
  obtain ⟨seat, sat, runs⟩ := goes.moves
  obtain rfl : task.lane = seat := Option.some.inj ((seat_of_task? goes.found).symm.trans sat)
  refine .ended quiet sat (seat_update (task?_removeTask goes.found)) ?_ ?_
  · intro lane own
    rw [own] at pool_eq
    exact (jobs_of_finish (runs lane own) pool_eq).1
  · intro other different
    cases own : task.lane with
    | none =>
        rw [own] at pool_eq
        rw [jobs, pool_eq]
        rfl
    | some lane =>
        rw [own] at pool_eq different
        refine (jobs_of_finish (runs lane own) pool_eq).2 other ?_
        rintro rfl
        exact different rfl

/-- Every deed leaves the tables and the pools in one of these ways. -/
theorem Deed.lodging {effects : List Effect} (deed : Deed trigger after effects)
    (sound : trigger.Sound) : Lodging trigger after effects := by
  cases deed with
  | nothing => exact .unmoved (by simp) rfl rfl
  | refused refuses => exact .unmoved (by simp [Effect.isNeutral]) rfl rfl
  | @admitted lane errand pool direct taken =>
      have pool_eq : ((trigger.setPool lane pool).addTask (some lane) errand).pool =
          update trigger.pool lane pool := by
        simp
      obtain ⟨joined, others⟩ := jobs_of_submit taken pool_eq
      have seats := seat_update (sound.newcomer lane pool errand).2
      have quiet : ∀ effect ∈ [Effect.begun trigger.next errand], effect.isNeutral = true := by
        simp [Effect.isNeutral]
      exact .admitted quiet (by simp [addTask]) seats joined others
  | @begun errand direct =>
      have seats := seat_update (task?_addTask sound none errand)
      have fresh : trigger.seat trigger.next = none := by
        simp [seat, sound.fresh trigger.next (Nat.le_refl _)]
      refine .kept (by simp [Effect.isNeutral]) (fun number lane => ?_) fun lane => ?_
      · rw [seats]
        by_cases same : number = trigger.next
        · simp [same, fresh]
        · rw [update_of_ne same]
      · rw [jobs, pool_addTask]
        exact List.Perm.refl _
  | @started lane job pool taken =>
      have seats : (trigger.setPool lane pool).seat = trigger.seat := seat_congr (by simp)
      refine .kept (by simp [Effect.isNeutral]) (fun number lane => by rw [seats]) fun lane => ?_
      exact jobs_of_start taken (by simp) lane
  | wrote goes stands =>
      exact .unmoved (by simp [Effect.isNeutral]) (seat_resumeTask goes.found _) (by simp)
  | showed goes stands =>
      exact .unmoved (by simp [Effect.isNeutral]) (seat_resumeTask goes.found _) (by simp)
  | @queued task candidate settings resume pool goes stands taken =>
      have seats := seat_update (sound.newcomer .dispatch pool (.scheduled candidate settings)).2
      have still :=
        sound.still_of_newcomer goes.found .dispatch pool (.scheduled candidate settings)
      have resumed := seat_resumeTask still (resume (.ok ()))
      have pool_eq : (((trigger.setPool .dispatch pool).addTask (some .dispatch)
          (.scheduled candidate settings)).resumeTask task.number (resume (.ok ()))).pool =
            update trigger.pool .dispatch pool := by
        simp
      obtain ⟨joined, others⟩ := jobs_of_submit taken pool_eq
      have quiet : ∀ effect ∈ [Effect.answered task.number ⟨.enqueue candidate settings, .ok ()⟩,
          .begun trigger.next (.scheduled candidate settings)], effect.isNeutral = true := by
        simp [Effect.isNeutral]
      exact .admitted quiet (by simp [resumeTask, addTask]) (resumed.trans seats) joined others
  | turnedAway goes stands refuses =>
      exact .unmoved (by simp [Effect.isNeutral]) (seat_resumeTask goes.found _) (by simp)
  | called goes stands external idle =>
      refine .unmoved (by simp [Effect.isNeutral]) ?_ (pool_congr rfl rfl rfl)
      rw [seat_update (task?_await goes.found)]
      exact update_eq_self_iff.mpr (seat_of_task? goes.found).symm
  | answered reply goes stands waits =>
      exact .unmoved (by simp [Effect.isNeutral]) (seat_resumeTask goes.found _) (by simp)
  | ended goes stands =>
      have quiet : ∀ effect ∈ ([] : List Effect), effect.isNeutral = true := by simp
      exact goes.lodging_of_remove quiet
  | crashed goes noted =>
      apply goes.lodging_of_remove
      intro effect member
      obtain rfl := noted effect member
      rfl
  | closedPasses =>
      refine .kept (by simp) (fun _ _ => Iff.rfl) fun lane => ?_
      cases lane <;> exact List.Perm.refl _
  | closedRefreshes call drained =>
      refine .kept (by simp) (fun _ _ => Iff.rfl) fun lane => ?_
      cases lane <;> exact List.Perm.refl _
  | drained waited dispatch forced =>
      refine .kept (by simp [Effect.isNeutral]) (fun _ _ => Iff.rfl) fun lane => ?_
      cases lane <;> exact List.Perm.refl _

theorem step_lodging (sound : trigger.Sound) (move : Move) :
    Lodging trigger (trigger.step move).1 (trigger.step move).2 := by
  rcases trigger.replaced_or_deed move with ⟨settings, rfl⟩ | deed
  · exact .unmoved (by simp [step]) rfl (pool_congr rfl rfl rfl)
  · exact deed.lodging sound

/-- Who is in a pool is who was accepted there and has not ended. -/
structure Housed (trigger : Trigger) (record : Record) : Prop where
  seat_iff : ∀ number lane, trigger.seat number = some (some lane) ↔
    number ∈ record.accepted lane ∧ record.endings number = []
  jobs_iff : ∀ number lane, number ∈ trigger.jobs lane ↔
    trigger.seat number = some (some lane)
  given : ∀ lane, ∀ number ∈ record.accepted lane, number < trigger.next
  accepted_nodup : ∀ lane, (record.accepted lane).Nodup
  jobs_nodup : ∀ lane, (trigger.jobs lane).Nodup

theorem housed_create (gate : Gate) (settings : Settings) (sizes : PoolSizes) :
    Housed (create gate settings sizes) [] := by
  constructor
  · simp [seat, task?, create, Record.accepted]
  · intro number lane
    cases lane <;> simp [jobs, pool, create, WorkerPool.create, seat, task?]
  · simp [Record.accepted]
  · simp [Record.accepted]
  · intro lane
    cases lane <;> simp [jobs, pool, create, WorkerPool.create]

/-- Where nobody comes or goes. -/
theorem Housed.kept (housed : Housed trigger record) (later : trigger.next ≤ after.next)
    (quiet : ∀ effect ∈ news, effect.isNeutral = true)
    (seat_eq : ∀ number lane,
      after.seat number = some (some lane) ↔ trigger.seat number = some (some lane))
    (jobs_perm : ∀ lane, (after.jobs lane).Perm (trigger.jobs lane)) :
    Housed after (record ++ news) := by
  have none := Record.neutral quiet
  constructor
  · intro number lane
    rw [seat_eq, housed.seat_iff]
    simp [none lane number]
  · intro number lane
    rw [(jobs_perm lane).mem_iff, housed.jobs_iff, seat_eq]
  · intro lane number member
    simp only [Record.accepted_append, none lane number, List.append_nil] at member
    exact Nat.lt_of_lt_of_le (housed.given lane number member) later
  · intro lane
    simpa [none lane 0] using housed.accepted_nodup lane
  · intro lane
    exact (jobs_perm lane).nodup_iff.mpr (housed.jobs_nodup lane)

section Newcomer

variable {taker : Lane} {front : List Effect}

/-- The number of the next task is nobody's yet. -/
theorem Housed.next_unaccepted (housed : Housed trigger record) (lane : Lane) :
    trigger.next ∉ record.accepted lane ∧ trigger.next ∉ trigger.jobs lane := by
  have fresh : trigger.next ∉ record.accepted lane := by
    intro member
    exact absurd (housed.given lane _ member) (Nat.lt_irrefl _)
  refine ⟨fresh, ?_⟩
  rw [housed.jobs_iff, housed.seat_iff]
  exact fun seated => fresh seated.1

/-- A newcomer sits in its pool, and the others where they sat. -/
theorem Housed.jobs_iff_of_admitted (housed : Housed trigger record)
    (seat_eq : after.seat = update trigger.seat trigger.next (some (some taker)))
    (jobs_perm : (after.jobs taker).Perm (trigger.next :: trigger.jobs taker))
    (others : ∀ other, other ≠ taker → after.jobs other = trigger.jobs other)
    (number : Nat) (lane : Lane) :
    number ∈ after.jobs lane ↔ after.seat number = some (some lane) := by
  rw [seat_eq]
  by_cases own : lane = taker
  · subst own
    rw [jobs_perm.mem_iff, List.mem_cons, housed.jobs_iff]
    by_cases same : number = trigger.next <;> simp [same]
  · rw [others lane own]
    by_cases same : number = trigger.next
    · subst same
      simpa [Ne.symm own] using (housed.next_unaccepted lane).2
    · rw [update_of_ne same, housed.jobs_iff]

/-- Where a pool takes a newcomer. -/
theorem Housed.admitted (housed : Housed trigger record) (chronicle : Chronicle gate trigger record)
    (quiet : ∀ effect ∈ front, effect.isNeutral = true) (taken : trigger.next < after.next)
    (seat_eq : after.seat = update trigger.seat trigger.next (some (some taker)))
    (jobs_perm : (after.jobs taker).Perm (trigger.next :: trigger.jobs taker))
    (others : ∀ other, other ≠ taker → after.jobs other = trigger.jobs other) :
    Housed after (record ++ (front ++ [.accepted trigger.next taker])) := by
  have fresh (lane : Lane) := housed.next_unaccepted lane
  refine ⟨fun number lane => ?_, housed.jobs_iff_of_admitted seat_eq jobs_perm others,
    fun lane number member => ?_, fun lane => ?_, fun lane => ?_⟩
  · obtain ⟨-, -, -, unended⟩ := chronicle.untold (Nat.le_refl trigger.next)
    rw [seat_eq, Record.accepted_of_admitted quiet, Record.endings_of_admitted quiet]
    by_cases same : number = trigger.next
    · subst same
      by_cases own : taker = lane <;> simp [own, unended, fresh lane]
    · rw [update_of_ne same, housed.seat_iff]
      by_cases own : taker = lane <;> simp [own, same]
  · rw [Record.accepted_of_admitted quiet, List.mem_append] at member
    rcases member with earlier | new
    · exact Nat.lt_trans (housed.given lane number earlier) taken
    · split at new
      next => exact List.mem_singleton.mp new ▸ taken
      next => exact absurd new List.not_mem_nil
  · rw [Record.accepted_of_admitted quiet]
    split
    next =>
      have nodup := List.nodup_cons.mpr ⟨(fresh lane).1, housed.accepted_nodup lane⟩
      exact (List.perm_append_singleton _ _).nodup_iff.mpr nodup
    next => simpa using housed.accepted_nodup lane
  · by_cases own : lane = taker
    · subst own
      exact jobs_perm.nodup_iff.mpr
        (List.nodup_cons.mpr ⟨(fresh lane).2, housed.jobs_nodup lane⟩)
    · rw [others lane own]
      exact housed.jobs_nodup lane

end Newcomer

section Leaver

variable {leaver : Nat} {seat : Option Lane} {ending : Option Outcome} {notes : List Effect}

/-- Who leaves is in no pool any more, and the others sit where they sat. -/
theorem Housed.jobs_iff_of_ended (housed : Housed trigger record)
    (sat : trigger.seat leaver = some seat)
    (seat_eq : after.seat = update trigger.seat leaver none)
    (jobs_perm : ∀ lane, seat = some lane → (leaver :: after.jobs lane).Perm (trigger.jobs lane))
    (others : ∀ other, seat ≠ some other → after.jobs other = trigger.jobs other)
    (number : Nat) (lane : Lane) :
    number ∈ after.jobs lane ↔ after.seat number = some (some lane) := by
  rw [seat_eq]
  by_cases own : seat = some lane
  · have nodup := (jobs_perm lane own).nodup_iff.mpr (housed.jobs_nodup lane)
    by_cases same : number = leaver
    · subst same
      simpa using (List.nodup_cons.mp nodup).1
    · rw [update_of_ne same, ← housed.jobs_iff, ← (jobs_perm lane own).mem_iff]
      simp [same]
  · rw [others lane own, housed.jobs_iff]
    by_cases same : number = leaver
    · subst same
      simp [sat, own]
    · rw [update_of_ne same]

/-- Where a task ends, in a pool or outside. -/
theorem Housed.ended (housed : Housed trigger record) (later : trigger.next ≤ after.next)
    (quiet : ∀ effect ∈ notes, effect.isNeutral = true)
    (sat : trigger.seat leaver = some seat)
    (seat_eq : after.seat = update trigger.seat leaver none)
    (jobs_perm : ∀ lane, seat = some lane → (leaver :: after.jobs lane).Perm (trigger.jobs lane))
    (others : ∀ other, seat ≠ some other → after.jobs other = trigger.jobs other) :
    Housed after (record ++ (notes ++ [.ended leaver ending])) := by
  have none := Record.neutral quiet
  refine ⟨fun number lane => ?_, housed.jobs_iff_of_ended sat seat_eq jobs_perm others,
    fun lane number member => ?_, fun lane => ?_, fun lane => ?_⟩
  · rw [seat_eq, Record.accepted_of_ended quiet]
    by_cases same : number = leaver
    · subst same
      simp
    · rw [update_of_ne same, housed.seat_iff]
      simp [none lane number, Ne.symm same]
  · rw [Record.accepted_of_ended quiet] at member
    exact Nat.lt_of_lt_of_le (housed.given lane number member) later
  · rw [Record.accepted_of_ended quiet]
    exact housed.accepted_nodup lane
  · by_cases own : seat = some lane
    · have nodup := (jobs_perm lane own).nodup_iff.mpr (housed.jobs_nodup lane)
      exact (List.nodup_cons.mp nodup).2
    · rw [others lane own]
      exact housed.jobs_nodup lane

end Leaver

theorem Housed.extend (housed : Housed trigger record) (chronicle : Chronicle gate trigger record)
    (later : trigger.next ≤ after.next) (lodging : Lodging trigger after news) :
    Housed after (record ++ news) := by
  cases lodging with
  | kept quiet seat_eq jobs_perm => exact housed.kept later quiet seat_eq jobs_perm
  | admitted quiet taken seat_eq jobs_perm others =>
      exact housed.admitted chronicle quiet taken seat_eq jobs_perm others
  | ended quiet sat seat_eq jobs_perm others =>
      exact housed.ended later quiet sat seat_eq jobs_perm others

theorem Housed.run (housed : Housed trigger record) (chronicle : Chronicle gate trigger record)
    (moves : List Move) : Housed (trigger.run moves).1 (record ++ (trigger.run moves).2) := by
  induction moves generalizing trigger record with
  | nil => simpa [Trigger.run] using housed
  | cons move moves ih =>
      have lawful := step_lawful chronicle.sound move
      have first := housed.extend chronicle lawful.next_le (step_lodging chronicle.sound move)
      simpa [Trigger.run] using ih first (chronicle.step move)

theorem housed_run (gate : Gate) (settings : Settings) (sizes : PoolSizes) (moves : List Move) :
    Housed ((create gate settings sizes).run moves).1
      ((create gate settings sizes).run moves).2 := by
  simpa using (housed_create gate settings sizes).run
    (chronicle_create gate settings sizes) moves

/-- The jobs of a pool are the accepted ones that have not ended. -/
theorem Housed.jobs_perm (housed : Housed trigger record) (lane : Lane) :
    (trigger.jobs lane).Perm (record.unended lane) := by
  have unended_nodup : (record.unended lane).Nodup := (housed.accepted_nodup lane).filter _
  rw [List.perm_ext_iff_of_nodup (housed.jobs_nodup lane) unended_nodup]
  intro number
  rw [housed.jobs_iff, housed.seat_iff]
  exact Record.mem_unended_iff.symm

theorem Housed.inFlight_eq (housed : Housed trigger record) (lane : Lane) :
    (trigger.pool lane).inFlight = (record.unended lane).length := by
  rw [← (housed.jobs_perm lane).length_eq, jobs, List.length_append]
  rfl

end Trigger

end UnattendedRefresh
