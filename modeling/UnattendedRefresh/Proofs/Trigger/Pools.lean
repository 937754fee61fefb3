import UnattendedRefresh.Proofs.Pool.Operations
import UnattendedRefresh.Proofs.Trigger.Turns

/-!
# What one move does to the pools

A move takes a task into one pool, gives it a worker, or takes an ended task out;
a shutdown closes pools, in an order. A task whose procedure goes on holds a
worker of its pool, and a candidate is submitted by such a task.
-/

namespace UnattendedRefresh

open Function

namespace Effect

/-- Whether the effect tells nothing of who is in the pools and of what became of
a candidate. -/
def isIdle : Effect → Bool
  | accepted _ _ => false
  | answered _ ⟨.enqueue _ _, _⟩ => false
  | ended _ _ => false
  | drained _ => false
  | _ => true

theorem isIdle_of_external {reply : Reply} (external : reply.question.isInternal = false)
    (number : Nat) : (answered number reply).isIdle = true := by
  obtain ⟨question, answer⟩ := reply
  cases question <;> simp_all [Question.isInternal, isIdle]

end Effect

namespace WorkerPool

/-- The job was accepted and has not ended. -/
def Holds (pool : WorkerPool Nat) (job : Nat) : Prop :=
  job ∈ pool.waiting ∨ job ∈ pool.running

/-- What every operation keeps of a pool: a closed pool stays closed, and once it
is drained it stays empty. -/
structure Onward (pool after : WorkerPool Nat) : Prop where
  name_eq : after.name = pool.name
  capacity_eq : after.capacity = pool.capacity
  closed : pool.isClosed = true → after.isClosed = true
  drained : pool.isDrained = true → after.isDrained = true

variable {pool after : WorkerPool Nat} {job other : Nat}

theorem not_holds_of_isDrained (drained : pool.isDrained = true) : ¬ pool.Holds job := by
  obtain ⟨-, waiting, running⟩ := isDrained_iff.mp drained
  simp [Holds, waiting, running]

theorem Onward.refl (pool : WorkerPool Nat) : pool.Onward pool :=
  ⟨rfl, rfl, id, id⟩

theorem onward_submit (taken : pool.submit job = .ok after) : pool.Onward after := by
  obtain ⟨isOpen, -, rfl⟩ := submit_eq_ok_iff.mp taken
  exact ⟨rfl, rfl, id, by simp [isDrained, isOpen]⟩

theorem onward_start? (taken : pool.start? job = some after) : pool.Onward after := by
  obtain ⟨waits, -, rfl⟩ := start?_eq_some_iff.mp taken
  refine ⟨rfl, rfl, id, fun drained => ?_⟩
  exact absurd (Or.inl waits) (not_holds_of_isDrained drained)

theorem onward_finish (pool : WorkerPool Nat) (job : Nat) : pool.Onward (pool.finish job) := by
  refine ⟨rfl, rfl, id, fun drained => ?_⟩
  obtain ⟨closed, waiting, running⟩ := isDrained_iff.mp drained
  exact isDrained_iff.mpr ⟨closed, waiting, by simp [running]⟩

theorem onward_close (pool : WorkerPool Nat) : pool.Onward pool.close := by
  refine ⟨rfl, rfl, fun _ => rfl, fun drained => ?_⟩
  obtain ⟨-, waiting, running⟩ := isDrained_iff.mp drained
  exact isDrained_iff.mpr ⟨rfl, waiting, running⟩

theorem holds_submit (taken : pool.submit job = .ok after) :
    after.Holds other ↔ pool.Holds other ∨ other = job := by
  obtain ⟨-, -, rfl⟩ := submit_eq_ok_iff.mp taken
  simp only [Holds, List.mem_append, List.mem_singleton]
  exact or_right_comm

theorem holds_start? (taken : pool.start? job = some after) (held : pool.Holds other) :
    after.Holds other := by
  obtain ⟨waits, -, rfl⟩ := start?_eq_some_iff.mp taken
  by_cases same : other = job
  · exact Or.inr (by simp [same])
  · rcases held with waiting | running
    · exact Or.inl ((List.mem_erase_of_ne same).mpr waiting)
    · exact Or.inr (by simp [running])

theorem holds_finish (different : other ≠ job) (held : pool.Holds other) :
    (pool.finish job).Holds other := by
  rcases held with waiting | running
  · exact Or.inl waiting
  · exact Or.inr ((List.mem_erase_of_ne different).mpr running)

end WorkerPool

namespace Trigger

variable {trigger after : Trigger} {number : Nat} {task : Task}

@[simp]
theorem pool_setPool (trigger : Trigger) (lane : Lane) (pool : WorkerPool Nat) :
    (trigger.setPool lane pool).pool = update trigger.pool lane pool := by
  funext other
  cases lane <;> cases other <;> rfl

theorem pool_congr (pass : after.passPool = trigger.passPool)
    (dispatch : after.dispatchPool = trigger.dispatchPool)
    (forced : after.forcedPool = trigger.forcedPool) : after.pool = trigger.pool := by
  funext lane
  cases lane
  · exact pass
  · exact dispatch
  · exact forced

@[simp]
theorem pool_addTask (trigger : Trigger) (lane : Option Lane) (errand : Errand) :
    (trigger.addTask lane errand).pool = trigger.pool :=
  pool_congr rfl rfl rfl

@[simp]
theorem pool_resumeTask (trigger : Trigger) (number : Nat) (rest : Procedure Outcome) :
    (trigger.resumeTask number rest).pool = trigger.pool :=
  pool_congr rfl rfl rfl

@[simp]
theorem setPool_shutdowns (trigger : Trigger) (lane : Lane) (pool : WorkerPool Nat) :
    (trigger.setPool lane pool).shutdowns = trigger.shutdowns := by
  cases lane <;> rfl

@[simp]
theorem addTask_shutdowns (trigger : Trigger) (lane : Option Lane) (errand : Errand) :
    (trigger.addTask lane errand).shutdowns = trigger.shutdowns :=
  rfl

@[simp]
theorem resumeTask_shutdowns (trigger : Trigger) (number : Nat) (rest : Procedure Outcome) :
    (trigger.resumeTask number rest).shutdowns = trigger.shutdowns :=
  rfl

@[simp]
theorem removeTask_shutdowns (trigger : Trigger) (task : Task) :
    (trigger.removeTask task).shutdowns = trigger.shutdowns := by
  simp only [removeTask]
  split <;> simp

/-- The lane of a task that has not ended, or that it was called directly. -/
def seat (trigger : Trigger) : Nat → Option (Option Lane) :=
  Option.map Task.lane ∘ trigger.task?

theorem seat_congr (same : after.task? = trigger.task?) : after.seat = trigger.seat := by
  rw [seat, seat, same]

theorem seat_update {entry : Option Task}
    (table : after.task? = update trigger.task? number entry) :
    after.seat = update trigger.seat number (entry.map Task.lane) := by
  rw [seat, table, comp_update, seat]

theorem seat_of_task? (found : trigger.task? number = some task) :
    trigger.seat number = some task.lane := by
  simp [seat, found]

/-- The task goes on: it was called directly or holds a worker of its pool. -/
def Moves (trigger : Trigger) (number : Nat) : Prop :=
  ∃ seat, trigger.seat number = some seat ∧
    ∀ lane, seat = some lane → number ∈ (trigger.pool lane).running

theorem Goes.moves (goes : trigger.Goes task) : trigger.Moves task.number := by
  refine ⟨task.lane, seat_of_task? goes.found, fun lane own => ?_⟩
  simpa [isMovable, own] using goes.movable

/-- What a move can do to the pools, with the effects that tell of it. -/
inductive Shift (trigger after : Trigger) : List Effect → Prop where
  | still {effects : List Effect} (idle : ∀ effect ∈ effects, effect.isIdle = true)
      (pool_eq : after.pool = trigger.pool) (shutdowns_eq : after.shutdowns = trigger.shutdowns) :
      Shift trigger after effects
  | admitted {lane : Lane} {errand : Errand} {pool : WorkerPool Nat}
      (taken : (trigger.pool lane).submit trigger.next = .ok pool)
      (pool_eq : after.pool = update trigger.pool lane pool)
      (shutdowns_eq : after.shutdowns = trigger.shutdowns)
      (seated : after.seat trigger.next = some (some lane)) :
      Shift trigger after [.begun trigger.next errand, .accepted trigger.next lane]
  | queued {number : Nat} {candidate : Candidate} {settings : Settings}
      {pool : WorkerPool Nat} (asked : trigger.Moves number)
      (taken : (trigger.pool .dispatch).submit trigger.next = .ok pool)
      (pool_eq : after.pool = update trigger.pool .dispatch pool)
      (shutdowns_eq : after.shutdowns = trigger.shutdowns)
      (seated : after.seat trigger.next = some (some .dispatch)) :
      Shift trigger after [.answered number ⟨.enqueue candidate settings, .ok ()⟩,
        .begun trigger.next (.scheduled candidate settings), .accepted trigger.next .dispatch]
  | turnedAway {number : Nat} {candidate : Candidate} {settings : Settings}
      {fault : PoolFault} (asked : trigger.Moves number)
      (refused : (trigger.pool .dispatch).submit trigger.next = .error fault)
      (pool_eq : after.pool = trigger.pool) (shutdowns_eq : after.shutdowns = trigger.shutdowns) :
      Shift trigger after
        [.answered number ⟨.enqueue candidate settings, .error fault⟩, .refused fault]
  | started {lane : Lane} {number : Nat} {pool : WorkerPool Nat}
      (taken : (trigger.pool lane).start? number = some pool)
      (pool_eq : after.pool = update trigger.pool lane pool)
      (shutdowns_eq : after.shutdowns = trigger.shutdowns) :
      Shift trigger after [.started number]
  | ended {number : Nat} {outcome : Option Outcome} {seat : Option Lane} {notes : List Effect}
      (idle : ∀ effect ∈ notes, effect.isIdle = true)
      (pool_eq : after.pool = seat.elim trigger.pool fun lane =>
        update trigger.pool lane ((trigger.pool lane).finish number))
      (shutdowns_eq : after.shutdowns = trigger.shutdowns) :
      Shift trigger after (notes ++ [.ended number outcome])
  | closedPasses {number : Nat}
      (pool_eq : after.pool = update trigger.pool .pass (trigger.pool .pass).close)
      (shutdowns_eq : after.shutdowns = trigger.shutdowns ++ [(number, .drainingPasses)]) :
      Shift trigger after []
  | closedDispatch (drained : (trigger.pool .pass).isDrained = true)
      (pool_eq : after.pool = update trigger.pool .dispatch (trigger.pool .dispatch).close)
      (shutdowns_eq : after.shutdowns = trigger.shutdowns) :
      Shift trigger after []
  | closedRefreshes {number : Nat} (drained : (trigger.pool .pass).isDrained = true)
      (pool_eq : after.pool =
        update (update trigger.pool .dispatch (trigger.pool .dispatch).close)
          .forced (trigger.pool .forced).close)
      (shutdowns_sub : ∀ shutdown ∈ after.shutdowns,
        shutdown ∈ trigger.shutdowns ∨ shutdown = (number, .drainingRefreshes)) :
      Shift trigger after []
  | drained {number : Nat} (waited : (number, .drainingRefreshes) ∈ trigger.shutdowns)
      (dispatch : (trigger.pool .dispatch).isDrained = true)
      (forced : (trigger.pool .forced).isDrained = true)
      (pool_eq : after.pool = trigger.pool)
      (shutdowns_sub : ∀ shutdown ∈ after.shutdowns, shutdown ∈ trigger.shutdowns) :
      Shift trigger after [.drained number]

/-- A move together with what it does to the seats that were given out before. -/
structure Seated (trigger : Trigger) (result : Trigger × List Effect) : Prop where
  shift : Shift trigger result.1 result.2
  kept : ∀ number < trigger.next, ∀ seat, result.1.seat number = some seat →
    trigger.seat number = some seat

theorem Seated.unchanged (trigger : Trigger) : Seated trigger (trigger, []) :=
  ⟨.still (by simp) rfl rfl, fun _ _ _ kept => kept⟩

/-- Tasks that stay where they are, in pools that stay as they are. -/
theorem Seated.still {effects : List Effect} (idle : ∀ effect ∈ effects, effect.isIdle = true)
    (seats : after.seat = trigger.seat) (pool_eq : after.pool = trigger.pool)
    (shutdowns_eq : after.shutdowns = trigger.shutdowns) : Seated trigger (after, effects) :=
  ⟨.still idle pool_eq shutdowns_eq, fun _ _ _ kept => seats ▸ kept⟩

/-- A newcomer takes no seat from the others. -/
theorem kept_of_newcomer {seat : Option Lane}
    (seats : after.seat = update trigger.seat trigger.next (some seat)) :
    ∀ number < trigger.next, ∀ own, after.seat number = some own →
      trigger.seat number = some own := by
  intro number earlier own kept
  rwa [seats, update_of_ne (by omega)] at kept

/-- A task that goes on keeps its seat. -/
theorem seat_resumeTask (found : trigger.task? number = some task) (rest : Procedure Outcome) :
    (trigger.resumeTask number rest).seat = trigger.seat := by
  rw [seat_update (task?_resumeTask found rest)]
  exact update_eq_self_iff.mpr (seat_of_task? found).symm

theorem pool_removeTask (trigger : Trigger) (task : Task) :
    (trigger.removeTask task).pool = task.lane.elim trigger.pool fun lane =>
      update trigger.pool lane ((trigger.pool lane).finish task.number) := by
  have untouched (other : Trigger) (tasks : List Task) :
      ({ other with tasks := tasks } : Trigger).pool = other.pool :=
    pool_congr rfl rfl rfl
  simp only [removeTask, untouched]
  cases task.lane <;> simp

/-- An ended task leaves its seat and its pool. -/
theorem Goes.seated_of_remove {outcome : Option Outcome} {notes : List Effect}
    (goes : trigger.Goes task) (idle : ∀ effect ∈ notes, effect.isIdle = true) :
    Seated trigger (trigger.removeTask task, notes ++ [.ended task.number outcome]) := by
  refine ⟨.ended idle (pool_removeTask trigger task) (by simp), fun number _ seat kept => ?_⟩
  rw [seat_update (task?_removeTask goes.found)] at kept
  by_cases same : number = task.number
  · simp [same] at kept
  · rwa [update_of_ne same] at kept

/-- Every deed is one of the shifts. -/
theorem Deed.seated {effects : List Effect} (deed : Deed trigger after effects)
    (sound : trigger.Sound) : Seated trigger (after, effects) := by
  cases deed with
  | nothing => exact .unchanged trigger
  | refused refuses => exact .still (by simp [Effect.isIdle]) rfl rfl rfl
  | @admitted lane errand pool direct taken =>
      have seats := seat_update (sound.newcomer lane pool errand).2
      exact ⟨.admitted taken (by simp) (by simp) (by simp [seats]), kept_of_newcomer seats⟩
  | @begun errand direct =>
      exact ⟨.still (by simp [Effect.isIdle]) (pool_addTask trigger none errand) rfl,
        kept_of_newcomer (seat_update (task?_addTask sound none errand))⟩
  | @started lane job pool taken =>
      have seats : (trigger.setPool lane pool).seat = trigger.seat := seat_congr (by simp)
      exact ⟨.started taken (by simp) (by simp), fun _ _ _ kept => seats ▸ kept⟩
  | wrote goes stands =>
      exact .still (by simp [Effect.isIdle]) (seat_resumeTask goes.found _) (by simp) rfl
  | showed goes stands =>
      exact .still (by simp [Effect.isIdle]) (seat_resumeTask goes.found _) (by simp) rfl
  | @queued task candidate settings resume pool goes stands taken =>
      have seats := seat_update (sound.newcomer .dispatch pool (.scheduled candidate settings)).2
      have still :=
        sound.still_of_newcomer goes.found .dispatch pool (.scheduled candidate settings)
      have resumed := seat_resumeTask still (resume (.ok ()))
      exact ⟨.queued goes.moves taken (by simp) (by simp) (by simp [resumed, seats]),
        kept_of_newcomer (resumed.trans seats)⟩
  | turnedAway goes stands refuses =>
      exact ⟨.turnedAway goes.moves refuses (by simp) rfl,
        fun _ _ _ kept => seat_resumeTask goes.found _ ▸ kept⟩
  | called goes stands external idle =>
      refine .still (by simp [Effect.isIdle]) ?_ (pool_congr rfl rfl rfl) rfl
      rw [seat_update (task?_await goes.found)]
      exact update_eq_self_iff.mpr (seat_of_task? goes.found).symm
  | answered reply goes stands waits =>
      have external := sound.external_of_awaiting goes stands waits
      exact .still (by simp [Effect.isIdle_of_external external])
        (seat_resumeTask goes.found _) (by simp) rfl
  | ended goes stands =>
      have idle : ∀ effect ∈ ([] : List Effect), effect.isIdle = true := by simp
      exact goes.seated_of_remove idle
  | crashed goes noted =>
      refine goes.seated_of_remove fun effect member => ?_
      obtain rfl := noted effect member
      rfl
  | closedPasses =>
      refine ⟨.closedPasses ?_ rfl, fun _ _ _ kept => kept⟩
      funext lane
      cases lane <;> rfl
  | closedRefreshes call drained =>
      refine ⟨.closedRefreshes drained ?_ (?_ : ∀ shutdown ∈ _, _ ∨ shutdown = (call, _)),
        fun _ _ _ kept => kept⟩
      · funext lane
        cases lane <;> rfl
      · simp only [List.mem_map]
        rintro shutdown ⟨earlier, member, rfl⟩
        split
        next => exact Or.inr rfl
        next => exact Or.inl member
  | drained waited dispatch forced =>
      refine ⟨.drained waited dispatch forced (pool_congr rfl rfl rfl) ?_, fun _ _ _ kept => kept⟩
      exact fun shutdown member => (List.mem_filter.mp member).1

theorem step_seated (sound : trigger.Sound) (move : Move) :
    Seated trigger (trigger.step move) := by
  rcases trigger.replaced_or_deed move with ⟨settings, rfl⟩ | deed
  · exact .still (by simp) rfl (pool_congr rfl rfl rfl) rfl
  · exact deed.seated sound

section Passage

variable {news : List Effect}

/-- What a move can do to one pool. The pools of the refreshes close when the
passes have drained, the dispatch pool first. -/
inductive Passage (trigger after : Trigger) (news : List Effect) (lane : Lane) : Prop where
  | kept (pool_eq : after.pool lane = trigger.pool lane)
  | submitted (taken : (trigger.pool lane).submit trigger.next = .ok (after.pool lane))
  | started (number : Nat)
      (taken : (trigger.pool lane).start? number = some (after.pool lane))
      (told : .started number ∈ news)
  | finished (number : Nat) (outcome : Option Outcome) (told : .ended number outcome ∈ news)
      (pool_eq : after.pool lane = (trigger.pool lane).finish number)
  | closed (passes : lane ≠ .pass → (trigger.pool .pass).isDrained = true)
      (dispatch : lane = .forced → (after.pool .dispatch).isClosed = true)
      (pool_eq : after.pool lane = (trigger.pool lane).close)

namespace Passage

variable {lane : Lane} {number : Nat}

theorem onward (passage : Passage trigger after news lane) :
    (trigger.pool lane).Onward (after.pool lane) := by
  cases passage with
  | kept pool_eq => exact pool_eq ▸ .refl _
  | submitted taken => exact WorkerPool.onward_submit taken
  | started number taken => exact WorkerPool.onward_start? taken
  | finished number outcome told pool_eq => exact pool_eq ▸ WorkerPool.onward_finish _ number
  | closed passes dispatch pool_eq => exact pool_eq ▸ WorkerPool.onward_close _

/-- A job stays in its pool until it ends. -/
theorem holds (passage : Passage trigger after news lane)
    (held : (trigger.pool lane).Holds number) :
    (after.pool lane).Holds number ∨ ∃ outcome, .ended number outcome ∈ news := by
  cases passage with
  | kept pool_eq => exact Or.inl (pool_eq ▸ held)
  | submitted taken => exact Or.inl ((WorkerPool.holds_submit taken).mpr (Or.inl held))
  | started other taken => exact Or.inl (WorkerPool.holds_start? taken held)
  | finished other outcome told pool_eq =>
      by_cases same : number = other
      · exact Or.inr ⟨outcome, same ▸ told⟩
      · exact Or.inl (pool_eq ▸ WorkerPool.holds_finish same held)
  | closed passes dispatch pool_eq => exact Or.inl (pool_eq ▸ held)

/-- A closed pool was closed before or closes now, in its turn. -/
theorem of_closed (passage : Passage trigger after news lane)
    (closed : (after.pool lane).isClosed = true) :
    (trigger.pool lane).isClosed = true ∨
      (lane ≠ .pass → (trigger.pool .pass).isDrained = true) ∧
        (lane = .forced → (after.pool .dispatch).isClosed = true) := by
  cases passage with
  | kept pool_eq => exact Or.inl (pool_eq ▸ closed)
  | submitted taken =>
      obtain ⟨isOpen, -, same⟩ := WorkerPool.submit_eq_ok_iff.mp taken
      simp [same, isOpen] at closed
  | started number taken =>
      obtain ⟨-, -, same⟩ := WorkerPool.start?_eq_some_iff.mp taken
      exact Or.inl (by simpa [same] using closed)
  | finished number outcome told pool_eq => exact Or.inl (by rwa [pool_eq] at closed)
  | closed passes dispatch pool_eq => exact Or.inr ⟨passes, dispatch⟩

end Passage

/-- A move changes the pool of one lane, and only the closing of the refreshes
changes two. -/
theorem passage_of_update {changed lane : Lane} {pool : WorkerPool Nat}
    (pool_eq : after.pool = update trigger.pool changed pool)
    (own : lane = changed → after.pool lane = pool → Passage trigger after news lane) :
    Passage trigger after news lane := by
  by_cases same : lane = changed
  · exact own same (by rw [pool_eq, same, update_self])
  · exact .kept (by rw [pool_eq, update_of_ne same])

theorem Shift.passage (shift : Shift trigger after news) (lane : Lane) :
    Passage trigger after news lane := by
  cases shift with
  | still _ pool_eq => exact .kept (by rw [pool_eq])
  | admitted taken pool_eq =>
      exact passage_of_update pool_eq fun same own => .submitted (by rw [own, same, taken])
  | queued _ taken pool_eq =>
      exact passage_of_update pool_eq fun same own => .submitted (by rw [own, same, taken])
  | turnedAway _ _ pool_eq => exact .kept (by rw [pool_eq])
  | @started _ number _ taken pool_eq =>
      exact passage_of_update pool_eq fun same own =>
        .started number (by rw [own, same, taken]) (by simp)
  | @ended number outcome seat _ _ pool_eq =>
      cases seat with
      | none => exact .kept (by rw [pool_eq]; rfl)
      | some changed =>
          exact passage_of_update pool_eq fun same own =>
            .finished number outcome (by simp) (by rw [own, same])
  | closedPasses pool_eq =>
      exact passage_of_update pool_eq fun same own =>
        .closed (fun other => absurd same other) (by simp [same]) (by rw [own, same])
  | closedDispatch drained pool_eq =>
      exact passage_of_update pool_eq fun same own =>
        .closed (fun _ => drained) (by simp [same]) (by rw [own, same])
  | closedRefreshes drained pool_eq =>
      cases lane with
      | pass => exact .kept (by simp [pool_eq])
      | dispatch => exact .closed (fun _ => drained) (by simp) (by simp [pool_eq])
      | forced => exact .closed (fun _ => drained) (by simp [pool_eq]) (by simp [pool_eq])
  | drained _ _ _ pool_eq => exact .kept (by rw [pool_eq])

end Passage

end Trigger

end UnattendedRefresh
