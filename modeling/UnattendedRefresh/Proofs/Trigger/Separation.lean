import UnattendedRefresh.Proofs.Pool.Desk
import UnattendedRefresh.Proofs.Trigger.Lodging
import UnattendedRefresh.Proofs.Trigger.Strides
import UnattendedRefresh.Proofs.Trigger.Upshots

/-!
# Forced refreshes apart from scheduled work

Each lane has a pool of its own. What a pool answers depends on what was asked of it, on
how many of its jobs have ended and on when it was closed, and forced refreshes and
scheduled work never touch each other's pools. So however busy the passes and the
scheduled refreshes are, a forced refresh is taken and started as if there were none.
-/

namespace UnattendedRefresh

open Function

namespace Trigger

variable {gate : Gate} {settings : Settings} {sizes : PoolSizes} {trigger after : Trigger}
  {record : Record} {lane : Lane} {moment : Moment}

/-! ### What comes before the pool of a lane -/

def requestsAt (trigger : Trigger) (lane : Lane) (moment : Moment) : List Errand :=
  ((trigger.submission? moment).filter (·.lane = lane)).toList

def leaversAt (trigger : Trigger) (lane : Lane) (moment : Moment) : List Nat :=
  ((trigger.happen moment).2.filterMap Effect.leaver?).filter
    (trigger.seat · = some (some lane))

def closesAt (trigger : Trigger) (lane : Lane) (moment : Moment) : Bool :=
  (trigger.pool lane).isClosed != ((trigger.happen moment).1.pool lane).isClosed

/-- What a moment brings before the pool of a lane. -/
def dealingsAt (trigger : Trigger) (lane : Lane) (moment : Moment) : List (Dealing Errand) :=
  (trigger.requestsAt lane moment).map .asked
    ++ (trigger.leaversAt lane moment).map (fun _ => .ended)
    ++ if trigger.closesAt lane moment then [.closed] else []

/-- What the pool of a lane answers at a moment. -/
def verdictsAt (trigger : Trigger) (lane : Lane) (moment : Moment) :
    List (Except PoolFault Unit) :=
  if (trigger.submission? moment).map Errand.lane = some lane then
    (trigger.happen moment).2.filterMap Effect.verdict?
  else
    []

def dealings (trigger : Trigger) (lane : Lane) : List Moment → List (Dealing Errand)
  | [] => []
  | moment :: moments =>
    trigger.dealingsAt lane moment ++ (trigger.happen moment).1.dealings lane moments

def verdicts (trigger : Trigger) (lane : Lane) : List Moment → List (Except PoolFault Unit)
  | [] => []
  | moment :: moments =>
    trigger.verdictsAt lane moment ++ (trigger.happen moment).1.verdicts lane moments

/-- The desk of a lane has dealt with a moment. -/
structure Dealt (trigger : Trigger) (lane : Lane) (moment : Moment) : Prop where
  desk_eq : ((trigger.happen moment).1.pool lane).desk =
    (trigger.dealingsAt lane moment).foldl Desk.deal (trigger.pool lane).desk
  verdicts_eq : trigger.verdictsAt lane moment =
    (trigger.pool lane).desk.verdicts (trigger.dealingsAt lane moment)

theorem Dealt.of_eq {dealings : List (Dealing Errand)} {answers : List (Except PoolFault Unit)}
    (dealings_eq : trigger.dealingsAt lane moment = dealings)
    (answers_eq : trigger.verdictsAt lane moment = answers)
    (desk_eq : ((trigger.happen moment).1.pool lane).desk =
      dealings.foldl Desk.deal (trigger.pool lane).desk)
    (verdicts_eq : answers = (trigger.pool lane).desk.verdicts dealings) :
    Dealt trigger lane moment := by
  subst dealings_eq answers_eq
  exact ⟨desk_eq, verdicts_eq⟩

/-- Nothing was asked, and nobody of the lane has left. -/
theorem Dealt.of_unasked (unasked : ∀ errand, trigger.submission? moment = some errand →
      errand.lane ≠ lane) (stayed : trigger.leaversAt lane moment = [])
    (desk_eq : ((trigger.happen moment).1.pool lane).desk = (trigger.pool lane).desk) :
    Dealt trigger lane moment := by
  have unclosed : trigger.closesAt lane moment = false := by
    simpa [closesAt, WorkerPool.desk] using (congrArg Desk.isClosed desk_eq).symm
  have requests : trigger.requestsAt lane moment = [] := by
    cases submitted : trigger.submission? moment with
    | none => simp [requestsAt, submitted]
    | some errand => simp [requestsAt, submitted, unasked errand submitted]
  have silent : trigger.verdictsAt lane moment = [] := by
    rw [verdictsAt, if_neg]
    simpa using unasked
  have nothing : trigger.dealingsAt lane moment = [] := by
    simp [dealingsAt, requests, stayed, unclosed]
  exact .of_eq nothing silent desk_eq rfl

theorem leaversAt_eq_nil (left : (trigger.happen moment).2.filterMap Effect.leaver? = []) :
    trigger.leaversAt lane moment = [] := by
  simp [leaversAt, left]

theorem Dealt.of_asked {errand : Errand} {answer : Except PoolFault Unit}
    (submitted : trigger.submission? moment = some errand)
    (answered : (trigger.happen moment).2.filterMap Effect.verdict? = [answer])
    (left : (trigger.happen moment).2.filterMap Effect.leaver? = [])
    (isClosed_eq : ((trigger.happen moment).1.pool errand.lane).isClosed =
      (trigger.pool errand.lane).isClosed)
    (desk_eq : ((trigger.happen moment).1.pool errand.lane).desk =
      (trigger.pool errand.lane).desk.serve)
    (verdict_eq : (trigger.pool errand.lane).desk.verdict = answer) :
    Dealt trigger errand.lane moment := by
  have asked : trigger.dealingsAt errand.lane moment = [.asked errand] := by
    simp [dealingsAt, requestsAt, submitted, leaversAt_eq_nil left, closesAt, isClosed_eq]
  have answers : trigger.verdictsAt errand.lane moment = [answer] := by
    simp [verdictsAt, submitted, answered]
  exact .of_eq asked answers desk_eq (by simp [Desk.verdicts, verdict_eq])

theorem Dealt.of_ended {task : Task} (goes : trigger.Goes task)
    (own : task.lane = some lane) (none : trigger.submission? moment = none)
    (left : (trigger.happen moment).2.filterMap Effect.leaver? = [task.number])
    (pool_eq : (trigger.happen moment).1.pool lane = (trigger.pool lane).finish task.number) :
    Dealt trigger lane moment := by
  have seated : trigger.seat task.number = some (some lane) := own ▸ seat_of_task? goes.found
  have ended : trigger.dealingsAt lane moment = [.ended] := by
    simp [dealingsAt, requestsAt, none, leaversAt, left, seated, closesAt, pool_eq,
      WorkerPool.finish]
  have silent : trigger.verdictsAt lane moment = [] := by simp [verdictsAt, none]
  refine .of_eq ended silent ?_ rfl
  rw [pool_eq, WorkerPool.desk_finish (goes.runs own)]
  rfl

theorem Dealt.of_closed (none : trigger.submission? moment = none)
    (left : (trigger.happen moment).2.filterMap Effect.leaver? = [])
    (pool_eq : (trigger.happen moment).1.pool lane = (trigger.pool lane).close) :
    Dealt trigger lane moment := by
  cases before : (trigger.pool lane).isClosed with
  | true =>
      refine .of_unasked (by simp [none]) (leaversAt_eq_nil left) ?_
      simp [pool_eq, WorkerPool.desk, WorkerPool.inFlight, WorkerPool.close, before]
  | false =>
      have closed : trigger.dealingsAt lane moment = [.closed] := by
        simp [dealingsAt, requestsAt, none, leaversAt_eq_nil left, closesAt, pool_eq, before]
      have silent : trigger.verdictsAt lane moment = [] := by simp [verdictsAt, none]
      refine .of_eq closed silent ?_ rfl
      rw [pool_eq]
      rfl

theorem happen_dealt (trigger : Trigger) (lane : Lane) (moment : Moment) :
    Dealt trigger lane moment := by
  cases trigger.happen_upshot moment with
  | still none mute pool_eq =>
      exact .of_unasked (by simp [none]) (leaversAt_eq_nil (Effect.leavers_of_isMute mute))
        (by rw [pool_eq])
  | @taken errand pool submitted taken answered unended pool_eq =>
      by_cases own : errand.lane = lane
      · subst own
        obtain ⟨-, -, rfl⟩ := WorkerPool.submit_eq_ok_iff.mp taken
        refine .of_asked submitted answered unended (by simp [pool_eq]) ?_
          (WorkerPool.verdict_of_submit_ok taken)
        rw [pool_eq, update_self]
        exact WorkerPool.desk_of_submit_ok taken
      · refine .of_unasked (by simpa [submitted] using own) (leaversAt_eq_nil unended) ?_
        rw [pool_eq, update_of_ne (Ne.symm own)]
  | @refused errand fault submitted refused answered unended pool_eq =>
      by_cases own : errand.lane = lane
      · subst own
        refine .of_asked submitted answered unended (by rw [pool_eq]) ?_
          (WorkerPool.verdict_of_submit_error refused)
        rw [pool_eq, WorkerPool.serve_of_submit_error refused]
      · exact .of_unasked (by simpa [submitted] using own) (leaversAt_eq_nil unended)
          (by rw [pool_eq])
  | @started changed job pool same taken mute pool_eq =>
      have stayed : trigger.leaversAt lane moment = [] :=
        leaversAt_eq_nil (Effect.leavers_of_isMute mute)
      subst same
      refine .of_unasked (by simp [submission?]) stayed ?_
      rw [pool_eq]
      by_cases own : lane = changed
      · rw [own, update_self, WorkerPool.desk_of_start? taken]
      · rw [update_of_ne own]
  | @ended task goes none concern left pool_eq =>
      by_cases own : task.lane = some lane
      · exact .of_ended goes own none left (by rw [pool_eq, own]; exact update_self ..)
      · have seated : trigger.seat task.number ≠ some (some lane) := by
          rw [seat_of_task? goes.found]
          simpa using own
        refine .of_unasked (by simp [none]) (by simp [leaversAt, left, seated]) ?_
        rw [pool_eq]
        cases seat : task.lane with
        | none => rfl
        | some changed =>
            have other : lane ≠ changed := by
              rintro rfl
              exact own seat
            exact congrArg WorkerPool.desk (update_of_ne other _ _)
  | closed nobody none mute closing =>
      have left := Effect.leavers_of_isMute mute
      rcases closing lane with kept | closed
      · exact .of_unasked (by simp [none]) (leaversAt_eq_nil left) (by rw [kept])
      · exact .of_closed none left closed

/-- By induction on the moments: the answers of a lane follow from its dealings. -/
theorem verdicts_eq_desk (trigger : Trigger) (lane : Lane) (moments : List Moment) :
    trigger.verdicts lane moments =
      (trigger.pool lane).desk.verdicts (trigger.dealings lane moments) := by
  induction moments generalizing trigger with
  | nil => rfl
  | cons moment moments ih =>
      have dealt := trigger.happen_dealt lane moment
      rw [verdicts, dealings, Desk.verdicts_append, ← dealt.verdicts_eq, ← dealt.desk_eq, ih]

theorem desk_create (gate : Gate) (settings : Settings) (sizes : PoolSizes) (lane : Lane) :
    ((create gate settings sizes).pool lane).desk =
      ⟨((create gate settings sizes).pool lane).name,
        ((create gate settings sizes).pool lane).capacity, 0, false⟩ := by
  cases lane <;> rfl

theorem inFlight_le_of_elapse (moments : List Moment)
    (within : (trigger.pool lane).inFlight ≤ (trigger.pool lane).capacity) :
    ((trigger.elapse moments).1.pool lane).inFlight ≤
      ((trigger.elapse moments).1.pool lane).capacity := by
  induction moments generalizing trigger with
  | nil => exact within
  | cons moment moments ih =>
      have dealt := (trigger.happen_dealt lane moment).desk_eq
      have next := Desk.inFlight_le_foldl_deal (show (trigger.pool lane).desk.inFlight ≤
        (trigger.pool lane).desk.capacity from within) (trigger.dealingsAt lane moment)
      rw [← dealt] at next
      exact ih next

/-- No pool ever holds more than it may. -/
theorem inFlight_le_capacity (gate : Gate) (settings : Settings) (sizes : PoolSizes)
    (moments : List Moment) (lane : Lane) :
    (((create gate settings sizes).elapse moments).1.pool lane).inFlight ≤
      (((create gate settings sizes).elapse moments).1.pool lane).capacity :=
  inFlight_le_of_elapse moments (by cases lane <;> exact Nat.zero_le _)

/-! ### Who is in the pools, moment by moment -/

theorem happen_lodging (sound : trigger.Sound) (moment : Moment) :
    Lodging trigger (trigger.happen moment).1 (trigger.happen moment).2 := by
  cases moment with
  | move move => exact step_lodging sound move
  | closeDispatch number =>
      rw [happen]
      rcases trigger.closeDispatch_eq number with same | ⟨-, same⟩
      · rw [same]
        exact .unmoved (by simp) rfl rfl
      · rw [same]
        refine .kept (by simp) (fun _ _ => Iff.rfl) fun lane => ?_
        cases lane <;> exact List.Perm.refl _

/-- What holds in every state that the moments lead to. -/
structure Reached (gate : Gate) (sizes : PoolSizes) (trigger : Trigger) (record : Record) :
    Prop where
  chronicle : Chronicle gate trigger record
  housed : Housed trigger record
  fits : trigger.Fits
  workers_eq : (trigger.pool .forced).workers = max sizes.forcedWorkers 1
  capacity_eq : (trigger.pool .forced).capacity = max sizes.forcedWorkers 1 + sizes.forcedQueue

theorem reached_create (gate : Gate) (settings : Settings) (sizes : PoolSizes) :
    Reached gate sizes (create gate settings sizes) [] :=
  ⟨chronicle_create gate settings sizes, housed_create gate settings sizes,
    fits_create gate settings sizes, rfl, rfl⟩

theorem Reached.happen (reached : Reached gate sizes trigger record) (moment : Moment) :
    Reached gate sizes (trigger.happen moment).1 (record ++ (trigger.happen moment).2) := by
  have sound := reached.chronicle.sound
  have lawful := happen_lawful sound moment
  have passage := (happen_seated sound moment).shift.passage .forced
  constructor
  · exact reached.chronicle.extend lawful
  · exact reached.housed.extend reached.chronicle lawful.next_le (happen_lodging sound moment)
  · exact reached.fits.happen sound moment
  · rw [passage.workers_eq, reached.workers_eq]
  · rw [passage.onward.capacity_eq, reached.capacity_eq]

theorem Reached.elapse (reached : Reached gate sizes trigger record) (moments : List Moment) :
    Reached gate sizes (trigger.elapse moments).1 (record ++ (trigger.elapse moments).2) := by
  induction moments generalizing trigger record with
  | nil => simpa [Trigger.elapse] using reached
  | cons moment moments ih =>
      simpa only [Trigger.elapse, ← List.append_assoc] using ih (reached.happen moment)

theorem reached_elapse (gate : Gate) (settings : Settings) (sizes : PoolSizes)
    (moments : List Moment) :
    Reached gate sizes ((create gate settings sizes).elapse moments).1
      ((create gate settings sizes).elapse moments).2 := by
  simpa using (reached_create gate settings sizes).elapse moments

/-! ### The forced pool -/

theorem Reached.accepts_iff (reached : Reached gate sizes trigger record) (userId : UserId) :
    (trigger.step (.triggerForced userId)).2 = trigger.admission .forced (.forced userId) ↔
      (trigger.pool .forced).isClosed = false ∧
        (record.unended .forced).length < max sizes.forcedWorkers 1 + sizes.forcedQueue := by
  rw [← reached.housed.inFlight_eq, ← reached.capacity_eq]
  simp only [step, submitMove, submit]
  cases answer : (trigger.pool .forced).submit trigger.next with
  | ok pool =>
      obtain ⟨isOpen, room, -⟩ := WorkerPool.submit_eq_ok_iff.mp answer
      simp [isOpen, room]
  | error fault =>
      rcases WorkerPool.submit_eq_error_iff.mp answer with ⟨closed, -⟩ | ⟨isOpen, full, -⟩
      · simp [closed, admission]
      · simp [admission, Nat.not_lt.mpr full]

theorem Reached.starts_iff (reached : Reached gate sizes trigger record) {number : Nat}
    (unended : number ∈ record.unended .forced)
    (idle : number ∉ (trigger.pool .forced).running) :
    (trigger.step (.start .forced number)).2 = [.started number] ↔
      (trigger.pool .forced).running.length < max sizes.forcedWorkers 1 := by
  have held : number ∈ trigger.jobs .forced :=
    (reached.housed.jobs_perm .forced).mem_iff.mpr unended
  have waits : number ∈ (trigger.pool .forced).waiting :=
    (List.mem_append.mp held).resolve_right idle
  rw [← reached.workers_eq]
  simp only [step, startMove]
  cases started : (trigger.pool .forced).start? number with
  | some pool =>
      obtain ⟨-, room, -⟩ := WorkerPool.start?_eq_some_iff.mp started
      simp [room]
  | none =>
      have full : ¬ (trigger.pool .forced).running.length < (trigger.pool .forced).workers := by
        intro room
        simp [WorkerPool.start?_eq_some_iff.mpr ⟨waits, room, rfl⟩] at started
      simp [full]

/-- Whatever the interleaving: a forced refresh is accepted exactly if the forced pool is
open and has a place for it, and may start as soon as one of its workers is idle; the work
of a pass or of a candidate leaves the forced pool as it is, and the work of a forced
refresh the other two; and two runs in which the same comes before the pool of a lane
give the same answers there, whatever happens in the other lanes. -/
theorem lanes_apart (gate : Gate) (settings : Settings) (sizes : PoolSizes)
    (moments : List Moment) :
    let trigger := ((create gate settings sizes).elapse moments).1
    let record : Record := ((create gate settings sizes).elapse moments).2
    (∀ userId,
      (trigger.step (.triggerForced userId)).2 = trigger.admission .forced (.forced userId) ↔
        (trigger.pool .forced).isClosed = false ∧
          (record.unended .forced).length < max sizes.forcedWorkers 1 + sizes.forcedQueue) ∧
    (∀ number ∈ record.unended .forced, number ∉ (trigger.pool .forced).running →
      ((trigger.step (.start .forced number)).2 = [.started number] ↔
        (trigger.pool .forced).running.length < max sizes.forcedWorkers 1)) ∧
    (∀ moment,
      (trigger.concern? moment = some .pass ∨ trigger.concern? moment = some .dispatch →
        (trigger.happen moment).1.pool .forced = trigger.pool .forced) ∧
      (trigger.concern? moment = some .forced →
        (trigger.happen moment).1.pool .pass = trigger.pool .pass ∧
          (trigger.happen moment).1.pool .dispatch = trigger.pool .dispatch)) ∧
    (∀ (otherGate : Gate) (otherSettings : Settings) (otherSizes : PoolSizes)
      (otherMoments : List Moment) (lane : Lane),
      ((create otherGate otherSettings otherSizes).pool lane).capacity =
        ((create gate settings sizes).pool lane).capacity →
      (create otherGate otherSettings otherSizes).dealings lane otherMoments =
        (create gate settings sizes).dealings lane moments →
      (create otherGate otherSettings otherSizes).verdicts lane otherMoments =
        (create gate settings sizes).verdicts lane moments) := by
  intro trigger record
  have reached : Reached gate sizes trigger record := reached_elapse gate settings sizes moments
  refine ⟨reached.accepts_iff, fun number => reached.starts_iff, fun moment => ⟨?_, ?_⟩, ?_⟩
  · rintro (pass | dispatch)
    · exact pool_eq_of_concern reached.chronicle reached.fits pass rfl
    · exact pool_eq_of_concern reached.chronicle reached.fits dispatch rfl
  · intro forced
    exact ⟨pool_eq_of_concern reached.chronicle reached.fits forced rfl,
      pool_eq_of_concern reached.chronicle reached.fits forced rfl⟩
  · intro otherGate otherSettings otherSizes otherMoments lane capacity_eq same
    have name_eq : ((create otherGate otherSettings otherSizes).pool lane).name =
        ((create gate settings sizes).pool lane).name := by
      cases lane <;> rfl
    rw [verdicts_eq_desk, verdicts_eq_desk, desk_create, desk_create, capacity_eq, name_eq, same]

section Crowd

private def crowdedSizes : PoolSizes := ⟨1, 1, 0, 1, 1⟩

/-- A pass fills the dispatch pool and is turned away there with its second candidate.
In between two forced refreshes are taken, and a third one is not. -/
private def crowdedMoments : List Moment :=
  [.triggerPass ⟨0, Nat.zero_lt_succ _⟩, .start .pass 0, .advance 0, .call 0,
    .triggerForced (Identifier.ofNat 9),
    .answer 0 ⟨.tenants, .ok [Identifier.ofNat 1]⟩, .call 0,
    .answer 0 ⟨.usersInRange (Identifier.ofNat 1) (Wheel.span 0 4),
      .ok [Identifier.ofNat 7, Identifier.ofNat 8]⟩,
    .triggerForced (Identifier.ofNat 7),
    .advance 0, .advance 0, .advance 0, .triggerForced (Identifier.ofNat 8)].map .move

private def calmMoments : List Moment :=
  [.triggerForced (Identifier.ofNat 9), .triggerForced (Identifier.ofNat 7),
    .triggerForced (Identifier.ofNat 8)].map .move

theorem lanes_apart_crowded :
    let trigger := ((create Gate.neededAction .default crowdedSizes).elapse crowdedMoments).1
    trigger.dispatchPool.inFlight = trigger.dispatchPool.capacity ∧
      (trigger.step (.start .forced 1)).2 = [.started 1] ∧
      (trigger.happen (.move (.advance 0))).1.forcedPool = trigger.forcedPool ∧
      (trigger.happen (.move (.triggerForced (Identifier.ofNat 8)))).1.dispatchPool =
        trigger.dispatchPool ∧
      (create Gate.neededAction .default crowdedSizes).verdicts .forced crowdedMoments =
        [.ok (), .ok (), .error (.saturated "forced" 2)] := by
  intro trigger
  obtain ⟨-, starts, apart, alike⟩ :=
    lanes_apart Gate.neededAction .default crowdedSizes crowdedMoments
  have waiting : Record.unended
      ((create Gate.neededAction .default crowdedSizes).elapse crowdedMoments).2 .forced =
        [1, 2] := by
    rfl
  have idle : (trigger.pool .forced).running = [] := by rfl
  refine ⟨by rfl, ?_, (apart _).1 (Or.inl (by rfl)), ((apart _).2 (by rfl)).2, ?_⟩
  · refine (starts 1 (by simp [waiting]) ?_).mpr ?_
    · exact idle ▸ List.not_mem_nil
    · exact idle ▸ Nat.lt_of_lt_of_le Nat.zero_lt_one (Nat.le_max_right _ _)
  · have calm := alike Gate.neededAction .default crowdedSizes calmMoments .forced rfl (by rfl)
    exact calm.symm.trans (by rfl)

end Crowd

end Trigger

end UnattendedRefresh
