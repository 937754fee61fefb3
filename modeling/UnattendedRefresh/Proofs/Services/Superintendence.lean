import UnattendedRefresh.Application
import UnattendedRefresh.Proofs.Services.Closings

/-!
# The supervisor closes a run in a possible way

From the start of the services to the drained pools: what the supervisor decides where
several things fall on the same moment is one of the ways in which they may turn out.
-/

namespace UnattendedRefresh.Services

namespace Service

variable {service : Service} {stop : Nat}

theorem endsBy_iff :
    service.endsBy (some stop) = true ↔ ∃ span ≤ stop, service.run.span = some span := by
  cases ends : service.run.span <;> simp [endsBy, ends]

theorem lt_of_not_endsBy {span : Nat} (asked : service.endsBy (some stop) = false)
    (ends : service.run.span = some span) : stop < span := by
  simpa [endsBy, ends] using asked

end Service

/-! ### Services that nobody has asked to stop -/

namespace Spawned

/-- The service was started at a moment and has not been asked to stop. -/
structure IsFresh (spawned : Spawned) (start : Nat) : Prop where
  startedAt_eq : spawned.startedAt = start
  unasked : spawned.isAsked = false
  stopAt_eq : spawned.stopAt = none

variable {spawned : Spawned} {start now : Nat}

theorem IsFresh.exit?_eq (fresh : spawned.IsFresh start) :
    spawned.exit? = spawned.service.run.span.map fun span =>
      (start + span, Exit.ofRun spawned.service.run.ending) := by
  cases span : spawned.service.run.span <;>
    simp [Spawned.exit?, Service.exit?, Service.endsBy, fresh.startedAt_eq, fresh.stopAt_eq, span]

theorem IsFresh.learn_eq (fresh : spawned.IsFresh start) : spawned.learn now = spawned := by
  simp [learn, fresh.unasked]

@[simp]
theorem name_learn (spawned : Spawned) (now : Nat) : (spawned.learn now).name = spawned.name := by
  unfold learn
  split <;> rfl

/-- The service after the supervisor has asked it to stop. It gets to know that unless
there is no time at all. -/
def stopping (spawned : Spawned) (timeout now : Nat) : Spawned :=
  if timeout = 0 then spawned.ask else spawned.ask.learn now

/-- How long after the request to stop the service ends, if ever. -/
def finishAfter? (spawned : Spawned) (timeout now : Nat) : Option Nat :=
  (spawned.stopping timeout now).exit?.map fun exit => exit.1 - now

/-- How the service fares when it is asked to stop. -/
def way (spawned : Spawned) (now : Nat) : Way :=
  if spawned.service.endsBy (some (now - spawned.startedAt)) then .own else .asked

theorem IsFresh.canArise (fresh : spawned.IsFresh start) (isSeen : Bool) :
    Fate.CanArise ⟨spawned.service, spawned.way now, isSeen⟩ (now - start) := by
  simp only [Fate.CanArise, way, fresh.startedAt_eq]
  cases asked : spawned.service.endsBy (some (now - start)) with
  | true => exact Service.endsBy_iff.mp asked
  | false => exact fun span ends => Nat.le_of_lt (Service.lt_of_not_endsBy asked ends)

theorem IsFresh.exit?_stopping (fresh : spawned.IsFresh start) {timeout : Nat}
    (heard : timeout ≠ 0) :
    (spawned.stopping timeout now).exit? =
      (spawned.service.exit? (some (now - start))).map fun (moment, exit) =>
        (start + moment, exit) := by
  simp [stopping, heard, Spawned.exit?, learn, ask, fresh.startedAt_eq, fresh.stopAt_eq]

theorem exit?_unheard (spawned : Spawned) (now : Nat) :
    (spawned.stopping 0 now).exit? = spawned.exit? := by
  simp [stopping, Spawned.exit?, ask]

theorem IsFresh.finishAfter?_of_own (fresh : spawned.IsFresh start) (begun : start ≤ now)
    (timeout : Nat) (own : spawned.service.endsBy (some (now - start)) = true) :
    spawned.finishAfter? timeout now = some 0 := by
  obtain ⟨span, early, ends⟩ := Service.endsBy_iff.mp own
  have gone : start + span - now = 0 := by omega
  by_cases heard : timeout = 0
  · subst heard
    simp [finishAfter?, exit?_unheard, fresh.exit?_eq, ends, gone]
  · simp [finishAfter?, fresh.exit?_stopping heard, Service.exit?, own, ends, gone]

theorem IsFresh.finishAfter?_of_asked (fresh : spawned.IsFresh start) (begun : start ≤ now)
    {timeout : Nat} (heard : timeout ≠ 0)
    (asked : spawned.service.endsBy (some (now - start)) = false) :
    spawned.finishAfter? timeout now = spawned.service.stop.span := by
  cases ends : spawned.service.stop.span with
  | none => simp [finishAfter?, fresh.exit?_stopping heard, Service.exit?, asked, ends]
  | some span =>
      have after : start + (now - start + span) - now = span := by omega
      simp [finishAfter?, fresh.exit?_stopping heard, Service.exit?, asked, ends, after]

theorem IsFresh.pos_of_finishAfter? (fresh : spawned.IsFresh start)
    (asked : spawned.service.endsBy (some (now - start)) = false) {finish : Nat}
    (ends : spawned.finishAfter? 0 now = some finish) : 0 < finish := by
  simp only [finishAfter?, exit?_unheard, fresh.exit?_eq, Option.map_map,
    Option.map_eq_some_iff] at ends
  obtain ⟨span, ends, rfl⟩ := ends
  have later := Service.lt_of_not_endsBy asked ends
  simp only [Function.comp_apply]
  omega

end Spawned

namespace Supervisor

/-! ### Waiting for them -/

section Waiting

variable {spawned : Spawned} {start now timeout elapsed : Nat}

theorem waitFor_awaits (timeout elapsed : Nat) (finish? : Option Nat) :
    Awaits timeout elapsed finish? (waitFor timeout elapsed finish?).1
      (waitFor timeout elapsed finish?).2 := by
  cases finish? with
  | none => exact .missed (by simp)
  | some finish =>
      simp only [waitFor]
      split
      next isOver => exact .past isOver
      next later =>
        split
        next within => exact .inTime (Nat.not_le.mp later) (Nat.le_of_lt within)
        next late => exact .missed fun _ same => Option.some.inj same ▸ Nat.not_lt.mp late

/-- Waiting for a service that was asked to stop is waiting for its fate. Without any time
it never gets to know, and is waited for in vain either way. -/
theorem waitFor_fate (fresh : spawned.IsFresh start) (begun : start ≤ now)
    (within : elapsed ≤ timeout) (isSeen : Bool) :
    Awaits timeout elapsed (Fate.finish? ⟨spawned.service, spawned.way now, isSeen⟩)
      (waitFor timeout elapsed (spawned.finishAfter? timeout now)).1
      (waitFor timeout elapsed (spawned.finishAfter? timeout now)).2 := by
  simp only [Fate.finish?, Spawned.way, fresh.startedAt_eq]
  cases asked : spawned.service.endsBy (some (now - start)) with
  | true =>
      rw [fresh.finishAfter?_of_own begun timeout asked]
      exact waitFor_awaits timeout elapsed (some 0)
  | false =>
      by_cases heard : timeout = 0
      · subst heard
        obtain rfl := Nat.le_zero.mp within
        have missed : waitFor 0 0 (spawned.finishAfter? 0 now) = (false, max 0 0) := by
          cases ends : spawned.finishAfter? 0 now with
          | none => rfl
          | some finish =>
              have positive := fresh.pos_of_finishAfter? asked ends
              simp [waitFor, Nat.not_le.mpr positive]
        rw [missed]
        exact .missed fun finish _ => Nat.zero_le finish
      · rw [fresh.finishAfter?_of_asked begun heard asked]
        exact waitFor_awaits timeout elapsed _

/-- By induction on the services: together they fare in a possible way. -/
theorem exists_fates {services : List Spawned} (fresh : ∀ spawned ∈ services, spawned.IsFresh start)
    (begun : start ≤ now) (within : elapsed ≤ timeout) :
    let waits := waitForAll timeout elapsed
      (services.map fun spawned => (spawned.name, spawned.finishAfter? timeout now))
    ∃ fates : List Fate, fates.map (·.service) = services.map (·.service) ∧
      (∀ fate ∈ fates, fate.CanArise (now - start)) ∧
      fates.map (·.isSeen) = waits.1.map (·.2) ∧
      AwaitsAll timeout elapsed (fates.map fun fate => (fate.finish?, fate.isSeen)) waits.2 := by
  intro waits
  induction services generalizing elapsed with
  | nil => exact ⟨[], rfl, by simp, rfl, .nil⟩
  | cons spawned services ih =>
      have own := fresh spawned List.mem_cons_self
      have waited := waitFor_fate own begun within
        (waitFor timeout elapsed (spawned.finishAfter? timeout now)).1
      obtain ⟨fates, same, arise, seen, awaits⟩ :=
        ih (fun other member => fresh other (List.mem_cons_of_mem _ member))
          (waited.le_timeout within)
      refine ⟨⟨spawned.service, spawned.way now, _⟩ :: fates, by simp [same], ?_, ?_,
        .cons waited awaits⟩
      · exact List.forall_mem_cons.mpr ⟨own.canArise _, arise⟩
      · exact congrArg _ seen

theorem shutdown_snd (supervisor : Supervisor) (timeout : Duration) :
    (supervisor.shutdown timeout).2 =
      ((waitForAll timeout.nanoseconds 0 (supervisor.running.map fun spawned =>
        (spawned.name, spawned.finishAfter? timeout.nanoseconds supervisor.now))).1.filter
          (! ·.2)).map (·.1) := by
  by_cases heard : timeout.nanoseconds = 0 <;>
    simp [shutdown, heard, finishes, settle, write, Spawned.finishAfter?, Spawned.stopping,
      Function.comp_def, Spawned.ask]

end Waiting

/-! ### Waiting for a disturbance -/

section Watching

variable {supervisor after : Supervisor} {services : List Spawned} {moment : Nat}
  {spawned : Spawned} {exit : Exit}

theorem endedBy?_eq_some (ended : endedBy? moment services = some (spawned, exit)) :
    spawned ∈ services ∧ ∃ time ≤ moment, spawned.exit? = some (time, exit) := by
  induction services with
  | nil => simp [endedBy?] at ended
  | cons first services ih =>
      simp only [endedBy?] at ended
      split at ended
      next found =>
        obtain ⟨rfl, rfl⟩ := Prod.mk.inj (Option.some.inj ended)
        obtain ⟨⟨time, how⟩, ends, rfl⟩ := Option.map_eq_some_iff.mp found
        obtain ⟨ends, early⟩ := Option.filter_eq_some_iff.mp ends
        exact ⟨List.mem_cons_self, time, of_decide_eq_true early, ends⟩
      next =>
        obtain ⟨member, time⟩ := ih ended
        exact ⟨List.mem_cons_of_mem _ member, time⟩

theorem lt_of_endedBy?_eq_none (nobody : endedBy? moment services = none)
    (member : spawned ∈ services) {time : Nat} (ends : spawned.exit? = some (time, exit)) :
    moment < time := by
  induction services with
  | nil => simp at member
  | cons first services ih =>
      simp only [endedBy?] at nobody
      split at nobody
      next => simp at nobody
      next silent =>
        rcases List.mem_cons.mp member with rfl | member
        · simpa [Spawned.exitBy?, ends] using silent
        · exact ih nobody member

/-- The supervisor has just started its services, which have names of their own. -/
structure HasStarted (supervisor : Supervisor) : Prop where
  fresh : ∀ spawned ∈ supervisor.running, spawned.IsFresh supervisor.now
  distinct : (supervisor.running.map (·.name)).Nodup
  settled : supervisor.isSettled = true

/-- What a supervisor that has just started its services has waited for. -/
structure Caught (supervisor : Supervisor) (signals : List Nat) (after : Supervisor)
    (cause : Cause) : Prop where
  begun : supervisor.now ≤ after.now
  fresh : ∀ spawned ∈ after.running, spawned.IsFresh supervisor.now
  caused : Causes (supervisor.running.map (·.service)) signals cause
    (after.now - supervisor.now) (after.running.map (·.service))

/-- The services whose names differ from one of theirs are the others, as all differ. -/
theorem perm_of_distinct (distinct : (services.map (·.name)).Nodup) (member : spawned ∈ services) :
    services.Perm (spawned :: services.filter (·.name ≠ spawned.name)) := by
  induction services with
  | nil => simp at member
  | cons first services ih =>
      obtain ⟨apart, distinct⟩ := List.nodup_cons.mp distinct
      rcases List.mem_cons.mp member with rfl | member
      · have kept : services.filter (·.name ≠ spawned.name) = services := by
          refine List.filter_eq_self.mpr fun other among => ?_
          have different : other.name ≠ spawned.name := fun same =>
            apart (List.mem_map.mpr ⟨other, among, same⟩)
          simpa using different
        rw [List.filter_cons_of_neg (by simp), kept]
      · have different : first.name ≠ spawned.name := fun same =>
          apart (List.mem_map.mpr ⟨spawned, member, same.symm⟩)
        rw [List.filter_cons_of_pos (by simpa using different)]
        exact ((ih distinct member).cons first).trans (.swap ..)

theorem settle_fresh (fresh : ∀ spawned ∈ supervisor.running, spawned.IsFresh moment) :
    supervisor.settle.running = supervisor.running := by
  have same : ∀ spawned ∈ supervisor.running, spawned.learn supervisor.now = spawned :=
    fun spawned member => (fresh spawned member).learn_eq
  exact (List.map_congr_left same).trans (List.map_id' _)

def Watch.cause : Watch → Cause
  | idle => .idle
  | ended _ exit => .ended exit
  | undisturbed => .signal

/-- A service is seen to end. -/
theorem see_caught {signals : List Nat} {later : Supervisor} {span : Nat}
    (started : supervisor.HasStarted)
    (running_eq : later.running = supervisor.running) (now_eq : later.now = supervisor.now + span)
    (member : spawned ∈ supervisor.running) (ends : spawned.service.run.span = some span)
    (exit_eq : exit = Exit.ofRun spawned.service.run.ending)
    (first : Undisturbed (supervisor.running.map (·.service)) signals span) :
    Caught supervisor signals (later.see spawned exit).1 (later.see spawned exit).2.cause := by
  have seen : (later.see spawned exit).1.running =
      supervisor.running.filter (·.name ≠ spawned.name) := by
    unfold see
    split <;> simp [write, running_eq]
  have time : (later.see spawned exit).1.now = supervisor.now + span := by
    unfold see
    split <;> simp [write, now_eq]
  constructor
  · omega
  · rw [seen]
    exact fun other among => started.fresh other (List.mem_of_mem_filter among)
  · rw [seen, time, Nat.add_sub_cancel_left]
    subst exit_eq
    exact .ended ((perm_of_distinct started.distinct member).map (·.service)) ends first

/-- The signal comes first. -/
theorem signal_caught {limit : Nat}
    (started : supervisor.HasStarted)
    (somebody : supervisor.running ≠ []) (running_eq : after.running = supervisor.running)
    (now_eq : after.now = supervisor.now + limit)
    (working : ∀ spawned ∈ supervisor.running, ∀ span,
      spawned.service.run.span = some span → limit ≤ span) :
    Caught supervisor [limit] after .signal := by
  refine ⟨by omega, running_eq ▸ started.fresh, ?_⟩
  rw [running_eq, now_eq, Nat.add_sub_cancel_left]
  refine .signal (.refl _) (List.mem_singleton_self _) ⟨fun nobody => ?_, ?_, by simp⟩
  · exact absurd (List.map_eq_nil_iff.mp nobody) somebody
  · simpa using working

theorem firstEnd?_eq_some (first : firstEnd? services = some moment) :
    (∃ spawned ∈ services, ∃ exit, spawned.exit? = some (moment, exit)) ∧
      ∀ spawned ∈ services, ∀ time exit, spawned.exit? = some (time, exit) → moment ≤ time := by
  obtain ⟨member, least⟩ := List.min?_eq_some_iff.mp first
  constructor
  · obtain ⟨spawned, among, ends⟩ := List.mem_filterMap.mp member
    obtain ⟨⟨time, exit⟩, ends, same⟩ := Option.map_eq_some_iff.mp ends
    exact ⟨spawned, among, exit, same ▸ ends⟩
  · intro spawned among time exit ends
    exact least time (List.mem_filterMap.mpr ⟨spawned, among, by simp [ends]⟩)

theorem not_ends_of_firstEnd?_eq_none (nobody : firstEnd? services = none)
    (member : spawned ∈ services) : spawned.exit? = none := by
  have empty := List.filterMap_eq_nil_iff.mp (List.min?_eq_none_iff.mp nobody) spawned member
  simpa using empty

theorem HasStarted.exit?_eq_some_iff (started : supervisor.HasStarted)
    (member : spawned ∈ supervisor.running) {time : Nat} :
    spawned.exit? = some (time, exit) ↔
      ∃ span, spawned.service.run.span = some span ∧ supervisor.now + span = time ∧
        Exit.ofRun spawned.service.run.ending = exit := by
  simp [(started.fresh spawned member).exit?_eq, Option.map_eq_some_iff]

/-- If no signal comes, some service ends first. -/
theorem HasStarted.exists_firstEnd? (started : supervisor.HasStarted)
    (somebody : supervisor.running ≠ [])
    (eventful : Eventful (supervisor.running.map (·.service)) []) :
    ∃ moment, firstEnd? supervisor.running = some moment := by
  rcases eventful with comes | unserved | ⟨service, among, works⟩
  · exact absurd rfl comes
  · exact absurd (List.map_eq_nil_iff.mp unserved) somebody
  · obtain ⟨spawned, member, rfl⟩ := List.mem_map.mp among
    refine Option.ne_none_iff_exists'.mp fun nobody => works ?_
    have silent := not_ends_of_firstEnd?_eq_none nobody member
    rwa [(started.fresh spawned member).exit?_eq, Option.map_eq_none_iff] at silent

/-- A supervisor that wakes when the first service ends sees one end. -/
theorem wake_caught {signals : List Nat} {later : Supervisor}
    (started : supervisor.HasStarted)
    (first : firstEnd? supervisor.running = some moment)
    (quiet : ∀ signal ∈ signals, moment ≤ supervisor.now + signal)
    (running_eq : later.running = supervisor.running)
    (now_eq : later.now = max supervisor.now moment) :
    ∃ spawned exit, endedBy? later.now later.running = some (spawned, exit) ∧
      Caught supervisor signals (later.see spawned exit).1 (later.see spawned exit).2.cause := by
  obtain ⟨⟨one, among, how, ends⟩, least⟩ := firstEnd?_eq_some first
  obtain ⟨span, one_span, rfl, -⟩ := (started.exit?_eq_some_iff among).mp ends
  rw [Nat.max_eq_right (Nat.le_add_right _ _)] at now_eq
  have working : ∀ other ∈ supervisor.running, ∀ time,
      other.service.run.span = some time → span ≤ time := by
    intro other member time ends
    have := least other member _ _ ((started.exit?_eq_some_iff member).mpr
      ⟨time, ends, rfl, rfl⟩)
    omega
  rw [now_eq, running_eq]
  cases seen : endedBy? (supervisor.now + span) supervisor.running with
  | none =>
      exact absurd (lt_of_endedBy?_eq_none seen among ends) (Nat.lt_irrefl _)
  | some found =>
      obtain ⟨spawned, exit⟩ := found
      obtain ⟨member, time, early, ended⟩ := endedBy?_eq_some seen
      obtain ⟨own, own_span, rfl, rfl⟩ := (started.exit?_eq_some_iff member).mp ended
      obtain rfl : own = span := by
        have := working spawned member own own_span
        omega
      refine ⟨spawned, _, rfl, see_caught started running_eq now_eq member own_span rfl ?_⟩
      refine ⟨fun nobody => ?_, by simpa using working, fun signal comes => ?_⟩
      · exact absurd among (List.map_eq_nil_iff.mp nobody ▸ List.not_mem_nil)
      · have := quiet signal comes
        omega

theorem working_of_late {limit : Nat}
    (started : supervisor.HasStarted)
    (late : (firstEnd? supervisor.running).filter (· < supervisor.now + limit) = none) :
    ∀ spawned ∈ supervisor.running, ∀ span,
      spawned.service.run.span = some span → limit ≤ span := by
  intro spawned member span span_eq
  have ends := (started.exit?_eq_some_iff member).mpr ⟨span, span_eq, rfl, rfl⟩
  cases first : firstEnd? supervisor.running with
  | none => simp [not_ends_of_firstEnd?_eq_none first member] at ends
  | some moment =>
      have least := (firstEnd?_eq_some first).2 spawned member _ _ ends
      simp [first] at late
      omega

/-- Whatever ends the wait could have ended it. -/
theorem watch_caught {limit : Option Nat}
    (started : supervisor.HasStarted)
    (eventful : Eventful (supervisor.running.map (·.service)) limit.toList) :
    Caught supervisor limit.toList (supervisor.watch limit).1
      (supervisor.watch limit).2.cause := by
  by_cases nobody : supervisor.running = []
  · have idle : supervisor.watch limit = (supervisor, .idle) := by simp [watch, nobody]
    rw [idle]
    refine ⟨Nat.le_refl _, started.fresh, ?_⟩
    simp only [nobody, List.map_nil, Nat.sub_self]
    exact .idle rfl
  · simp only [watch, List.isEmpty_iff, nobody, if_false]
    generalize noted_eq : supervisor.write _ _ _ = noted
    have running_eq : noted.running = supervisor.running := by simp [← noted_eq, write]
    have now_eq : noted.now = supervisor.now := by simp [← noted_eq, write]
    have passed (time : Nat) (isSettled : Bool) :
        (noted.passTo time isSettled).running = supervisor.running := by
      rw [← running_eq]
      exact settle_fresh (running_eq ▸ started.fresh)
    have doneBy : noted.doneBy? = some supervisor.now := by
      simp [← noted_eq, doneBy?, write, started.settled]
    rw [doneBy, running_eq, now_eq]
    split
    next sp ex ended =>
      obtain ⟨member, time, early, ends⟩ := endedBy?_eq_some ended
      obtain ⟨span, span_eq, rfl, how⟩ := (started.exit?_eq_some_iff member).mp ends
      obtain rfl : span = 0 := by omega
      exact see_caught started running_eq (by simpa using now_eq) member span_eq how.symm
        ⟨fun _ => rfl, fun _ _ _ _ => Nat.zero_le _, fun _ _ => Nat.zero_le _⟩
    next =>
      split
      next moment first =>
        obtain ⟨first, early⟩ := Option.filter_eq_some_iff.mp first
        have quiet : ∀ signal ∈ limit.toList, moment ≤ supervisor.now + signal := by
          intro signal comes
          obtain rfl := Option.mem_toList.mp comes
          simpa using Nat.le_of_lt (of_decide_eq_true early)
        obtain ⟨sp, ex, seen, caught⟩ :=
          wake_caught started first quiet (passed (max supervisor.now moment) true) rfl
        rw [seen]
        exact caught
      next late =>
        cases limit with
        | none =>
            obtain ⟨moment, first⟩ := started.exists_firstEnd? nobody eventful
            simp [first] at late
        | some limit =>
            have working := working_of_late started late
            cases limit with
            | zero => exact signal_caught started nobody running_eq now_eq working
            | succ limit => exact signal_caught started nobody (passed _ _) rfl working

theorem Caught.congr {signals : List Nat} {cause : Cause} {later : Supervisor}
    (caught : Caught supervisor signals after cause) (running_eq : later.running = after.running)
    (now_eq : later.now = after.now) : Caught supervisor signals later cause := by
  obtain ⟨begun, fresh, caused⟩ := caught
  exact ⟨now_eq ▸ begun, running_eq ▸ fresh, by rw [now_eq, running_eq]; exact caused⟩

theorem exitNote_running (supervisor : Supervisor) (name : String) (exit : Exit) :
    (supervisor.exitNote name exit).running = supervisor.running := by
  cases exit <;> rfl

theorem exitNote_now (supervisor : Supervisor) (name : String) (exit : Exit) :
    (supervisor.exitNote name exit).now = supervisor.now := by
  cases exit <;> rfl

theorem untilDisturbed_caught {signal : Option (Signal × Nat)}
    (started : supervisor.HasStarted)
    (eventful : Eventful (supervisor.running.map (·.service)) (signal.map (·.2)).toList) :
    ∃ cause, Caught supervisor (signal.map (·.2)).toList
        (supervisor.untilDisturbed signal).1 cause ∧
      (supervisor.untilDisturbed signal).2 = cause.isWell := by
  have caught := watch_caught started eventful
  simp only [untilDisturbed]
  split
  next after watched =>
    rw [watched] at caught
    exact ⟨_, caught.congr (exitNote_running ..) (exitNote_now ..), rfl⟩
  next after name exit watched =>
    rw [watched] at caught
    exact ⟨_, caught.congr (exitNote_running ..) (exitNote_now ..), rfl⟩
  next after watched =>
    rw [watched] at caught
    cases signal with
    | none => exact ⟨_, caught, rfl⟩
    | some signal => exact ⟨_, caught.congr rfl rfl, rfl⟩

theorem superintend_snd (supervisor : Supervisor) (signal : Option (Signal × Nat))
    (timeout : Duration) :
    (supervisor.superintend signal timeout).2 =
      ((supervisor.untilDisturbed signal).2 &&
        ((supervisor.untilDisturbed signal).1.shutdown timeout).2.isEmpty) := by
  simp only [superintend]
  cases ((supervisor.untilDisturbed signal).1.shutdown timeout).2.isEmpty <;> simp

end Watching

end Supervisor

end UnattendedRefresh.Services
