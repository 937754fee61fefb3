import Mathlib.Data.ENat.Lattice
import UnattendedRefresh.Proofs.Services.Honesty

/-!
# Collecting the services in any order

A shutdown waits for one service after another, and all of them share its timeout. However
they are listed: who ends within the timeout is never found late because somebody else was
waited for before, and the shutdown takes as long as the last of them, or the timeout. Each
service that was started is collected once, by the wait that reports its end or by the
shutdown.
-/

namespace UnattendedRefresh.Services

/-! ### One wait -/

/-- How long something takes; without end if it never ends. -/
def lasting : Option Nat → ℕ∞
  | some span => span
  | none => ⊤

/-- A wait for what does not end together with the timeout is decided by when it ends. -/
theorem Awaits.decided {timeout elapsed later : Nat} {finish? : Option Nat} {isSeen : Bool}
    (awaits : Awaits timeout elapsed finish? isSeen later) (within : elapsed ≤ timeout)
    (apart : lasting finish? ≠ timeout) :
    isSeen = decide (lasting finish? < timeout) ∧
      (later : ℕ∞) = max (elapsed : ℕ∞) (min (timeout : ℕ∞) (lasting finish?)) := by
  have before (finish : Nat) (early : finish ≤ timeout) (same : finish? = some finish) :
      lasting finish? < timeout := by
    subst same
    exact lt_of_le_of_ne (Nat.cast_le.mpr early) apart
  cases awaits with
  | @past finish isOver =>
      have early := before finish (isOver.trans within) rfl
      refine ⟨(decide_eq_true early).symm, ?_⟩
      rw [min_eq_right early.le]
      exact (max_eq_left (Nat.cast_le.mpr isOver)).symm
  | @inTime _ late within =>
      have early := before later within rfl
      refine ⟨(decide_eq_true early).symm, ?_⟩
      rw [min_eq_right early.le]
      exact (max_eq_right (Nat.cast_le.mpr late.le)).symm
  | missed late =>
      have after : (timeout : ℕ∞) ≤ lasting finish? := by
        cases finish? with
        | none => exact le_top
        | some finish => exact Nat.cast_le.mpr (late finish rfl)
      refine ⟨(decide_eq_false (not_lt.mpr after)).symm, ?_⟩
      rw [min_eq_left after, max_eq_right within, max_eq_right (Nat.cast_le.mpr within)]

/-! ### All waits of a shutdown -/

/-- How long after a moment the service ends that is asked to stop at that moment. -/
def Spawned.endsAfter (spawned : Spawned) (now : Nat) : ℕ∞ :=
  if spawned.service.endsBy (some (now - spawned.startedAt)) then 0
  else lasting spawned.service.stop.span

theorem Spawned.lasting_finish (spawned : Spawned) (now : Nat) (isSeen : Bool) :
    lasting (Fate.finish? ⟨spawned.service, spawned.way now, isSeen⟩) = spawned.endsAfter now := by
  unfold way endsAfter
  split <;> simp [Fate.finish?, lasting]

/-- How long after a moment the last of the services ends. -/
noncomputable def latest (now : Nat) (services : List Spawned) : ℕ∞ :=
  (services.map (·.endsAfter now)).foldr max 0

theorem latest_perm {services others : List Spawned} (same : services.Perm others) (now : Nat) :
    latest now services = latest now others :=
  (same.map _).foldr_eq 0

theorem latest_le_iff {services : List Spawned} {now : Nat} {bound : ℕ∞} :
    latest now services ≤ bound ↔ ∀ spawned ∈ services, spawned.endsAfter now ≤ bound := by
  induction services with
  | nil => simp [latest]
  | cons spawned services ih =>
      rw [List.forall_mem_cons, ← ih]
      exact max_le_iff

namespace Supervisor

section Verdict

variable {services order : List Spawned} {start now timeout elapsed : Nat}

/-- By induction on the services, with the time that has passed as the invariant: it is the
timeout or the end of the last service so far, whichever comes first. -/
theorem waitForAll_decided (fresh : ∀ spawned ∈ services, spawned.IsFresh start)
    (begun : start ≤ now) (within : elapsed ≤ timeout)
    (apart : ∀ spawned ∈ services, spawned.endsAfter now ≠ timeout) :
    let waits := waitForAll timeout elapsed
      (services.map fun spawned => (spawned.name, spawned.finishAfter? timeout now))
    waits.1 = services.map (fun spawned =>
        (spawned.name, decide (spawned.endsAfter now < (timeout : ℕ∞)))) ∧
      (waits.2 : ℕ∞) = max (elapsed : ℕ∞) (min (timeout : ℕ∞) (latest now services)) := by
  intro waits
  induction services generalizing elapsed with
  | nil => exact ⟨rfl, by simp [waits, waitForAll, latest]⟩
  | cons spawned services ih =>
      obtain ⟨own, others⟩ := List.forall_mem_cons.mp fresh
      obtain ⟨ownApart, othersApart⟩ := List.forall_mem_cons.mp apart
      have waited := waitFor_fate own begun within true
      obtain ⟨seen, between⟩ := waited.decided within
        (by rwa [spawned.lasting_finish now true])
      rw [spawned.lasting_finish now true] at seen between
      obtain ⟨verdicts, later⟩ := ih others (waited.le_timeout within) othersApart
      constructor
      · simp only [waits, List.map_cons, waitForAll, verdicts, ← seen]
      · calc (waits.2 : ℕ∞)
            = max (max (elapsed : ℕ∞) (min (timeout : ℕ∞) (spawned.endsAfter now)))
                (min (timeout : ℕ∞) (latest now services)) := by
              rw [← between, ← later]
              rfl
          _ = max (elapsed : ℕ∞)
                (min (timeout : ℕ∞) (max (spawned.endsAfter now) (latest now services))) := by
              rw [max_assoc, ← min_max_distrib_left]

/-- The services that end only after the timeout. -/
def late (timeout now : Nat) (services : List Spawned) : List Spawned :=
  services.filter (timeout < ·.endsAfter now)

theorem late_eq_nil_iff : late timeout now services = [] ↔ latest now services ≤ timeout := by
  simp [late, latest_le_iff, List.filter_eq_nil_iff]

theorem late_perm (same : services.Perm order) (timeout now : Nat) :
    (late timeout now services).Perm (late timeout now order) :=
  same.filter _

/-- What a shutdown answers: how long it has taken, or who has not ended in time. -/
def report (supervisor : Supervisor) (timeout : Duration) : Except (List String) Nat :=
  match supervisor.shutdown timeout with
  | (after, []) => .ok (after.now - supervisor.now)
  | (_, pending) => .error pending

theorem shutdown_now (supervisor : Supervisor) (timeout : Duration) :
    (supervisor.shutdown timeout).1.now = supervisor.now +
      (waitForAll timeout.nanoseconds 0 (supervisor.running.map fun spawned =>
        (spawned.name, spawned.finishAfter? timeout.nanoseconds supervisor.now))).2 := by
  by_cases heard : timeout.nanoseconds = 0 <;>
    simp [shutdown, heard, finishes, settle, write, Spawned.finishAfter?, Spawned.stopping,
      Function.comp_def, Spawned.ask]

/-- In whichever order the services are listed. -/
theorem shutdown_decided {supervisor : Supervisor} {timeout : Duration}
    (fresh : ∀ spawned ∈ supervisor.running, spawned.IsFresh start)
    (begun : start ≤ supervisor.now)
    (apart : ∀ spawned ∈ supervisor.running,
      spawned.endsAfter supervisor.now ≠ timeout.nanoseconds) :
    (supervisor.shutdown timeout).2 =
        (late timeout.nanoseconds supervisor.now supervisor.running).map (·.name) ∧
      ∃ elapsed, (supervisor.shutdown timeout).1.now = supervisor.now + elapsed ∧
        (elapsed : ℕ∞) =
          min (timeout.nanoseconds : ℕ∞) (latest supervisor.now supervisor.running) := by
  obtain ⟨verdicts, elapsed⟩ :=
    waitForAll_decided fresh begun (Nat.zero_le timeout.nanoseconds) apart
  constructor
  · rw [shutdown_snd, verdicts, late, List.filter_map, List.map_map]
    have missed : ∀ spawned ∈ supervisor.running,
        (! decide (spawned.endsAfter supervisor.now < timeout.nanoseconds)) =
          decide (timeout.nanoseconds < spawned.endsAfter supervisor.now) := by
      intro spawned member
      rw [← decide_not, decide_eq_decide, not_lt]
      exact ⟨fun after => lt_of_le_of_ne after (apart spawned member).symm, le_of_lt⟩
    exact congrArg _ (List.filter_congr missed)
  · exact ⟨_, shutdown_now supervisor timeout, by simpa using elapsed⟩

end Verdict

/-! ### Who collects whom -/

section Collecting

variable {supervisor after later : Supervisor} {names others : List String} {start : Nat}

/-- Services are no longer waited for, one after another; the others are left as they are. -/
structure Collects (supervisor : Supervisor) (names : List String) (after : Supervisor) :
    Prop where
  begun : supervisor.now ≤ after.now
  left : ∀ spawned ∈ after.running, spawned ∈ supervisor.running
  dismissed : after.dismissed.map (·.name) = supervisor.dismissed.map (·.name) ++ names
  once : (names ++ after.running.map (·.name)).Perm (supervisor.running.map (·.name))

theorem Collects.trans (first : supervisor.Collects names after)
    (second : after.Collects others later) : supervisor.Collects (names ++ others) later where
  begun := first.begun.trans second.begun
  left spawned member := first.left spawned (second.left spawned member)
  dismissed := by rw [second.dismissed, first.dismissed, List.append_assoc]
  once := by
    rw [List.append_assoc]
    exact (second.once.append_left names).trans first.once

/-- Nobody is collected while the services are only listed anew or time goes on. -/
theorem Collects.of_same (begun : supervisor.now ≤ after.now)
    (listed : supervisor.running.Perm after.running)
    (dismissed : after.dismissed.map (·.name) = supervisor.dismissed.map (·.name)) :
    supervisor.Collects [] after where
  begun := begun
  left _ member := listed.mem_iff.mpr member
  dismissed := by rw [dismissed, List.append_nil]
  once := by
    rw [List.nil_append]
    exact listed.symm.map (·.name)

theorem settle_dismissed (supervisor : Supervisor) :
    supervisor.settle.dismissed.map (·.name) = supervisor.dismissed.map (·.name) := by
  simp [settle, Function.comp_def]

theorem passTo_collects (fresh : ∀ spawned ∈ supervisor.running, spawned.IsFresh start)
    {moment : Nat} (isSettled : Bool) (onward : supervisor.now ≤ moment) :
    supervisor.Collects [] (supervisor.passTo moment isSettled) :=
  .of_same onward (.of_eq (settle_fresh fresh).symm) (settle_dismissed supervisor)

/-- The name of the service that a wait reports. -/
def Watch.reported : Watch → List String
  | ended name _ => [name]
  | _ => []

theorem see_collects {spawned : Spawned} (exit : Exit)
    (distinct : (supervisor.running.map (·.name)).Nodup) (member : spawned ∈ supervisor.running) :
    supervisor.Collects (supervisor.see spawned exit).2.reported
      (supervisor.see spawned exit).1 := by
  have seen : (supervisor.see spawned exit).1.now = supervisor.now ∧
      (supervisor.see spawned exit).1.running =
        supervisor.running.filter (·.name ≠ spawned.name) ∧
      (supervisor.see spawned exit).1.dismissed = supervisor.dismissed ++ [spawned] := by
    unfold see
    split <;> exact ⟨rfl, rfl, rfl⟩
  obtain ⟨now_eq, running_eq, dismissed_eq⟩ := seen
  constructor
  · exact now_eq.ge
  · rw [running_eq]
    exact fun other among => List.mem_of_mem_filter among
  · rw [dismissed_eq, List.map_append]
    rfl
  · rw [running_eq]
    exact ((perm_of_distinct distinct member).map (·.name)).symm

/-- A wait that is broken off collects nobody, one that comes to its end the service that it
reports. -/
theorem watch_collects (fresh : ∀ spawned ∈ supervisor.running, spawned.IsFresh start)
    (distinct : (supervisor.running.map (·.name)).Nodup) (limit : Option Nat) :
    supervisor.Collects (supervisor.watch limit).2.reported (supervisor.watch limit).1 := by
  simp only [watch]
  split
  next => exact .of_same le_rfl (.refl _) rfl
  next =>
    generalize noted_eq : supervisor.write _ _ _ = noted
    have noting : supervisor.Collects [] noted := by
      rw [← noted_eq]
      exact .of_same le_rfl (.refl _) rfl
    have running_eq : noted.running = supervisor.running := by rw [← noted_eq]; rfl
    rw [← running_eq] at fresh distinct
    -- Whoever is seen is seen by a supervisor that has at most let time pass.
    have seeing {later : Supervisor} {moment : Nat} {spawned : Spawned} {exit : Exit}
        (waited : noted.Collects [] later) (same : later.running = noted.running)
        (ended : endedBy? moment later.running = some (spawned, exit)) :
        supervisor.Collects (later.see spawned exit).2.reported (later.see spawned exit).1 :=
      (noting.trans waited).trans
        (see_collects exit (same ▸ distinct) (endedBy?_eq_some ended).1)
    split
    next spawned exit ended =>
      obtain ⟨moment, -, ended⟩ := Option.bind_eq_some_iff.mp ended
      exact seeing (.of_same le_rfl (.refl _) rfl) rfl ended
    next =>
      split
      next moment first =>
        have passed := passTo_collects fresh true (Nat.le_max_left noted.now moment)
        split
        next spawned exit ended => exact seeing passed (settle_fresh fresh) ended
        next => exact noting.trans passed
      next =>
        split
        next => exact noting
        next limit _ _ =>
          exact noting.trans (passTo_collects fresh false (Nat.le_add_right _ limit))
        next => exact noting

/-- What may happen between the start of the services and their shutdown: the supervisor
waits for a service to end or breaks the wait off, any number of times, and time goes on. The
order in which the services are listed may be another one each time. -/
inductive Waits (start : Supervisor) : List Watch → Supervisor → Prop where
  | none : Waits start [] start
  | listed {seen : List Watch} {current : Supervisor} {order : List Spawned}
      (earlier : Waits start seen current) (same : current.running.Perm order) :
      Waits start seen { current with running := order }
  | passed {seen : List Watch} {current : Supervisor} {moment : Nat} (isSettled : Bool)
      (earlier : Waits start seen current) (onward : current.now ≤ moment) :
      Waits start seen (current.passTo moment isSettled)
  | watched {seen : List Watch} {current : Supervisor} (limit : Option Nat)
      (earlier : Waits start seen current) :
      Waits start (seen ++ [(current.watch limit).2]) (current.watch limit).1

theorem HasStarted.fresh_of_collects (started : supervisor.HasStarted)
    (collects : supervisor.Collects names after) :
    ∀ spawned ∈ after.running, spawned.IsFresh supervisor.now :=
  fun spawned member => started.fresh spawned (collects.left spawned member)

/-- By induction on what happens: the waits collect the services that they report. -/
theorem Waits.collects {seen : List Watch} (waits : supervisor.Waits seen after)
    (started : supervisor.HasStarted) :
    supervisor.Collects (seen.flatMap Watch.reported) after := by
  induction waits with
  | none => exact .of_same le_rfl (.refl _) rfl
  | @listed seen current order earlier same ih =>
      have relisted : current.Collects [] { current with running := order } :=
        .of_same le_rfl same rfl
      simpa using ih.trans relisted
  | passed isSettled earlier onward ih =>
      simpa using ih.trans (passTo_collects (started.fresh_of_collects ih) isSettled onward)
  | @watched seen current limit earlier ih =>
      have distinct : (current.running.map (·.name)).Nodup :=
        (ih.once.nodup_iff.mpr started.distinct).of_append_right
      rw [List.flatMap_append, List.flatMap_singleton]
      exact ih.trans (watch_collects (started.fresh_of_collects ih) distinct limit)

theorem shutdown_collects (supervisor : Supervisor) (timeout : Duration) :
    supervisor.Collects (supervisor.running.map (·.name)) (supervisor.shutdown timeout).1 ∧
      (supervisor.shutdown timeout).1.running = [] := by
  have gone : (supervisor.shutdown timeout).1.running = [] := rfl
  refine ⟨⟨?_, by simp [gone], ?_, by simp [gone]⟩, gone⟩
  · rw [shutdown_now]
    exact Nat.le_add_right _ _
  · by_cases heard : timeout.nanoseconds = 0 <;>
      simp [shutdown, heard, settle, write, Spawned.ask, Function.comp_def]

/-- What a shutdown of these services answers and how long it takes, whatever their order. -/
structure Concludes (services : List Spawned) (timeout now : Nat)
    (report : Except (List String) Nat) (elapsed : Nat) : Prop where
  inTime : late timeout now services = [] →
    report = .ok elapsed ∧ (elapsed : ℕ∞) = latest now services
  tooLate : late timeout now services ≠ [] →
    ∃ pending, report = .error pending ∧
      pending.Perm ((late timeout now services).map (·.name))
  duration : (elapsed : ℕ∞) = min (timeout : ℕ∞) (latest now services)

theorem report_of_shutdown {timeout : Duration} {elapsed : Nat}
    (time : (supervisor.shutdown timeout).1.now = supervisor.now + elapsed) :
    supervisor.report timeout =
      if (supervisor.shutdown timeout).2 = [] then .ok elapsed
      else .error (supervisor.shutdown timeout).2 := by
  unfold report
  split
  next closed ended =>
    have took : closed.now = supervisor.now + elapsed := by rwa [ended] at time
    simp [ended, took]
  next closed pending somebody ended =>
    rw [ended]
    exact (if_neg fun nobody => somebody (by simp_all)).symm

/-- Whoever is listed in whichever order, a shutdown finds late who ends after the timeout. -/
theorem shutdown_concludes {services : List Spawned} {timeout : Duration}
    (fresh : ∀ spawned ∈ supervisor.running, spawned.IsFresh start)
    (begun : start ≤ supervisor.now) (listed : services.Perm supervisor.running)
    (apart : ∀ spawned ∈ services,
      spawned.endsAfter supervisor.now ≠ timeout.nanoseconds) :
    ∃ elapsed, (supervisor.shutdown timeout).1.now = supervisor.now + elapsed ∧
      Concludes services timeout.nanoseconds supervisor.now (supervisor.report timeout)
        elapsed := by
  obtain ⟨pending, elapsed, time, duration⟩ := shutdown_decided fresh begun
    fun spawned member => apart spawned (listed.mem_iff.mpr member)
  have sameLate := late_perm listed timeout.nanoseconds supervisor.now
  rw [← latest_perm listed] at duration
  refine ⟨elapsed, time, ?_, ?_, duration⟩
  · intro inTime
    rw [inTime] at sameLate
    rw [report_of_shutdown time, pending, sameLate.nil_eq.symm]
    exact ⟨rfl, duration.trans (min_eq_right (late_eq_nil_iff.mp inTime))⟩
  · intro tooLate
    refine ⟨_, ?_, (sameLate.map (·.name)).symm⟩
    rw [report_of_shutdown time, pending]
    refine if_neg fun nobody => tooLate ?_
    rw [List.map_eq_nil_iff.mp nobody] at sameLate
    exact sameLate.eq_nil

/-- For services that end at any time but that of the timeout: whatever was waited for before
a shutdown, and however the services are listed that are left, it answers who of them ends
after the timeout, or else when the last of them ends, and takes no longer than that or the
timeout. Every service is collected once, by the wait that reports it or by the shutdown, and
none by a wait that is broken off. -/
theorem shutdown_in_any_order {seen : List Watch} {order : List Spawned} {timeout : Duration}
    (idle : supervisor.running = []) (waits : supervisor.spawnAll.Waits seen after)
    (listed : after.running.Perm order)
    (apart : ∀ spawned ∈ after.running,
      spawned.endsAfter after.now ≠ timeout.nanoseconds) :
    let closing := { after with running := order }
    let closed := (closing.shutdown timeout).1
    let reported := seen.flatMap Watch.reported
    (∃ elapsed, closed.now = after.now + elapsed ∧
      Concludes after.running timeout.nanoseconds after.now (closing.report timeout) elapsed) ∧
    (∀ limit, after.Collects (after.watch limit).2.reported (after.watch limit).1) ∧
    supervisor.spawnAll.Collects reported after ∧
    after.Collects (order.map (·.name)) closed ∧ closed.running = [] ∧
    (reported ++ order.map (·.name)).Perm supervisor.registered.keys ∧
    (reported ++ order.map (·.name)).Nodup := by
  intro closing closed reported
  have started := spawnAll_hasStarted idle
  have collects := waits.collects started
  have fresh := started.fresh_of_collects collects
  have relisted : after.Collects [] closing := .of_same le_rfl listed rfl
  obtain ⟨closes, gone⟩ := shutdown_collects closing timeout
  have allOnce := (collects.trans (relisted.trans closes)).once
  rw [gone, List.map_nil, List.append_nil, List.nil_append] at allOnce
  refine ⟨?_, fun limit => watch_collects fresh ?_ limit, collects, relisted.trans closes, gone,
    ?_, allOnce.nodup_iff.mpr started.distinct⟩
  · exact shutdown_concludes (fun spawned member => fresh spawned (listed.mem_iff.mpr member))
      collects.begun listed apart
  · exact (collects.once.nodup_iff.mpr started.distinct).of_append_right
  · refine allOnce.trans (.of_eq ?_)
    rw [spawnAll_running idle, List.map_map]
    rfl

end Collecting

section Three

/-- A service that works for so long, if its work ends, and stops in so long, if it stops. -/
private def plain (name : String) (run stop : Option Nat) (ending : Ending) : Service :=
  ⟨name, .silent run ending, .silent stop .completed, .silent stop .completed, []⟩

/-- One service breaks off after two milliseconds, one stops within one, one never stops. -/
private def three : Supervisor :=
  ((create.register "a" (plain "a" (some 2000000) none .crashed)).register "b"
    (plain "b" none (some 1000000) .completed)).register "c" (plain "c" none none .completed)

/-- The supervisor after a wait that is broken off and one that sees the service break off. -/
private def afterwards : Supervisor :=
  ((three.spawnAll.watch (some 1000000)).1.watch none).1

private def listedAs (name : String) (stop : Option Nat) : Spawned :=
  ⟨name, plain name none stop .completed, 0, false, none⟩

private theorem endsAfter_listedAs (name : String) (stop : Option Nat) (now : Nat) :
    (listedAs name stop).endsAfter now = lasting stop :=
  rfl

theorem shutdown_in_any_order_three :
    three.spawnAll.Waits [.undisturbed, .ended "a" .crashed] afterwards ∧
      afterwards.running.map (·.name) = ["b", "c"] ∧
      ({ afterwards with running := afterwards.running.reverse } : Supervisor).report
        (Duration.ofMilliseconds 100) = .error ["c"] ∧
      ["a", "c", "b"].Perm three.registered.keys := by
  have waits : three.spawnAll.Waits [.undisturbed, .ended "a" .crashed] afterwards :=
    .watched none (.watched (some 1000000) .none)
  have left : afterwards.running = [listedAs "b" (some 1000000), listedAs "c" none] := rfl
  have timeout : ((Duration.ofMilliseconds 100).nanoseconds : ℕ∞) = (100000000 : Nat) := rfl
  have soon : lasting (some 1000000) < (100000000 : Nat) := Nat.cast_lt.mpr (by decide)
  have apart : ∀ spawned ∈ afterwards.running, spawned.endsAfter afterwards.now ≠
      (Duration.ofMilliseconds 100).nanoseconds := by
    simp only [left, timeout, List.forall_mem_cons, endsAfter_listedAs]
    exact ⟨soon.ne, ENat.top_ne_natCast _, by simp⟩
  have late : late (Duration.ofMilliseconds 100).nanoseconds afterwards.now afterwards.running =
      [listedAs "c" none] := by
    have never : ((100000000 : Nat) : ℕ∞) < lasting none := ENat.natCast_lt_top _
    simp [late, left, timeout, endsAfter_listedAs, soon.not_gt, never,
      -Nat.cast_ofNat]
  obtain ⟨⟨elapsed, -, -, tooLate, -⟩, -, -, -, -, once, -⟩ :=
    shutdown_in_any_order rfl waits (List.reverse_perm _).symm apart
  obtain ⟨pending, report, names⟩ := tooLate (by simp [late])
  rw [late] at names
  refine ⟨waits, congrArg (·.map (·.name)) left, ?_, once⟩
  rw [report, List.perm_singleton.mp names]
  rfl

end Three

end Supervisor

end UnattendedRefresh.Services
