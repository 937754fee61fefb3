import Mathlib.Data.List.Perm.Basic
import UnattendedRefresh.Services.Signals

/-!
# How a run may close

A run goes on until a signal comes or a service ends. The services that are left are asked
to stop and waited for, one after another and in any order, and then the pools drain. What
falls on the same moment may be seen in either order: a signal and the end of a service,
the end of a service and the request to stop, an end and the end of the timeout. A closing
is one way in which all of this may turn out.

Moments are nanoseconds since the services were started.
-/

namespace UnattendedRefresh.Services

/-! ### Waiting with a timeout -/

/-- A wait for what takes so long, if it ever ends, when some of the timeout has passed
already: whether the end is seen in time, and how much has passed then. An end at the very
end of the timeout may be seen or missed. -/
inductive Awaits (timeout elapsed : Nat) : Option Nat → Bool → Nat → Prop where
  | past {finish : Nat} (isOver : finish ≤ elapsed) :
      Awaits timeout elapsed (some finish) true elapsed
  | inTime {finish : Nat} (later : elapsed < finish) (within : finish ≤ timeout) :
      Awaits timeout elapsed (some finish) true finish
  | missed {finish? : Option Nat} (late : ∀ finish, finish? = some finish → timeout ≤ finish) :
      Awaits timeout elapsed finish? false (max elapsed timeout)

/-- Waits one after another, all within one timeout. -/
inductive AwaitsAll (timeout : Nat) : Nat → List (Option Nat × Bool) → Nat → Prop where
  | nil {elapsed : Nat} : AwaitsAll timeout elapsed [] elapsed
  | cons {elapsed between later : Nat} {finish? : Option Nat} {isSeen : Bool}
      {rest : List (Option Nat × Bool)} (first : Awaits timeout elapsed finish? isSeen between)
      (others : AwaitsAll timeout between rest later) :
      AwaitsAll timeout elapsed ((finish?, isSeen) :: rest) later

section Waiting

variable {timeout elapsed later : Nat} {finish? : Option Nat} {isSeen : Bool}

theorem Awaits.le_timeout (awaits : Awaits timeout elapsed finish? isSeen later)
    (within : elapsed ≤ timeout) : later ≤ timeout := by
  cases awaits with
  | past isOver => exact within
  | inTime later within => exact within
  | missed late => exact Nat.max_le.mpr ⟨within, Nat.le_refl timeout⟩

theorem Awaits.finish_le (awaits : Awaits timeout elapsed finish? true later)
    (within : elapsed ≤ timeout) : ∃ finish ≤ timeout, finish? = some finish := by
  cases awaits with
  | past isOver => exact ⟨_, Nat.le_trans isOver within, rfl⟩
  | inTime later within => exact ⟨_, within, rfl⟩

/-- By induction on the waits: the time that has passed never exceeds the timeout, so
whatever is seen to end ends within it. -/
theorem AwaitsAll.finish_le {waits : List (Option Nat × Bool)}
    (awaits : AwaitsAll timeout elapsed waits later) (within : elapsed ≤ timeout)
    (seen : (finish?, true) ∈ waits) : ∃ finish ≤ timeout, finish? = some finish := by
  induction awaits with
  | nil => simp at seen
  | cons first others ih =>
      rcases List.mem_cons.mp seen with same | seen
      · obtain ⟨rfl, rfl⟩ := Prod.mk.inj same
        exact first.finish_le within
      · exact ih (first.le_timeout within) seen

end Waiting

/-! ### Closings -/

/-- What ends the wait for a signal or for the end of a service. -/
inductive Cause where
  | idle
  | ended (exit : Exit)
  | signal

/-- How a service that was left came to its end. -/
inductive Way where
  /-- Its work ended before it knew that it was asked to stop. -/
  | own
  | asked
  /-- It was asked to stop before its work began. -/
  | unstarted

structure Fate where
  service : Service
  way : Way
  isSeen : Bool

structure Closing where
  cause : Cause
  /-- When the wait ended and the services were asked to stop. -/
  moment : Nat
  /-- The services that were left, in the order in which they are waited for. -/
  fates : List Fate
  isDrained : Bool

namespace Cause

def isWell : Cause → Bool
  | idle => false
  | ended exit => exit = .graceful
  | signal => true

end Cause

namespace Fate

def exit (fate : Fate) : Exit :=
  match fate.way with
  | .own => Exit.ofRun fate.service.run.ending
  | .asked => Exit.ofStop fate.service.stop.ending
  | .unstarted => Exit.ofStop fate.service.stopUnstarted.ending

/-- How long after the request to stop the service ends, if ever. -/
def finish? (fate : Fate) : Option Nat :=
  match fate.way with
  | .own => some 0
  | .asked => fate.service.stop.span
  | .unstarted => fate.service.stopUnstarted.span

/-- Whether the service can fare like this if it is asked to stop at a moment. -/
def CanArise (fate : Fate) (moment : Nat) : Prop :=
  match fate.way with
  | .own => ∃ span ≤ moment, fate.service.run.span = some span
  | .asked => ∀ span, fate.service.run.span = some span → moment ≤ span
  | .unstarted => moment = 0

end Fate

/-- No service ends and no signal comes before a moment. Without services there is nothing to
wait for. -/
structure Undisturbed (services : List Service) (signals : List Nat) (moment : Nat) : Prop where
  nobody : services = [] → moment = 0
  working : ∀ service ∈ services, ∀ span, service.run.span = some span → moment ≤ span
  quiet : ∀ signal ∈ signals, moment ≤ signal

/-- What can end the wait, when, and which services are left then. -/
inductive Causes (services : List Service) (signals : List Nat) :
    Cause → Nat → List Service → Prop where
  | idle (nobody : services = []) : Causes services signals .idle 0 []
  | ended {service : Service} {left : List Service} {moment : Nat}
      (others : services.Perm (service :: left)) (ends : service.run.span = some moment)
      (first : Undisturbed services signals moment) :
      Causes services signals (.ended (Exit.ofRun service.run.ending)) moment left
  | signal {left : List Service} {moment : Nat} (everyone : services.Perm left)
      (comes : moment ∈ signals) (first : Undisturbed services signals moment) :
      Causes services signals .signal moment left

namespace Closing

/-- Whether a run can close like this. -/
structure Possible (services : List Service) (signals : List Nat) (timeout : Nat)
    (drainedAfter : Option Nat) (closing : Closing) : Prop where
  caused : Causes services signals closing.cause closing.moment (closing.fates.map (·.service))
  arises : ∀ fate ∈ closing.fates, fate.CanArise closing.moment
  collected : ∃ elapsed,
    AwaitsAll timeout 0 (closing.fates.map fun fate => (fate.finish?, fate.isSeen)) elapsed
  drained : ∃ elapsed, Awaits timeout 0 drainedAfter closing.isDrained elapsed

/-- What the program reports. -/
def isSuccess (closing : Closing) : Bool :=
  closing.cause.isWell && closing.fates.all (·.isSeen) && closing.isDrained

/-- Everything was left to a signal, and ended within the timeout. -/
structure InTime (services : List Service) (signals : List Nat) (timeout : Nat)
    (drainedAfter : Option Nat) (closing : Closing) : Prop where
  everyone : services.Perm (closing.fates.map (·.service))
  signalled : closing.moment ∈ signals
  working : ∀ service ∈ services, ∀ span, service.run.span = some span → closing.moment ≤ span
  stopped : ∀ fate ∈ closing.fates, ∃ finish ≤ timeout, fate.finish? = some finish
  drained : ∃ finish ≤ timeout, drainedAfter = some finish

end Closing

/-- The wait comes to its end: by a signal, by the end of a service, or because there is
nothing to wait for. -/
def Eventful (services : List Service) (signals : List Nat) : Prop :=
  signals ≠ [] ∨ services = [] ∨ ∃ service ∈ services, service.run.span ≠ none

/-- Stopping succeeds for every service, and none ends at the very moment of a signal. -/
structure Orderly (services : List Service) (signals : List Nat) : Prop where
  stops : ∀ service ∈ services,
    service.stop.ending = .completed ∧ service.stopUnstarted.ending = .completed
  apart : ∀ service ∈ services, ∀ signal ∈ signals, service.run.span ≠ some signal

section Verdict

variable {services : List Service} {signals : List Nat} {timeout : Nat}
  {drainedAfter : Option Nat} {closing : Closing}

theorem Exit.ofRun_ne_graceful (ending : Ending) : Exit.ofRun ending ≠ .graceful := by
  cases ending <;> simp [Exit.ofRun]

/-- The wait ends well only by a signal. -/
theorem Causes.of_isWell {cause : Cause} {moment : Nat} {left : List Service}
    (caused : Causes services signals cause moment left) (well : cause.isWell = true) :
    services.Perm left ∧ moment ∈ signals ∧ Undisturbed services signals moment := by
  cases caused with
  | idle nobody => simp [Cause.isWell] at well
  | ended others ends first =>
      simp [Cause.isWell, Exit.ofRun_ne_graceful] at well
  | signal everyone comes first => exact ⟨everyone, comes, first⟩

theorem Closing.isSuccess_iff : closing.isSuccess = true ↔
    closing.cause.isWell = true ∧ (∀ fate ∈ closing.fates, fate.isSeen = true) ∧
      closing.isDrained = true := by
  simp [Closing.isSuccess, and_assoc]

/-- Success is reported only for a run that a signal ended, and whose services and pools
ended within the timeout. -/
theorem Closing.Possible.inTime (possible : closing.Possible services signals timeout drainedAfter)
    (success : closing.isSuccess = true) :
    closing.InTime services signals timeout drainedAfter := by
  obtain ⟨well, seen, isDrained⟩ := Closing.isSuccess_iff.mp success
  obtain ⟨everyone, comes, first⟩ := possible.caused.of_isWell well
  obtain ⟨elapsed, awaits⟩ := possible.collected
  obtain ⟨drainTime, drained⟩ := possible.drained
  refine ⟨everyone, comes, first.working, fun fate member => ?_, ?_⟩
  · exact awaits.finish_le (Nat.zero_le timeout)
      (List.mem_map.mpr ⟨fate, member, by rw [seen fate member]⟩)
  · rw [isDrained] at drained
    exact drained.finish_le (Nat.zero_le timeout)

/-- A service that is left to a signal ends by being stopped, and stopping succeeds. -/
theorem Closing.Possible.graceful
    (possible : closing.Possible services signals timeout drainedAfter)
    (orderly : Orderly services signals) (success : closing.isSuccess = true) :
    ∀ fate ∈ closing.fates, fate.exit = .graceful := by
  obtain ⟨everyone, signalled, working, -, -⟩ := possible.inTime success
  intro fate member
  have served : fate.service ∈ services :=
    everyone.mem_iff.mpr (List.mem_map_of_mem member)
  obtain ⟨stop, stopUnstarted⟩ := orderly.stops fate.service served
  have arises := possible.arises fate member
  cases way : fate.way with
  | own =>
      simp only [Fate.CanArise, way] at arises
      obtain ⟨span, early, ends⟩ := arises
      have same : span = closing.moment := Nat.le_antisymm early (working _ served span ends)
      exact absurd (same ▸ ends) (orderly.apart _ served _ signalled)
  | asked => simp [Fate.exit, way, stop, Exit.ofStop]
  | unstarted => simp [Fate.exit, way, stopUnstarted, Exit.ofStop]

end Verdict

end UnattendedRefresh.Services
