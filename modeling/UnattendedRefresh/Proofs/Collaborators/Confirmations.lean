import UnattendedRefresh.Collaborators.SiteManagement
import UnattendedRefresh.Proofs.Dispatch.Conclusions

/-!
# What counts as a refresh done

An order is judged twice by the response to it: the journal calls it completed for a
success, and the job calls it done for whatever is no rejection. Between the two lie
the responses that are neither, such as a redirect that nobody follows: there the job
reports a refresh as done that the journal reports as failed.
-/

namespace UnattendedRefresh

open Procedure

namespace Collaborators

namespace Reception

/-- Neither a success nor a rejection. -/
def isUnsettled (reception : Reception) : Bool :=
  ! reception.isSuccess && ! reception.isRejection

variable {reception : Reception}

theorem isRejection_eq_false_iff :
    reception.isRejection = false ↔
      reception.isSuccess = true ∨ reception.isUnsettled = true := by
  simp only [isUnsettled, isSuccess, isRejection, Bool.and_eq_true, Bool.not_eq_true',
    Bool.and_eq_false_iff, decide_eq_true_eq, decide_eq_false_iff_not]
  omega

theorem not_isSuccess_of_isUnsettled (unsettled : reception.isUnsettled = true) :
    reception.isSuccess = false := by
  simpa using (Bool.and_eq_true_iff.mp unsettled).1

end Reception

def completedNote : Journal.Entry := Journal.note .debug "Request completed"

def failedNote : Journal.Entry := Journal.note .warn "Request failed"

namespace SiteManagement

/-- The order was sent, and this is the response to it. -/
def Arrived (transport : Transport) (base : String) (order : RefreshOrder)
    (reception : Reception) : Prop :=
  ∃ request, request? base order = some request ∧ request.canBeSent = true ∧
    transport request = some reception

/-- What a job is told of its order. -/
def answer (transport : Transport) (base : String) (order : RefreshOrder) :
    Except Failure Unit :=
  (refresh transport base order).result.mapError message

variable {transport : Transport} {base : String} {order : RefreshOrder}
  {reception : Reception}

/-- There is only one response to an order. -/
theorem Arrived.exists_iff (arrived : Arrived transport base order reception)
    {property : Reception → Prop} :
    (∃ other, Arrived transport base order other ∧ property other) ↔ property reception := by
  constructor
  · obtain ⟨request, built, -, received⟩ := arrived
    rintro ⟨other, ⟨same, rebuilt, -, returned⟩, fits⟩
    obtain rfl := Option.some.inj (built.symm.trans rebuilt)
    obtain rfl := Option.some.inj (received.symm.trans returned)
    exact fits
  · exact fun fits => ⟨reception, arrived, fits⟩

/-- With a response the client goes by the rejections and the journal by the successes. -/
theorem Arrived.exchange (arrived : Arrived transport base order reception) :
    (refresh transport base order).result = (accepted (some reception)).map (fun _ => ()) ∧
      (refresh transport base order).entries =
        [Journal.note .trace "Starting request", endNote (some reception)] := by
  obtain ⟨request, built, sendable, received⟩ := arrived
  simp [refresh, send, built, sendable, received]

/-- Without a response nothing was done, and the journal tells of no end. -/
theorem exchange_of_unanswered
    (unanswered : ¬ ∃ reception, Arrived transport base order reception) :
    (refresh transport base order).result = .error .unanswered ∧
      completedNote ∉ (refresh transport base order).entries ∧
        failedNote ∉ (refresh transport base order).entries := by
  have errored : completedNote ∉ [Journal.note .trace "Starting request", endNote none] ∧
      failedNote ∉ [Journal.note .trace "Starting request", endNote none] := by decide
  unfold refresh
  cases built : request? base order with
  | none => exact ⟨rfl, by simp [send], by simp [send]⟩
  | some request =>
      cases sendable : request.canBeSent with
      | false => simpa [send, sendable, accepted, Except.map] using errored
      | true =>
          cases received : transport request with
          | none => simpa [send, sendable, received, accepted, Except.map] using errored
          | some reception =>
              exact absurd ⟨reception, request, built, sendable, received⟩ unanswered

theorem not_exists_of_unanswered
    (unanswered : ¬ ∃ reception, Arrived transport base order reception)
    {property : Reception → Prop} :
    ¬ ∃ reception, Arrived transport base order reception ∧ property reception :=
  fun ⟨reception, arrived, _⟩ => unanswered ⟨reception, arrived⟩

theorem refresh_ok_iff :
    (refresh transport base order).result = .ok () ↔
      ∃ reception, Arrived transport base order reception ∧ reception.isRejection = false := by
  by_cases answered : ∃ reception, Arrived transport base order reception
  · obtain ⟨reception, arrived⟩ := answered
    rw [arrived.exchange.1, arrived.exists_iff]
    cases rejection : reception.isRejection <;> simp [accepted, rejection, Except.map]
  · rw [(exchange_of_unanswered answered).1]
    simp [not_exists_of_unanswered answered]

theorem completed_iff :
    completedNote ∈ (refresh transport base order).entries ↔
      ∃ reception, Arrived transport base order reception ∧ reception.isSuccess = true := by
  by_cases answered : ∃ reception, Arrived transport base order reception
  · obtain ⟨reception, arrived⟩ := answered
    rw [arrived.exchange.2, arrived.exists_iff]
    cases success : reception.isSuccess <;>
      simp [endNote, success, completedNote, Journal.note]
  · simp [(exchange_of_unanswered answered).2.1, not_exists_of_unanswered answered]

theorem failed_iff :
    failedNote ∈ (refresh transport base order).entries ↔
      ∃ reception, Arrived transport base order reception ∧ reception.isSuccess = false := by
  by_cases answered : ∃ reception, Arrived transport base order reception
  · obtain ⟨reception, arrived⟩ := answered
    rw [arrived.exchange.2, arrived.exists_iff]
    cases success : reception.isSuccess <;> simp [endNote, success, failedNote, Journal.note]
  · simp [(exchange_of_unanswered answered).2.2, not_exists_of_unanswered answered]

/-- Client and journal judge alike unless the response settles nothing. -/
theorem verdicts_agree_iff :
    ((refresh transport base order).result = .ok () ↔
        completedNote ∈ (refresh transport base order).entries) ↔
      ¬ ∃ reception, Arrived transport base order reception ∧ reception.isUnsettled = true := by
  rw [refresh_ok_iff, completed_iff]
  by_cases answered : ∃ reception, Arrived transport base order reception
  · obtain ⟨reception, arrived⟩ := answered
    rw [arrived.exists_iff, arrived.exists_iff, arrived.exists_iff,
      Reception.isRejection_eq_false_iff]
    cases unsettled : reception.isUnsettled with
    | true => simp [Reception.not_isSuccess_of_isUnsettled unsettled]
    | false => simp
  · simp [not_exists_of_unanswered answered]

theorem answer_ok_iff :
    answer transport base order = .ok () ↔
      ∃ reception, Arrived transport base order reception ∧ reception.isRejection = false := by
  rw [← refresh_ok_iff, answer]
  cases (refresh transport base order).result with
  | error => exact ⟨nofun, nofun⟩
  | ok => exact ⟨fun _ => rfl, fun _ => rfl⟩

section Dispatched

variable {gate : Gate} {user : User} {force : Bool} {settings : Settings}
  {replies : List Reply} {outcome : Except DispatchFault DispatchOutcome}

/-- A refresh is reported as dispatched if its order was answered well, and only then. -/
theorem dispatched_iff
    (course : Course (Dispatch.refreshUser gate user force settings) replies (.done outcome)) :
    (∃ refreshed excluded, outcome = .ok (.dispatched refreshed excluded)) ↔
      ∃ order, ⟨.refresh order, .ok ()⟩ ∈ replies := by
  cases Dispatch.refreshUser_to_done course with
  | dispatched => simp
  | _ => simp

/-- What a refresh that was asked for comes to: the job holds it for done, and reports its
sites as dispatched, exactly if a response arrived that is no rejection; the journal holds
it for completed exactly if the response is a success. The two agree unless the response
settles nothing, and then the job holds for done what the journal calls failed. -/
theorem done_unless_rejected (transport : Transport) (base : String) :
    (∀ order,
      ((refresh transport base order).result = .ok () ↔
        ∃ reception, Arrived transport base order reception ∧
          (reception.isSuccess = true ∨ reception.isUnsettled = true)) ∧
      (completedNote ∈ (refresh transport base order).entries ↔
        ∃ reception, Arrived transport base order reception ∧ reception.isSuccess = true) ∧
      (failedNote ∈ (refresh transport base order).entries ↔
        ∃ reception, Arrived transport base order reception ∧ reception.isSuccess = false) ∧
      (((refresh transport base order).result = .ok () ↔
          completedNote ∈ (refresh transport base order).entries) ↔
        ¬ ∃ reception, Arrived transport base order reception ∧
          reception.isUnsettled = true)) ∧
    ∀ gate user force settings replies outcome,
      Course (Dispatch.refreshUser gate user force settings) replies (.done outcome) →
      (∀ order given, ⟨.refresh order, given⟩ ∈ replies →
        given = answer transport base order) →
      ((∃ refreshed excluded, outcome = .ok (.dispatched refreshed excluded)) ↔
        ∃ order given reception, ⟨.refresh order, given⟩ ∈ replies ∧
          Arrived transport base order reception ∧
          (reception.isSuccess = true ∨ reception.isUnsettled = true)) := by
  refine ⟨fun order => ⟨?_, completed_iff, failed_iff, verdicts_agree_iff⟩, ?_⟩
  · simpa only [Reception.isRejection_eq_false_iff] using refresh_ok_iff
  · intro gate user force settings replies outcome course served
    rw [dispatched_iff course]
    constructor
    · rintro ⟨order, member⟩
      obtain ⟨reception, arrived, fine⟩ := answer_ok_iff.mp (served order _ member).symm
      exact ⟨order, _, reception, member, arrived,
        Reception.isRejection_eq_false_iff.mp fine⟩
    · rintro ⟨order, given, reception, member, arrived, fine⟩
      have done : given = .ok () :=
        (served order given member).trans
          (answer_ok_iff.mpr ⟨reception, arrived, Reception.isRejection_eq_false_iff.mpr fine⟩)
      exact ⟨order, done ▸ member⟩

end Dispatched

section Unmodified

/-- A service that answers everything with one status. -/
def always (status : Nat) : Transport := fun _ => some ⟨status, ""⟩

def loopback : String := "http://[::1]"

def reader : User := ⟨Identifier.ofNat 7, Identifier.ofNat 1, .active, false⟩

def readerSites : List UserSite :=
  [⟨Identifier.ofNat 10, reader.id, "bank", none, false, .proceed⟩]

def readerOrder : RefreshOrder := ⟨reader.id, readerSites, false, ⟨"token"⟩, .schedule⟩

/-- All that the refresh of the user is answered by a service with this status. -/
def readerReplies (status : Nat) : List Reply :=
  [⟨.sites reader.id, .ok readerSites⟩, ⟨.clock, ⟨0, 0⟩⟩,
    ⟨.credential reader.tenantId reader.id, .ok ⟨"token"⟩⟩,
    ⟨.refresh readerOrder, answer (always status) loopback readerOrder⟩]

theorem readerOrder_arrived (status : Nat) :
    Arrived (always status) loopback readerOrder ⟨status, ""⟩ := by
  have sendable : (request? loopback readerOrder).map OutgoingRequest.canBeSent = some true := by
    rfl
  obtain ⟨request, built, sendable⟩ := Option.map_eq_some_iff.mp sendable
  exact ⟨request, built, sendable, rfl⟩

theorem reader_dispatched {status : Nat}
    (done : answer (always status) loopback readerOrder = .ok ()) :
    Course (Dispatch.refreshUser Gate.neededAction reader false .default) (readerReplies status)
      (.done (.ok (.dispatched 1 0))) := by
  rw [readerReplies, done]
  exact .answer _ (.answer _ (.answer _ (.answer _ (.report (.here _)))))

theorem done_unless_rejected_created :
    Course (Dispatch.refreshUser Gate.neededAction reader false .default) (readerReplies 201)
        (.done (.ok (.dispatched 1 0))) ∧
      ∃ order given reception, ⟨.refresh order, given⟩ ∈ readerReplies 201 ∧
        Arrived (always 201) loopback order reception ∧
        (reception.isSuccess = true ∨ reception.isUnsettled = true) := by
  have done : answer (always 201) loopback readerOrder = .ok () :=
    answer_ok_iff.mpr ⟨_, readerOrder_arrived 201, by decide⟩
  have course := reader_dispatched done
  have served : ∀ order given, ⟨.refresh order, given⟩ ∈ readerReplies 201 →
      given = answer (always 201) loopback order := by
    intro order given member
    simp only [readerReplies, List.mem_cons, Reply.mk.injEq, reduceCtorEq, false_and,
      Question.refresh.injEq, List.not_mem_nil, or_false, false_or] at member
    obtain ⟨rfl, same⟩ := member
    exact eq_of_heq same
  exact ⟨course, ((done_unless_rejected (always 201) loopback).2 _ _ _ _ _ _ course served).mp
    ⟨1, 0, rfl⟩⟩

/-- Where the service tells that nothing was modified, the refresh is reported as done. -/
theorem unmodified_dispatched :
    Arrived (always 304) loopback readerOrder ⟨304, ""⟩ ∧
      ¬ ((refresh (always 304) loopback readerOrder).result = .ok () ↔
        ∃ reception, Arrived (always 304) loopback readerOrder reception ∧
          reception.isSuccess = true) ∧
      failedNote ∈ (refresh (always 304) loopback readerOrder).entries ∧
      Course (Dispatch.refreshUser Gate.neededAction reader false .default) (readerReplies 304)
        (.done (.ok (.dispatched 1 0))) := by
  have arrived := readerOrder_arrived 304
  refine ⟨arrived, ?_, failed_iff.mpr ⟨_, arrived, by decide⟩,
    reader_dispatched (answer_ok_iff.mpr ⟨_, arrived, by decide⟩)⟩
  rw [refresh_ok_iff, arrived.exists_iff, arrived.exists_iff]
  decide

end Unmodified

end SiteManagement

end Collaborators

end UnattendedRefresh
