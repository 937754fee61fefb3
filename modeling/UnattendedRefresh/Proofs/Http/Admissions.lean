import UnattendedRefresh.Http.Router
import UnattendedRefresh.Proofs.Identifier.Spellings
import UnattendedRefresh.Proofs.Trigger.Separation

/-!
# What the answer to a trigger request tells

A request for a pass or for a forced refresh is answered as soon as it is queued or
refused. The answer tells which of the two happened and why: what is asked for may be
unreadable, the pool may be closed, or it may be full. Only an answer that says accepted
comes with a job in the pool, and nothing else changes the trigger.
-/

namespace UnattendedRefresh

namespace MinuteOfDay

/-- The minute as the clock shows it, hours before minutes. -/
def face (minute : MinuteOfDay) : String :=
  String.ofList
    [Nat.digitChar (minute.index / 600), Nat.digitChar (minute.index / 60 % 10), ':',
      Nat.digitChar (minute.index % 60 / 10), Nat.digitChar (minute.index % 10)]

theorem toList_twoDigits : ∀ value : Fin 100,
    (twoDigits value).toList = [Nat.digitChar (value / 10), Nat.digitChar (value % 10)] := by
  decide +kernel

theorem text_eq_face (minute : MinuteOfDay) : minute.text = minute.face := by
  have index_lt : minute.index < 1440 := minute.index_lt
  have hours := toList_twoDigits ⟨minute.index / 60, by omega⟩
  have minutes := toList_twoDigits ⟨minute.index % 60, by omega⟩
  have tens : minute.index / 60 / 10 = minute.index / 600 := by omega
  have ones : minute.index % 60 % 10 = minute.index % 10 := by omega
  apply String.toList_injective
  simp only [text, face, String.toList_append, String.toList_ofList]
  simp only at hours minutes
  rw [hours, minutes, tens, ones]
  rfl

end MinuteOfDay

namespace Trigger

/-- The trigger after a job for the errand has come into the pool of a lane. -/
def withJob (trigger : Trigger) (lane : Lane) (errand : Errand) : Trigger :=
  (trigger.setPool lane
    { trigger.pool lane with waiting := (trigger.pool lane).waiting ++ [trigger.next] }).addTask
      (some lane) errand

theorem withJob_ne (trigger : Trigger) (lane : Lane) (errand : Errand) :
    trigger ≠ trigger.withJob lane errand := by
  intro same
  have next_eq := congrArg Trigger.next same
  cases lane <;> simp [withJob, addTask, setPool] at next_eq

end Trigger

namespace Http

/-! ### Which endpoint a request reaches -/

section Paths

variable {separator : Char} {piece rest segment : List Char}

theorem splitAt_ne_nil (separator : Char) (characters : List Char) :
    splitAt separator characters ≠ [] := by
  cases characters with
  | nil => simp [splitAt]
  | cons character rest =>
      simp only [splitAt]
      split
      next => simp
      next => split <;> simp

theorem splitAt_separator (separator : Char) (rest : List Char) :
    splitAt separator (separator :: rest) = [] :: splitAt separator rest := by
  cases pieces : splitAt separator rest with
  | nil => exact absurd pieces (splitAt_ne_nil separator rest)
  | cons first others => simp [splitAt, pieces]

theorem splitAt_eq_singleton (absent : separator ∉ piece) : splitAt separator piece = [piece] := by
  induction piece with
  | nil => rfl
  | cons character piece ih =>
      obtain ⟨other, absent⟩ := not_or.mp (List.mem_cons.not.mp absent)
      simp [splitAt, ih absent, Ne.symm other]

theorem splitAt_append_separator (absent : separator ∉ piece) :
    splitAt separator (piece ++ separator :: rest) = piece :: splitAt separator rest := by
  induction piece with
  | nil => exact splitAt_separator separator rest
  | cons character piece ih =>
      obtain ⟨other, absent⟩ := not_or.mp (List.mem_cons.not.mp absent)
      simp [splitAt, ih absent, Ne.symm other]

theorem ofPath?_forced (named : segment ≠ []) (single : '/' ∉ segment) :
    Route.ofPath? ("/flywheel/internal/users/".toList ++ segment) =
      some (.triggerForced segment) := by
  have pieces : splitAt '/' ("/flywheel/internal/users/".toList ++ segment) =
      [[], "flywheel".toList, "internal".toList, "users".toList, segment] := by
    have whole : "/flywheel/internal/users/".toList ++ segment =
        [] ++ '/' :: ("flywheel".toList ++ '/' :: ("internal".toList ++ '/' ::
          ("users".toList ++ '/' :: segment))) := by
      simp
    rw [whole, splitAt_append_separator (by simp), splitAt_append_separator (by decide),
      splitAt_append_separator (by decide), splitAt_append_separator (by decide),
      splitAt_eq_singleton single]
  rw [Route.ofPath?, pieces]
  exact if_pos ⟨rfl, rfl, rfl, by simpa using named⟩

end Paths

namespace Request

/-- What stands in the target before a query and a fragment. -/
def path (request : Request) : List Char :=
  (cutAt '?' (cutAt '#' request.target.toList).1).1

def query (request : Request) : List Char :=
  (cutAt '?' (cutAt '#' request.target.toList).1).2

structure Posts (request : Request) (path : List Char) : Prop where
  method_eq : request.method = "POST"
  path_eq : request.path = path

end Request

variable {surroundings : Surroundings} {trigger : Trigger} {request : Request}

theorem answer_pass (posts : request.Posts "/flywheel/internal".toList) :
    answer surroundings trigger request = answerPass surroundings trigger request.query := by
  have route : Route.ofPath? request.path = some .triggerPass := by
    rw [posts.path_eq]
    rfl
  simp only [answer]
  rw [show Route.ofPath? (cutAt '?' (cutAt '#' request.target.toList).1).1 = _ from route]
  exact if_pos posts.method_eq

theorem answer_forced {segment : List Char} (named : segment ≠ []) (single : '/' ∉ segment)
    (posts : request.Posts ("/flywheel/internal/users/".toList ++ segment)) :
    answer surroundings trigger request = answerForced trigger segment := by
  have route : Route.ofPath? request.path = some (.triggerForced segment) := by
    rw [posts.path_eq, ofPath?_forced named single]
  simp only [answer]
  rw [show Route.ofPath? (cutAt '?' (cutAt '#' request.target.toList).1).1 = _ from route]
  exact if_pos posts.method_eq

/-! ### The answers to an errand -/

namespace Response

def Reports (response : Response) (code : ErrorCode) : Prop :=
  ∃ message, response = ErrorReport.response ⟨code, message⟩

/-- The answer to a request whose errand the pool has taken, or has no place for. -/
def verdict (fields : List (String × Json)) (accepted : Bool) : Response :=
  .json 202 (.record (fields ++ [("accepted", .bool accepted)]))

theorem verdict_inj {fields : List (String × Json)} {accepted other : Bool} :
    verdict fields accepted = verdict fields other ↔ accepted = other := by
  simp [verdict, json]

theorem not_reports_verdict (fields : List (String × Json)) (accepted : Bool) (code : ErrorCode) :
    ¬ (verdict fields accepted).Reports code := by
  rintro ⟨message, same⟩
  have status := congrArg Response.status same
  cases code <;> simp [verdict, json, ErrorReport.response, ErrorCode.status] at status

theorem Reports.unique {response : Response} {code other : ErrorCode}
    (reports : response.Reports code) (others : response.Reports other) : code = other := by
  obtain ⟨message, rfl⟩ := reports
  obtain ⟨message', same⟩ := others
  have body := congrArg Response.body same
  cases code <;> cases other <;>
    simp [ErrorReport.response, json, ErrorCode.text] at body ⊢

end Response

/-- Both endpoints queue their errand alike. They differ in what they tell of it. -/
def queue (trigger : Trigger) (lane : Lane) (errand : Errand) (fields : List (String × Json))
    (taken dropped : Journal.Entry) : Answered :=
  match trigger.submit lane errand with
  | .ok after => ⟨after, trigger.admission lane errand, .verdict fields true, [taken]⟩
  | .error (.saturated _ _) => ⟨trigger, [], .verdict fields false, [dropped]⟩
  | .error fault => .only trigger (ErrorReport.ofPoolFault fault).response

theorem queuePass_eq (trigger : Trigger) (minute : MinuteOfDay) :
    queuePass trigger minute =
      queue trigger .pass (.pass minute)
        [("minute", .natural minute.index), ("time", .text minute.face)]
        (Journal.note .info "Minute pass triggered")
        (Journal.note .warn "Minute pass skipped, pass workers busy") := by
  simp only [queuePass, queue, MinuteOfDay.text_eq_face]
  cases trigger.submit .pass (.pass minute) with
  | ok after => rfl
  | error fault => cases fault <;> rfl

theorem queueForced_eq (trigger : Trigger) (userId : UserId) :
    queueForced trigger userId =
      queue trigger .forced (.forced userId) [("userId", .text userId.text)]
        (Journal.note .info "Forced refresh triggered")
        (Journal.note .warn "Forced refresh dropped, forced pool saturated") := by
  simp only [queueForced, queue]
  cases trigger.submit .forced (.forced userId) with
  | ok after => rfl
  | error fault => cases fault <;> rfl

/-- What came of an errand that the pool of a lane was asked to take. -/
inductive Handled (trigger : Trigger) (lane : Lane) (errand : Errand)
    (fields : List (String × Json)) (answered : Answered) : Prop where
  | taken (isOpen : (trigger.pool lane).isClosed = false)
      (room : (trigger.pool lane).inFlight < (trigger.pool lane).capacity)
      (after_eq : answered.trigger = trigger.withJob lane errand)
      (effects_eq : answered.effects = trigger.admission lane errand)
      (response_eq : answered.response = .verdict fields true)
  | full (isOpen : (trigger.pool lane).isClosed = false)
      (full : (trigger.pool lane).capacity ≤ (trigger.pool lane).inFlight)
      (after_eq : answered.trigger = trigger) (effects_eq : answered.effects = [])
      (response_eq : answered.response = .verdict fields false)
  | closed (isClosed : (trigger.pool lane).isClosed = true)
      (after_eq : answered.trigger = trigger) (effects_eq : answered.effects = [])
      (reports : answered.response.Reports .shuttingDown)

/-- The answer to a request for an errand tells what came of it. -/
structure Tells (trigger : Trigger) (lane : Lane) (errand : Errand)
    (fields : List (String × Json)) (answered : Answered) : Prop where
  shuttingDown_iff :
    answered.response.Reports .shuttingDown ↔ (trigger.pool lane).isClosed = true
  accepted_iff : answered.response = .verdict fields true ↔
    (trigger.pool lane).isClosed = false ∧
      (trigger.pool lane).inFlight < (trigger.pool lane).capacity
  full_iff : answered.response = .verdict fields false ↔
    (trigger.pool lane).isClosed = false ∧
      (trigger.pool lane).inFlight = (trigger.pool lane).capacity
  added_iff : answered.response = .verdict fields true ↔
    answered.trigger = trigger.withJob lane errand ∧
      answered.effects = trigger.admission lane errand

section Handling

variable {lane : Lane} {errand : Errand} {fields : List (String × Json)} {answered : Answered}

theorem Handled.tells (handled : Handled trigger lane errand fields answered)
    (within : (trigger.pool lane).inFlight ≤ (trigger.pool lane).capacity) :
    Tells trigger lane errand fields answered := by
  have unmoved := trigger.withJob_ne lane errand
  cases handled with
  | taken isOpen room after_eq effects_eq response_eq =>
      constructor
      · simp [response_eq, isOpen, Response.not_reports_verdict]
      · simp [response_eq, isOpen, room]
      · simp [response_eq, isOpen, Response.verdict_inj, Nat.ne_of_lt room]
      · simp [response_eq, after_eq, effects_eq]
  | full isOpen full after_eq effects_eq response_eq =>
      constructor
      · simp [response_eq, isOpen, Response.not_reports_verdict]
      · simp [response_eq, isOpen, Response.verdict_inj, Nat.not_lt.mpr full]
      · simp [response_eq, isOpen, Nat.le_antisymm within full]
      · simp [response_eq, Response.verdict_inj, after_eq, unmoved]
  | closed isClosed after_eq effects_eq reports =>
      have other (accepted : Bool) : answered.response ≠ .verdict fields accepted := by
        intro same
        exact Response.not_reports_verdict fields accepted .shuttingDown (same ▸ reports)
      constructor
      · simp [reports, isClosed]
      · simp [other, isClosed]
      · simp [other, isClosed]
      · simp [other, after_eq, unmoved]

theorem queue_handled (trigger : Trigger) (lane : Lane) (errand : Errand)
    (fields : List (String × Json)) (taken dropped : Journal.Entry) :
    Handled trigger lane errand fields (queue trigger lane errand fields taken dropped) := by
  cases answer : (trigger.pool lane).submit trigger.next with
  | ok pool =>
      obtain ⟨isOpen, room, rfl⟩ := WorkerPool.submit_eq_ok_iff.mp answer
      refine .taken isOpen room ?_ ?_ ?_ <;> simp [queue, Trigger.submit, answer, Trigger.withJob]
  | error fault =>
      rcases WorkerPool.submit_eq_error_iff.mp answer with ⟨closed, rfl⟩ | ⟨isOpen, full, rfl⟩
      · have told : queue trigger lane errand fields taken dropped = .only trigger
            (ErrorReport.ofPoolFault (.closed (trigger.pool lane).name)).response := by
          simp [queue, Trigger.submit, answer]
        rw [told]
        exact .closed closed rfl rfl ⟨_, rfl⟩
      · refine .full isOpen full ?_ ?_ ?_ <;> simp [queue, Trigger.submit, answer]

theorem Handled.not_reports (handled : Handled trigger lane errand fields answered)
    {code : ErrorCode} (other : code ≠ .shuttingDown) : ¬ answered.response.Reports code := by
  cases handled with
  | taken isOpen room after_eq effects_eq response_eq =>
      exact response_eq ▸ Response.not_reports_verdict fields true code
  | full isOpen full after_eq effects_eq response_eq =>
      exact response_eq ▸ Response.not_reports_verdict fields false code
  | closed isClosed after_eq effects_eq reports =>
      exact fun others => other (others.unique reports)

/-- Only an answer that says accepted moves the trigger, and none is an internal error. -/
structure Settled (trigger : Trigger) (answered : Answered) : Prop where
  status_ne : answered.response.status ≠ 500
  unmoved : (∃ fields, answered.response = .verdict fields true) ∨
    answered.trigger = trigger ∧ answered.effects = []

theorem Settled.only {response : Response} (status_ne : response.status ≠ 500) :
    Settled trigger (.only trigger response) :=
  ⟨status_ne, Or.inr ⟨rfl, rfl⟩⟩

theorem Handled.settled (handled : Handled trigger lane errand fields answered) :
    Settled trigger answered := by
  cases handled with
  | taken isOpen room after_eq effects_eq response_eq =>
      exact ⟨by simp [response_eq, Response.verdict, Response.json], Or.inl ⟨_, response_eq⟩⟩
  | full isOpen full after_eq effects_eq response_eq =>
      exact ⟨by simp [response_eq, Response.verdict, Response.json],
        Or.inr ⟨after_eq, effects_eq⟩⟩
  | closed isClosed after_eq effects_eq reports =>
      obtain ⟨message, response_eq⟩ := reports
      exact ⟨by simp [response_eq, ErrorReport.response, Response.json, ErrorCode.status],
        Or.inr ⟨after_eq, effects_eq⟩⟩

end Handling

/-! ### The answers to requests -/

theorem answerPass_settled (surroundings : Surroundings) (trigger : Trigger)
    (query : List Char) : Settled trigger (answerPass surroundings trigger query) := by
  simp only [answerPass]
  split
  next => exact .only (by decide)
  next =>
    rw [queuePass_eq]
    exact (queue_handled ..).settled
  next =>
    split
    next => exact .only (by simp [ErrorReport.response, Response.json, ErrorCode.status])
    next =>
      rw [queuePass_eq]
      exact (queue_handled ..).settled

theorem answerForced_settled (trigger : Trigger) (segment : List Char) :
    Settled trigger (answerForced trigger segment) := by
  simp only [answerForced]
  split
  next => exact .only (by decide)
  next =>
    split
    next => exact .only (by simp [ErrorReport.response, Response.json, ErrorCode.status])
    next =>
      rw [queueForced_eq]
      exact (queue_handled ..).settled

theorem answerRead_settled {method : String} {answered : Answered}
    (status_ne : answered.response.status ≠ 500)
    (kept : answered.trigger = trigger ∧ answered.effects = []) :
    Settled trigger (answerRead method trigger answered) := by
  simp only [answerRead]
  split
  next => exact ⟨status_ne, Or.inr kept⟩
  next =>
    split
    next => exact ⟨status_ne, Or.inr kept⟩
    next => exact .only (by decide)

theorem answer_settled (surroundings : Surroundings) (trigger : Trigger) (request : Request) :
    Settled trigger (answer surroundings trigger request) := by
  simp only [answer]
  split
  next => exact .only (by decide)
  next => exact answerRead_settled (by simp [answerHealth, Response.json]) ⟨rfl, rfl⟩
  next => exact answerRead_settled (by simp [answerStatus, Response.json]) ⟨rfl, rfl⟩
  next =>
    split
    next => exact answerPass_settled surroundings trigger _
    next => exact .only (by decide)
  next =>
    split
    next => exact answerForced_settled trigger _
    next => exact .only (by decide)

theorem answerPass_of_beyond {query : List Char} {index : Nat}
    (read : minuteOfQuery? query = some (some index)) (beyond : 1440 ≤ index) :
    (answerPass surroundings trigger query).response.Reports .invalidMinute := by
  have outside : MinuteOfDay.check index = .error (.minuteOutOfRange index) := by
    simp [MinuteOfDay.check, MinuteOfDay.ofNat?, minutesPerDay, Nat.not_lt.mpr beyond]
  simp only [answerPass, read, outside]
  exact ⟨_, rfl⟩

theorem answerPass_of_minute {query : List Char} {asked : Option Nat} {minute : MinuteOfDay}
    (read : minuteOfQuery? query = some asked)
    (asks : minute.index = asked.getD (MinuteOfDay.ofInstant surroundings.now).index) :
    answerPass surroundings trigger query = queuePass trigger minute := by
  obtain ⟨index, inside⟩ := minute
  obtain rfl : index = _ := asks
  cases asked with
  | none => simp only [answerPass, read]; rfl
  | some index =>
      have below : index < minutesPerDay := inside
      have checked : MinuteOfDay.check index = .ok ⟨index, inside⟩ := by
        simp [MinuteOfDay.check, MinuteOfDay.ofNat?, below]
      simp only [answerPass, read, checked]
      rfl

theorem answerPass_reports_iff {query : List Char} {asked : Option Nat}
    (read : minuteOfQuery? query = some asked) :
    (answerPass surroundings trigger query).response.Reports .invalidMinute ↔
      ∃ index, asked = some index ∧ 1440 ≤ index := by
  constructor
  · intro reports
    by_contra readable
    have inside : asked.getD (MinuteOfDay.ofInstant surroundings.now).index < minutesPerDay := by
      cases asked with
      | none => exact (MinuteOfDay.ofInstant surroundings.now).index_lt
      | some index => exact Nat.not_le.mp fun beyond => readable ⟨index, rfl, beyond⟩
    have queued : answerPass surroundings trigger query = queuePass trigger ⟨_, inside⟩ :=
      answerPass_of_minute read rfl
    rw [queued, queuePass_eq] at reports
    exact (queue_handled ..).not_reports (by decide) reports
  · rintro ⟨index, rfl, beyond⟩
    exact answerPass_of_beyond read beyond

theorem answerForced_of_spells {segment : List Char} {spelling : String} {userId : UserId}
    (spelled : textOfBytes? (decodePercent segment) = some spelling)
    (spells : userId.Spells spelling.toList) :
    answerForced trigger segment = queueForced trigger userId := by
  simp only [answerForced, spelled, Identifier.ofText?_eq_some_iff.mpr spells]

theorem answerForced_reports_iff {segment : List Char} {spelling : String}
    (spelled : textOfBytes? (decodePercent segment) = some spelling) :
    (answerForced trigger segment).response.Reports .invalidUserId ↔
      ¬ ∃ userId : UserId, userId.Spells spelling.toList := by
  constructor
  · rintro reports ⟨userId, spells⟩
    rw [answerForced_of_spells spelled spells, queueForced_eq] at reports
    exact (queue_handled ..).not_reports (by decide) reports
  · intro nobody
    have unread : Identifier.ofText? spelling = none := by
      rw [Option.eq_none_iff_forall_ne_some]
      exact fun userId read => nobody ⟨userId, Identifier.ofText?_eq_some_iff.mp read⟩
    simp only [answerForced, spelled, unread]
    exact ⟨_, rfl⟩

/-- The answer to a request tells what came of it, in every state that the moments lead to:
whether what it asks for can be read, else whether the pool concerned is closed, else
whether it took the job. Only an answer that says accepted comes with a change. -/
theorem answers_tell (gate : Gate) (settings : Settings) (sizes : PoolSizes)
    (moments : List Moment) (surroundings : Surroundings) :
    let trigger := ((Trigger.create gate settings sizes).elapse moments).1
    (∀ request asked, request.Posts "/flywheel/internal".toList →
      minuteOfQuery? request.query = some asked →
      ((answer surroundings trigger request).response.Reports .invalidMinute ↔
        ∃ index, asked = some index ∧ 1440 ≤ index) ∧
      ∀ minute : MinuteOfDay,
        minute.index = asked.getD (MinuteOfDay.ofInstant surroundings.now).index →
        Tells trigger .pass (.pass minute)
          [("minute", .natural minute.index), ("time", .text minute.face)]
          (answer surroundings trigger request)) ∧
    (∀ request segment spelling,
      request.Posts ("/flywheel/internal/users/".toList ++ segment) →
      segment ≠ [] → '/' ∉ segment → textOfBytes? (decodePercent segment) = some spelling →
      ((answer surroundings trigger request).response.Reports .invalidUserId ↔
        ¬ ∃ userId : UserId, userId.Spells spelling.toList) ∧
      ∀ userId : UserId, userId.Spells spelling.toList →
        Tells trigger .forced (.forced userId) [("userId", .text userId.text)]
            (answer surroundings trigger request) ∧
          ∀ other : UserId, other.Spells userId.text.toList ↔ other = userId) ∧
    ∀ request, Settled trigger (answer surroundings trigger request) := by
  intro trigger
  have within := Trigger.inFlight_le_capacity gate settings sizes moments
  refine ⟨fun request asked posts read => ?_,
    fun request segment spelling posts named single spelled => ?_,
    answer_settled surroundings trigger⟩
  · rw [answer_pass posts]
    refine ⟨answerPass_reports_iff read, fun minute asks => ?_⟩
    rw [answerPass_of_minute read asks, queuePass_eq]
    exact (queue_handled ..).tells (within .pass)
  · rw [answer_forced named single posts]
    refine ⟨answerForced_reports_iff spelled, fun userId spells => ?_⟩
    rw [answerForced_of_spells spelled spells, queueForced_eq]
    exact ⟨(queue_handled ..).tells (within .forced), fun _ => Identifier.spells_text_iff⟩

section Busy

private def busySizes : PoolSizes := ⟨1, 1, 0, 1, 0⟩

private def noon : Surroundings := ⟨default, none, ⟨43200, 0⟩⟩

/-- One pass is queued, and there is no place for another. -/
private def busyMoments : List Moment :=
  [.move (.triggerPass (MinuteOfDay.ofInstant noon.now))]

private def passRequest : Request := ⟨"POST", "/flywheel/internal?minute=75"⟩

private def caller : UserId := Identifier.ofNat 0x6f1c2a9e000040008000000000000002

private def forcedRequest : Request :=
  ⟨"POST", "/flywheel/internal/users/%7B6F1C2A9E-0000-4000-8000-000000000002%7d"⟩

theorem answers_tell_busy :
    let trigger := ((Trigger.create Gate.neededAction .default busySizes).elapse busyMoments).1
    (answer noon trigger passRequest).response =
        .verdict [("minute", .natural 75), ("time", .text "01:15")] false ∧
      (answer noon trigger forcedRequest).response =
        .verdict [("userId", .text "6f1c2a9e-0000-4000-8000-000000000002")] true ∧
      (answer noon trigger forcedRequest).trigger = trigger.withJob .forced (.forced caller) := by
  intro trigger
  obtain ⟨passes, refreshes, -⟩ :=
    answers_tell Gate.neededAction .default busySizes busyMoments noon
  have pass := (passes passRequest (some 75) ⟨rfl, rfl⟩ (by rfl)).2 ⟨75, by decide⟩ rfl
  have spells : caller.Spells "\x7b6F1C2A9E-0000-4000-8000-000000000002\x7d".toList :=
    Identifier.ofText?_eq_some_iff.mp (by rfl)
  have forced := (refreshes forcedRequest _ _ ⟨rfl, (by rfl : forcedRequest.path =
    "/flywheel/internal/users/".toList ++ "%7B6F1C2A9E-0000-4000-8000-000000000002%7d".toList)⟩
      (by simp) (by decide) (by rfl)).2 caller spells |>.1
  have accepted := forced.accepted_iff.mpr ⟨rfl, by decide⟩
  exact ⟨pass.full_iff.mpr ⟨rfl, rfl⟩, accepted, (forced.added_iff.mp accepted).1⟩

end Busy

end Http

end UnattendedRefresh
