import UnattendedRefresh.Duration
import UnattendedRefresh.Http.Message
import UnattendedRefresh.Http.Percent
import UnattendedRefresh.Release
import UnattendedRefresh.StatusRegistry
import UnattendedRefresh.Text.Decimal
import UnattendedRefresh.Text.Quoting
import UnattendedRefresh.Trigger

/-!
# The HTTP surface

Four routes: health, status, and the two manual triggers, which answer as soon
as the work is queued or refused.
-/

namespace UnattendedRefresh.Http

structure Surroundings where
  statuses : StatusRegistry
  /-- How long a ping of the database takes; none if it fails. -/
  ping : Option Duration
  now : Instant

structure Answered where
  trigger : Trigger
  effects : List Effect
  response : Response
  entries : List Journal.Entry

namespace Answered

def only (trigger : Trigger) (response : Response) : Answered :=
  ⟨trigger, [], response, []⟩

end Answered

inductive Route where
  | health
  | status
  | triggerPass
  | triggerForced (segment : List Char)

/-- The route of a path. Paths are compared as they are written. -/
def Route.ofPath? (path : List Char) : Option Route :=
  match splitAt '/' path with
  | [[], first] =>
    if first = "health".toList then some .health
    else if first = "status".toList then some .status
    else none
  | [[], first, second] =>
    if first = "flywheel".toList ∧ second = "internal".toList then some .triggerPass else none
  | [[], first, second, third, segment] =>
    if first = "flywheel".toList ∧ second = "internal".toList ∧ third = "users".toList
        ∧ ¬ segment.isEmpty then
      some (.triggerForced segment)
    else
      none
  | _ => none

/-- The minute a query asks for: none if it names no minute, a refusal if it does
not read as a query. -/
def minuteOfQuery? (query : List Char) : Option (Option Nat) :=
  match (formPairs query).filter (·.1 = some "minute") with
  | [] => some none
  | [(_, some value)] => (Decimal.unsigned? UInt32.size value.toList).map some
  | _ => none

def queuePass (trigger : Trigger) (minute : MinuteOfDay) : Answered :=
  let reply (accepted : Bool) : Response :=
    .json 202 (.record
      [("minute", .natural minute.index), ("time", .text minute.text),
       ("accepted", .bool accepted)])
  match trigger.submit .pass (.pass minute) with
  | .ok after =>
    ⟨after, trigger.admission .pass (.pass minute), reply true,
      [Journal.note .info "Minute pass triggered"]⟩
  | .error (.saturated _ _) =>
    ⟨trigger, [], reply false,
      [Journal.note .warn "Minute pass skipped, pass workers busy"]⟩
  | .error fault => .only trigger (ErrorReport.ofPoolFault fault).response

def answerPass (surroundings : Surroundings) (trigger : Trigger) (query : List Char) :
    Answered :=
  match minuteOfQuery? query with
  | none => .only trigger (.plain 400)
  | some none => queuePass trigger (MinuteOfDay.ofInstant surroundings.now)
  | some (some index) =>
    match MinuteOfDay.check index with
    | .error fault =>
      .only trigger (ErrorReport.response ⟨.invalidMinute, fault.message⟩)
    | .ok minute => queuePass trigger minute

def queueForced (trigger : Trigger) (userId : UserId) : Answered :=
  let reply (accepted : Bool) : Response :=
    .json 202 (.record [("userId", .text userId.text), ("accepted", .bool accepted)])
  match trigger.submit .forced (.forced userId) with
  | .ok after =>
    ⟨after, trigger.admission .forced (.forced userId), reply true,
      [Journal.note .info "Forced refresh triggered"]⟩
  | .error (.saturated _ _) =>
    ⟨trigger, [], reply false,
      [Journal.note .warn "Forced refresh dropped, forced pool saturated"]⟩
  | .error fault => .only trigger (ErrorReport.ofPoolFault fault).response

def answerForced (trigger : Trigger) (segment : List Char) : Answered :=
  match textOfBytes? (decodePercent segment) with
  | none => .only trigger (.plain 400)
  | some spelling =>
    match Identifier.ofText? spelling with
    | none =>
      .only trigger
        (ErrorReport.response ⟨.invalidUserId, "invalid user id: " ++ Text.quote spelling⟩)
    | some userId => queueForced trigger userId

def answerHealth (surroundings : Surroundings) (trigger : Trigger) : Answered :=
  ⟨trigger, [],
    .json 200 (.record
      [("status", .text "healthy"),
       ("timestamp", .text surroundings.now.text)]),
    [Journal.note .trace "health check requested"]⟩

/-- An error anywhere makes the whole an error; without services it is idle. -/
def overallStatus (surroundings : Surroundings) : ServiceStatus :=
  if surroundings.ping.isNone
      ∨ surroundings.statuses.all.any (fun entry => entry.2 = .error) then .error
  else if surroundings.statuses.isEmpty then .disabled
  else .active

def serviceJson (now : Instant) (entry : String × StatusReport) : String × Json :=
  (entry.1, .record
    [("name", .text entry.1), ("status", .text entry.2.status.text),
     ("secondsSinceUpdate", .natural (now.since entry.2.updatedAt / 1000000000).toNat)])

def databaseJson : Option Duration → Json
  | some latency =>
    .record [("status", .text ServiceStatus.active.text), ("latency", .text latency.text)]
  | none => .record [("status", .text ServiceStatus.error.text)]

def settingsJson (settings : Settings) : Json :=
  .record
    [("enabled", .bool settings.enabled),
     ("minSecondsSinceLastRefresh", .natural settings.minSecondsSinceLastRefresh.toNat),
     ("defaultRefreshesPerDay", .natural settings.defaultRefreshesPerDay.toNat),
     ("tenantOverrides", .natural settings.perTenantRefreshesPerDay.size),
     ("blacklistedProviders", .list (settings.blacklistedProviders.toList.map .text))]

def poolJson (stats : PoolStats) : Json :=
  .record
    [("name", .text stats.name), ("inFlight", .natural stats.inFlight),
     ("capacity", .natural stats.capacity)]

def answerStatus (surroundings : Surroundings) (trigger : Trigger) : Answered :=
  let body := .record
    [("status", .text (overallStatus surroundings).text),
     ("version", .text Release.version),
     ("commit", .text Release.commit),
     ("services", .record (surroundings.statuses.entries.map (serviceJson surroundings.now))),
     ("database", databaseJson surroundings.ping),
     ("settings", settingsJson trigger.settings),
     ("pools", .list (trigger.poolStats.map poolJson))]
  ⟨trigger, [], .json 200 body,
    if surroundings.ping.isNone then [Journal.note .warn "database ping failed"] else []⟩

def answerRead (method : String) (trigger : Trigger) (answered : Answered) : Answered :=
  if method = "GET" then answered
  else if method = "HEAD" then { answered with response := answered.response.withoutBody }
  else .only trigger (.methodNotAllowed "GET,HEAD")

def answer (surroundings : Surroundings) (trigger : Trigger) (request : Request) : Answered :=
  let (locator, _) := cutAt '#' request.target.toList
  let (path, query) := cutAt '?' locator
  match Route.ofPath? path with
  | none => .only trigger (.plain 404)
  | some .health =>
    answerRead request.method trigger (answerHealth surroundings trigger)
  | some .status =>
    answerRead request.method trigger (answerStatus surroundings trigger)
  | some .triggerPass =>
    if request.method = "POST" then answerPass surroundings trigger query
    else .only trigger (.methodNotAllowed "POST")
  | some (.triggerForced segment) =>
    if request.method = "POST" then answerForced trigger segment
    else .only trigger (.methodNotAllowed "POST")

end UnattendedRefresh.Http
