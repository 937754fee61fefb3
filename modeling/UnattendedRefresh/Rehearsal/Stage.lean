import UnattendedRefresh.Trigger

/-!
# The stage of a rehearsal

Collaborators held in memory: users with their sites, failures and waits that
were agreed on beforehand, and a clock that stands still.
-/

namespace UnattendedRefresh.Rehearsal

structure Resident where
  user : User
  sites : List UserSite

inductive Hitch where
  | discovery
  | tenant (id : TenantId)
  | getUser (id : UserId)
  /-- The user is not there when asked for. -/
  | vanish (id : UserId)
  | sites (id : UserId)
  | credential (id : UserId)
  | refresh (id : UserId)
  | crash (id : UserId)
  deriving DecidableEq

inductive Hold where
  | discovery
  | refresh (id : UserId)
  deriving DecidableEq

def idAfter? (marker : String) (key : String) : Option Identifier :=
  if key.startsWith marker then
    let spelling := String.ofList (key.toList.drop marker.length)
    (Identifier.ofText? spelling).filter (·.text = spelling)
  else
    none

namespace Hitch

def ofKey? (key : String) : Option Hitch :=
  if key = "discovery" then some discovery
  else
    ((idAfter? "tenant:" key).map tenant)
      <|> ((idAfter? "get_user:" key).map getUser)
      <|> ((idAfter? "vanish:" key).map vanish)
      <|> ((idAfter? "sites:" key).map sites)
      <|> ((idAfter? "credential:" key).map credential)
      <|> ((idAfter? "refresh:" key).map refresh)
      <|> ((idAfter? "panic:" key).map crash)

end Hitch

namespace Hold

def ofKey? (key : String) : Option Hold :=
  if key = "discovery" then some discovery else (idAfter? "refresh:" key).map refresh

end Hold

structure Stage where
  residents : OrderedMap UserId Resident
  hitches : List Hitch
  holds : List Hold
  now : Instant

inductive Response (question : Question) where
  | answer (value : question.Answer)
  | wait (hold : Hold)
  | crash

namespace Stage

def addResident (stage : Stage) (resident : Resident) : Stage :=
  { stage with residents := stage.residents.insert resident.user.id resident }

def removeResident (stage : Stage) (id : UserId) : Stage :=
  { stage with residents := stage.residents.erase id }

def has (stage : Stage) (hitch : Hitch) : Bool :=
  stage.hitches.contains hitch

def isHeld (stage : Stage) (hold : Hold) : Bool :=
  stage.holds.contains hold

def failing {Kind : Type} (stage : Stage) (hitch : Hitch) (failure : Failure) (answer : Kind) :
    Except Failure Kind :=
  if stage.has hitch then .error failure else .ok answer

def tenants (stage : Stage) : List TenantId :=
  (OrderedSet.ofList <| (stage.residents.values.filter (! ·.sites.isEmpty)).map
    (·.user.tenantId)).toList

def usersInRange (stage : Stage) (tenant : TenantId) (range : IdRange) : List UserId :=
  (stage.residents.values.filter fun resident =>
    resident.user.tenantId = tenant && range.contains resident.user.id).map (·.user.id)

def user? (stage : Stage) (id : UserId) : Option User :=
  if stage.has (.vanish id) then none else (stage.residents.find? id).map (·.user)

def sitesOf (stage : Stage) (id : UserId) : List UserSite :=
  ((stage.residents.find? id).map (·.sites)).getD []

/-- Answer at once, whatever is held. Questions that the trigger answers itself
have no answer here. -/
def respondNow (stage : Stage) : (question : Question) → Response question
  | .snapshot => .crash
  | .enqueue _ _ => .crash
  | .tenants => .answer (stage.failing .discovery "tenant discovery failed" stage.tenants)
  | .usersInRange tenant range =>
    .answer (stage.failing (.tenant tenant) "range query failed"
      (stage.usersInRange tenant range))
  | .user id => .answer (stage.failing (.getUser id) "user query failed" (stage.user? id))
  | .sites id => .answer (stage.failing (.sites id) "sites query failed" (stage.sitesOf id))
  | .clock => .answer stage.now
  | .credential _ id =>
    .answer (stage.failing (.credential id) "credential refused" ⟨"token-" ++ id.text⟩)
  | .refresh order =>
    if stage.has (.crash order.userId) then .crash
    else .answer (stage.failing (.refresh order.userId) "bulk refresh failed" ())

def holdOf? : Question → Option Hold
  | .tenants => some .discovery
  | .refresh order => some (.refresh order.userId)
  | _ => none

def respond (stage : Stage) (question : Question) : Response question :=
  match holdOf? question with
  | some hold => if stage.isHeld hold then .wait hold else stage.respondNow question
  | none => stage.respondNow question

end Stage

end UnattendedRefresh.Rehearsal
