import UnattendedRefresh.Records.Spelling
import UnattendedRefresh.Wheel

/-!
# Users and sites in a database

Two tables of rows whose columns may be null, the statements asked of them, and
the records made of the answers. Identifiers compare as numbers; rows come in
the order of the table. A null column never satisfies a condition, and where a
record needs a value it makes the statement fail.
-/

namespace UnattendedRefresh.Storage

structure UserRow where
  id : Option UserId
  clientId : Option TenantId
  status : Option String
  oneOffAis : Option Bool

structure SiteRow where
  id : Option SiteId
  userId : Option UserId
  provider : Option String
  lastDataFetch : Option Instant
  isMigrating : Option Bool
  neededAction : Option String
  deleted : Option Bool

inductive Statement where
  | tenants
  | usersInRange (tenant : TenantId) (left right : UserId)
  | sites (userId : UserId)
  | user (id : UserId)
  | ping
  deriving DecidableEq

structure Database where
  users : List UserRow
  sites : List SiteRow
  fails : Statement → Bool

def Statement.failure : Statement → String
  | tenants => "tenants_with_user_sites query failed"
  | usersInRange _ left right =>
    "user_ids_in_range query failed for [" ++ left.text ++ ", " ++ right.text ++ "]"
  | sites _ => "non_deleted_user_sites query failed"
  | user _ => "get_user query failed"
  | ping => "database ping failed"

/-- Only the word itself, in letters of either case, blocks a user. -/
def userStatusOf (status : String) : UserStatus :=
  if status.map Char.toLower = "blocked" then .blocked else .active

/-- Nothing to do, or the word itself in letters of either case, lets a refresh
proceed. -/
def neededActionOf : Option String → NeededAction
  | none => .proceed
  | some action => if action.map Char.toLower = "proceed" then .proceed else .blocked

def UserRow.record? (row : UserRow) : Option User := do
  let id ← row.id
  let tenantId ← row.clientId
  let status ← row.status
  let oneOff ← row.oneOffAis
  return ⟨id, tenantId, userStatusOf status, oneOff⟩

def SiteRow.record? (row : SiteRow) : Option UserSite := do
  let id ← row.id
  let userId ← row.userId
  let provider ← row.provider
  let migrating ← row.isMigrating
  return ⟨id, userId, provider, row.lastDataFetch, migrating, neededActionOf row.neededAction⟩

def SiteRow.belongsTo (row : SiteRow) (userId : UserId) : Bool :=
  row.userId = some userId && row.deleted = some false

namespace Database

/-- The answer to a statement, unless the database fails it or the answer cannot
be made. -/
def ask {Kind : Type} (database : Database) (statement : Statement) (answer : Option Kind) :
    Except String Kind :=
  if database.fails statement then .error statement.failure
  else
    match answer with
    | some value => .ok value
    | none => .error statement.failure

def ownsSite (database : Database) (row : UserRow) : Bool :=
  match row.id with
  | some id => database.sites.any (·.belongsTo id)
  | none => false

/-- Tenants that own at least one site that is not deleted, by identifier. -/
def tenants (database : Database) : Except String (List TenantId) :=
  database.ask .tenants <|
    ((database.users.filter database.ownsSite).mapM UserRow.clientId).map fun tenants =>
      (OrderedSet.ofList tenants).toList

def usersBetween (database : Database) (tenant : TenantId) (left right : UserId) :
    List UserId :=
  (database.users.filter (·.clientId = some tenant)).filterMap fun row =>
    row.id.filter fun id => left ≤ id ∧ id ≤ right

def usersInSegments (database : Database) (tenant : TenantId) :
    List (UserId × UserId) → Except String (List UserId)
  | [] => .ok []
  | (left, right) :: rest => do
    let found ← database.ask (.usersInRange tenant left right)
      (some (database.usersBetween tenant left right))
    let others ← database.usersInSegments tenant rest
    return found ++ others

def usersInRange (database : Database) (tenant : TenantId) (range : IdRange) :
    Except String (List UserId) :=
  database.usersInSegments tenant range.segments

def sitesOf (database : Database) (userId : UserId) : Except String (List UserSite) :=
  database.ask (.sites userId)
    ((database.sites.filter (·.belongsTo userId)).mapM SiteRow.record?)

def user (database : Database) (id : UserId) : Except String (Option User) :=
  database.ask (.user id) <|
    match database.users.find? (·.id = some id) with
    | none => some none
    | some row => row.record?.map some

def ping (database : Database) : Bool :=
  ! database.fails .ping

end Database

end UnattendedRefresh.Storage
