import UnattendedRefresh.Journal
import UnattendedRefresh.Pool
import UnattendedRefresh.Records
import UnattendedRefresh.Settings

/-!
# Procedures

What a job does, told as the questions it asks one after another and the entries
it writes. A question has a type of answers; the procedure goes on with whatever
answer it gets, so one procedure describes the job against every store, every
clock and every collaborator.
-/

namespace UnattendedRefresh

structure RefreshOrder where
  userId : UserId
  sites : List UserSite
  oneOff : Bool
  credential : Credential
  origin : Origin
  deriving DecidableEq

abbrev Failure := String

inductive Question where
  /-- The settings in effect now. -/
  | snapshot
  /-- Tenants that own at least one site. -/
  | tenants
  | usersInRange (tenant : TenantId) (range : IdRange)
  | user (id : UserId)
  /-- Sites of a user that are not deleted. -/
  | sites (userId : UserId)
  | clock
  | credential (tenant : TenantId) (userId : UserId)
  | refresh (order : RefreshOrder)
  /-- Queue the scheduled refresh of a candidate under the given settings. -/
  | enqueue (candidate : Candidate) (settings : Settings)
  deriving DecidableEq

namespace Question

abbrev Answer : Question → Type
  | snapshot => Settings
  | tenants => Except Failure (List TenantId)
  | usersInRange _ _ => Except Failure (List UserId)
  | user _ => Except Failure (Option User)
  | sites _ => Except Failure (List UserSite)
  | clock => Instant
  | credential _ _ => Except Failure Credential
  | refresh _ => Except Failure Unit
  | enqueue _ _ => Except PoolFault Unit

end Question

/-- A question with an answer to it. -/
structure Reply where
  question : Question
  answer : question.Answer

inductive Procedure (Result : Type) where
  | done (result : Result)
  | ask (question : Question) (resume : question.Answer → Procedure Result)
  | report (entry : Journal.Entry) (rest : Procedure Result)

namespace Procedure

variable {Result Next : Type}

def bind : Procedure Result → (Result → Procedure Next) → Procedure Next
  | done result, next => next result
  | ask question resume, next => ask question fun answer => bind (resume answer) next
  | report entry rest, next => report entry (bind rest next)

instance : Monad Procedure where
  pure := done
  bind := bind

def question (question : Question) : Procedure question.Answer :=
  ask question done

def note (level : Journal.Level) (message : String) : Procedure Unit :=
  report (Journal.note level message) (done ())

def reportAll : List Journal.Entry → Procedure Result → Procedure Result
  | [], rest => rest
  | entry :: entries, rest => report entry (reportAll entries rest)

end Procedure

end UnattendedRefresh
