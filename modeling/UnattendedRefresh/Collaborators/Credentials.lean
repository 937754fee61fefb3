import UnattendedRefresh.Collaborators.Exchange
import UnattendedRefresh.Identifier.Spelling
import UnattendedRefresh.Json.Reader

/-!
# The credential service

Issues a token for acting on behalf of one user.
-/

namespace UnattendedRefresh.Collaborators

/-- The one value of a field, if the field occurs once. -/
def onlyField? (name : String) (fields : List (String × Json)) : Option Json :=
  match fields.filter (·.1 = name) with
  | [(_, value)] => some value
  | _ => none

/-- Read the answer to a request for a token: a record with the token in its
field, or a list of just the token. -/
def tokenOfJson? : Json → Option Credential
  | .record fields =>
    match onlyField? "accessToken" fields with
    | some (.text token) => some ⟨token⟩
    | _ => none
  | .list [.text token] => some ⟨token⟩
  | _ => none

namespace CredentialService

def message : Fault → String
  | .unanswered => "service token request failed"
  | .rejected _ => "service token request rejected"
  | .unreadable => "failed to parse service token response"

def request? (base : String) (tenant : TenantId) (userId : UserId) : Option OutgoingRequest :=
  build? base "internal/service-tokens" none
    (.record [("tenantId", .text tenant.text), ("userId", .text userId.text)])

def read (reception : Reception) : Except Fault Credential :=
  match (Json.read reception.content).bind tokenOfJson? with
  | some credential => .ok credential
  | none => .error .unreadable

def issue (transport : Transport) (base : String) (tenant : TenantId) (userId : UserId) :
    Exchange (Except Fault Credential) :=
  let exchange := send transport (request? base tenant userId)
  { sent := exchange.sent
    entries := exchange.entries
    result := (accepted exchange.result).bind read }

end CredentialService

end UnattendedRefresh.Collaborators
