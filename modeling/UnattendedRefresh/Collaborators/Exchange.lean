import UnattendedRefresh.Journal
import UnattendedRefresh.Json.Value
import UnattendedRefresh.Records
import UnattendedRefresh.Url.Reader

/-!
# Exchanges with a collaborator

A request to a collaborator is built, sent, and answered by a response or not at
all. A request that cannot be built is never sent and leaves no trace in the
journal; one that is sent is reported when it starts and when it ends.
-/

namespace UnattendedRefresh.Collaborators

structure OutgoingRequest where
  method : String
  url : Url
  authorization : Option String
  body : Json

structure Reception where
  status : Nat
  body : String
  deriving DecidableEq

namespace Reception

def isSuccess (reception : Reception) : Bool :=
  200 ≤ reception.status && reception.status < 300

def isRejection (reception : Reception) : Bool :=
  400 ≤ reception.status && reception.status < 600

/-- The content; some statuses never carry any. -/
def content (reception : Reception) : String :=
  if reception.status = 204 ∨ reception.status = 304 then "" else reception.body

end Reception

/-- The way to a collaborator: what comes back for a request, unless the
connection fails. -/
abbrev Transport := OutgoingRequest → Option Reception

def Transport.unreachable : Transport := fun _ => none

structure Exchange (Result : Type) where
  sent : List OutgoingRequest
  entries : List Journal.Entry
  result : Result

def join (base path : String) : String :=
  let isSlash (character : Char) : Bool := character = '/'
  String.ofList ((base.toList.reverse.dropWhile isSlash).reverse ++ '/' ::
    path.toList.dropWhile isSlash)

/-- The header that presents a credential. A token with control characters other
than the tab cannot be presented; blanks around the header do not count. -/
def bearer? (credential : Credential) : Option String :=
  let header := "Bearer ".toList ++ credential.accessToken.toList
  if header.any fun character =>
      (character.toNat < 0x20 ∧ character ≠ '\t') ∨ character.toNat = 0x7f then
    none
  else
    let isBlank (character : Char) : Bool := character = ' ' ∨ character = '\t'
    some (String.ofList (Text.trimWhere isBlank header))

/-- Build a request: the address must be one with a host, and the credential one
that can be presented. -/
def build? (base path : String) (credential : Option Credential) (body : Json) :
    Option OutgoingRequest := do
  let url ← Url.ofText? (join base path)
  if url.host.isNone then failure
  let authorization ← match credential with
    | none => some none
    | some credential => (bearer? credential).map some
  return ⟨"POST", url, authorization, body⟩

/-- Only addresses of the web's two schemes can be sent to. -/
def OutgoingRequest.canBeSent (request : OutgoingRequest) : Bool :=
  request.url.scheme = "http" || request.url.scheme = "https"

def endNote : Option Reception → Journal.Entry
  | none => Journal.note .warn "Request errored"
  | some reception =>
    if reception.isSuccess then Journal.note .debug "Request completed"
    else Journal.note .warn "Request failed"

def send (transport : Transport) (draft : Option OutgoingRequest) : Exchange (Option Reception) :=
  match draft with
  | none => ⟨[], [], none⟩
  | some request =>
    let start := Journal.note .trace "Starting request"
    if request.canBeSent then
      let reception := transport request
      ⟨[request], [start, endNote reception], reception⟩
    else
      ⟨[], [start, endNote none], none⟩

inductive Fault where
  | unanswered
  | rejected (status : Nat)
  | unreadable
  deriving DecidableEq

/-- The response to a request, unless none came or it is a rejection. -/
def accepted (reception : Option Reception) : Except Fault Reception :=
  match reception with
  | none => .error .unanswered
  | some reception =>
    if reception.isRejection then .error (.rejected reception.status) else .ok reception

end UnattendedRefresh.Collaborators
