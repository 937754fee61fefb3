import UnattendedRefresh.Collaborators.Exchange
import UnattendedRefresh.Identifier.Spelling
import UnattendedRefresh.Procedure
import UnattendedRefresh.Records.Spelling

/-!
# The site-management service

Refreshes the sites of one user. It answers when the refresh has ended.
-/

namespace UnattendedRefresh.Collaborators.SiteManagement

def message : Fault → String
  | .unanswered => "bulk refresh request failed"
  | _ => "bulk refresh rejected"

def orderJson (order : RefreshOrder) : Json :=
  .record
    [("userSiteIds", .list (order.sites.map fun site => .text site.id.text)),
     ("oneOff", .bool order.oneOff),
     ("origin", .text order.origin.text)]

def request? (base : String) (order : RefreshOrder) : Option OutgoingRequest :=
  build? base ("internal/users/" ++ order.userId.text ++ "/user-sites/refresh")
    (some order.credential) (orderJson order)

def refresh (transport : Transport) (base : String) (order : RefreshOrder) :
    Exchange (Except Fault Unit) :=
  let exchange := send transport (request? base order)
  { sent := exchange.sent
    entries := exchange.entries
    result := (accepted exchange.result).map fun _ => () }

end UnattendedRefresh.Collaborators.SiteManagement
