import UnattendedRefresh.Collaborators.Exchange

/-!
# A collaborator with prepared replies

The first reply whose marker occurs in the target of a request answers it.
-/

namespace UnattendedRefresh.Rehearsal

structure PreparedReply where
  marker : String
  reception : Collaborators.Reception
  /-- The connection breaks off once the request has come in. -/
  breaksOff : Bool

def occursIn (piece : List Char) : List Char → Bool
  | [] => piece.isEmpty
  | character :: rest => piece.isPrefixOf (character :: rest) || occursIn piece rest

/-- The way to such a collaborator. Without a reply it knows of nothing there. -/
def transportOf (replies : List PreparedReply) : Collaborators.Transport := fun request =>
  match replies.find? fun reply => occursIn reply.marker.toList request.url.target.toList with
  | some reply => if reply.breaksOff then none else some reply.reception
  | none => some ⟨404, ""⟩

end UnattendedRefresh.Rehearsal
