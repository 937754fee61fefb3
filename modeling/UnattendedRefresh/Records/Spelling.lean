import UnattendedRefresh.Json.Value
import UnattendedRefresh.Records

/-!
# Spelling of record states

The states of records and the origin of a refresh travel as fixed upper-case
words. As JSON a state is its word, or a record with the word as its only field
and nothing in it.
-/

namespace UnattendedRefresh

namespace Json

def word? : Json → Option String
  | text word => some word
  | record [(word, null)] => some word
  | _ => none

end Json

namespace NeededAction

def text : NeededAction → String
  | proceed => "PROCEED"
  | blocked => "BLOCKED"

def ofText? : String → Option NeededAction
  | "PROCEED" => some proceed
  | "BLOCKED" => some blocked
  | _ => none

end NeededAction

namespace UserStatus

def text : UserStatus → String
  | active => "ACTIVE"
  | blocked => "BLOCKED"

def ofText? : String → Option UserStatus
  | "ACTIVE" => some active
  | "BLOCKED" => some blocked
  | _ => none

end UserStatus

namespace Origin

def text : Origin → String
  | schedule => "FLYWHEEL"
  | operator => "FLYWHEEL_FORCED"

def ofText? : String → Option Origin
  | "FLYWHEEL" => some schedule
  | "FLYWHEEL_FORCED" => some operator
  | _ => none

end Origin

end UnattendedRefresh
