import UnattendedRefresh.Config.Variables
import UnattendedRefresh.Environment.Assignment
import UnattendedRefresh.Environment.Lines

/-!
# Variables from a file

A file can set variables that are not set yet. Its lines are taken in turn until
one of them is none; what was set before stays set.
-/

namespace UnattendedRefresh.Environment

open Config (Variables)

def isSet (bindings : Variables) (name : String) : Bool :=
  bindings.any (·.1 = name)

def value? (bindings : Variables) (name : String) : Option String :=
  (bindings.find? (·.1 = name)).map (·.2)

/-- The variables that are set, and the latest value the file assigned to each
name. -/
structure Progress where
  bindings : Variables
  assigned : Variables

namespace Progress

/-- A variable that is set counts before what the file assigned. -/
def lookup (progress : Progress) (name : String) : String :=
  ((value? progress.bindings name).orElse fun () => value? progress.assigned name).getD ""

/-- Assign a value; a variable that is set keeps its own. -/
def assign (progress : Progress) (name value : String) : Progress :=
  { bindings :=
      if isSet progress.bindings name then progress.bindings
      else progress.bindings ++ [(name, value)]
    assigned := (name, value) :: progress.assigned }

def take (progress : Progress) : List Line → Progress
  | [] => progress
  | .unfinished :: _ => progress
  | .line text :: rest =>
    match readLine progress.lookup text with
    | .nothing => progress.take rest
    | .assignment name value => (progress.assign name value).take rest
    | .bad => progress

end Progress

def withFile (bindings : Variables) (file : Option String) : Variables :=
  match file with
  | none => bindings
  | some content => (Progress.take ⟨bindings, []⟩ (linesOf content)).bindings

end UnattendedRefresh.Environment
