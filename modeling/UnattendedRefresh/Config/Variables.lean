import UnattendedRefresh.Config.Literal
import UnattendedRefresh.Http.Percent

/-!
# Variables as a layer

Names count without regard to case. A prefix is cut off, and a point in what
remains leads into a nested table. Variables are taken in their order, the later
over the earlier.
-/

namespace UnattendedRefresh.Config

abbrev Variables := List (String × String)

/-- ASCII letters in lower case, everything else as it is. -/
def lowerName (name : List Char) : List Char :=
  name.map Char.toLower

def withoutPrefix? (start : String) (name : String) : Option (List Char) :=
  let lower := lowerName name.toList
  if (lowerName start.toList).isPrefixOf lower then some (lower.drop start.length) else none

/-- The path a name stands for: its pieces up to the first that is empty. -/
def pathOf (name : List Char) : List String :=
  ((Http.splitAt '.' name).takeWhile (! ·.isEmpty)).map String.ofList

/-- Put one variable over a table. A name without a path says nothing. -/
def addVariable (start : String) (below : Table) (binding : String × String) : Table :=
  match withoutPrefix? start binding.1 with
  | none => below
  | some name =>
    match nest (pathOf name) (Literal.read binding.2) with
    | .table above => if (pathOf name).isEmpty then below else mergeEntries below above
    | _ => below

def ofVariables (start : String) (bindings : Variables) : Table :=
  bindings.foldl (addVariable start) []

end UnattendedRefresh.Config
