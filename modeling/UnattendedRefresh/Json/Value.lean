import UnattendedRefresh.Ordered

/-!
# JSON values

Numbers keep the distinction that typed readers depend on: integers that fit
64 bits, with or without a sign, and every other literal. Records keep their
fields as written, repeats included; each reader decides what a repeat means.
-/

namespace UnattendedRefresh

inductive Json where
  | null
  | bool (value : Bool)
  /-- An unsigned integer below `2 ^ 64`. -/
  | natural (value : Nat)
  /-- The integer `-magnitude`, with a magnitude from `1` to `2 ^ 63`. -/
  | negative (magnitude : Nat)
  /-- Any other number, as it was written. -/
  | real (literal : String)
  | text (value : String)
  /-- A string with half of a surrogate pair: valid only where it is skipped. -/
  | brokenText
  | list (items : List Json)
  | record (fields : List (String × Json))

namespace Json

instance : Inhabited Json := ⟨null⟩

def ofInt : Int → Json
  | .ofNat value => natural value
  | .negSucc value => negative (value + 1)

/-- The last value written for a field. -/
def field? (name : String) : Json → Option Json
  | record fields => (fields.reverse.find? (fun entry => entry.1 = name)).map (·.2)
  | _ => none

def fieldOrNull (value : Json) (name : String) : Json :=
  (value.field? name).getD null

mutual

/-- The same value with the fields of every record in the order of their names. -/
def sortFields : Json → Json
  | list items => list (sortItems items)
  | record fields => record (OrderedMap.ofList (sortEntries fields)).entries
  | value => value

def sortItems : List Json → List Json
  | [] => []
  | item :: rest => sortFields item :: sortItems rest

def sortEntries : List (String × Json) → List (String × Json)
  | [] => []
  | (name, value) :: rest => (name, sortFields value) :: sortEntries rest

end

end Json

end UnattendedRefresh
