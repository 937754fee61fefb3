import UnattendedRefresh.Json.Value

/-!
# Configuration values

Configuration comes from several sources as one kind of tree. The keys of a
table ascend; a later layer replaces what an earlier one says, except that
tables are merged key by key.
-/

namespace UnattendedRefresh.Config

inductive Value where
  | empty
  | flag (value : Bool)
  | character (value : Char)
  | text (value : String)
  | natural (value : Nat)
  /-- The integer `-magnitude`, with a magnitude of at least one. -/
  | negative (magnitude : Nat)
  /-- A number that is no integer; nothing in the configuration takes one. -/
  | real
  | list (items : List Value)
  | table (entries : List (String × Value))

abbrev Table := List (String × Value)

namespace Value

instance : Inhabited Value := ⟨empty⟩

def ofInt : Int → Value
  | .ofNat value => natural value
  | .negSucc value => negative (value + 1)

mutual

def ofJson : Json → Value
  | .null => empty
  | .bool value => flag value
  | .natural value => natural value
  | .negative magnitude => negative magnitude
  | .real _ => real
  | .text value => text value
  | .brokenText => empty
  | .list items => list (ofItems items)
  | .record fields => table (ofFields fields)

def ofItems : List Json → List Value
  | [] => []
  | item :: rest => ofJson item :: ofItems rest

def ofFields : List (String × Json) → Table
  | [] => []
  | (name, value) :: rest => insertEntry name (ofJson value) (ofFields rest)

end

end Value

def valueAt? (key : String) (entries : Table) : Option Value :=
  (entries.find? (·.1 = key)).map (·.2)

mutual

/-- A value under the one that a later layer gives. -/
def merge (below : Value) : Value → Value
  | .table above =>
    match below with
    | .table entries => .table (mergeEntries entries above)
    | _ => .table above
  | above => above

def mergeEntries (below : Table) : Table → Table
  | [] => below
  | (key, value) :: rest =>
    let value := match valueAt? key below with
      | some old => merge old value
      | none => value
    mergeEntries (insertEntry key value below) rest

end

def nest : List String → Value → Value
  | [], value => value
  | key :: path, value => .table [(key, nest path value)]

end UnattendedRefresh.Config
