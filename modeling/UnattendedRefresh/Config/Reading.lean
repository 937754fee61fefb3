import UnattendedRefresh.Config.Value
import UnattendedRefresh.Identifier.Spelling

/-!
# Reading typed values

A reader takes a configuration value or says what is wrong with it, and where.
Nothing is converted: a text is never taken for a number, nor a real number for
an integer.
-/

namespace UnattendedRefresh.Config

inductive FaultKind where
  | invalidType
  /-- An integer does not fit. -/
  | invalidValue
  | missingField (name : String)
  /-- The value has the right type but does not read. -/
  | message
  deriving DecidableEq

structure Fault where
  kind : FaultKind
  path : List String
  deriving DecidableEq

namespace Fault

def here (kind : FaultKind) : Fault :=
  ⟨kind, []⟩

def under (key : String) (fault : Fault) : Fault :=
  { fault with path := key :: fault.path }

def key (fault : Fault) : String :=
  ".".intercalate fault.path

end Fault

abbrev Reading (Kind : Type) := Except Fault Kind

def readAt {Kind : Type} (key : String) (reading : Reading Kind) : Reading Kind :=
  reading.mapError (Fault.under key)

def readFlag : Value → Reading Bool
  | .flag value => .ok value
  | _ => .error (Fault.here .invalidType)

def readText : Value → Reading String
  | .text value => .ok value
  | .character value => .ok value.toString
  | _ => .error (Fault.here .invalidType)

def readNatural (bound : Nat) : Value → Reading Nat
  | .natural value =>
    if value < bound then .ok value else .error (Fault.here .invalidValue)
  | .negative _ => .error (Fault.here .invalidValue)
  | _ => .error (Fault.here .invalidType)

def readOptionalText : Value → Reading (Option String)
  | .empty => .ok none
  | value => (readText value).map some

def readTextsFrom (position : Nat) : List Value → Reading (List String)
  | [] => .ok []
  | item :: rest => do
    let item ← readAt (toString position) (readText item)
    let rest ← readTextsFrom (position + 1) rest
    return item :: rest

def readTextSet : Value → Reading (OrderedSet String)
  | .list items => (readTextsFrom 0 items).map OrderedSet.ofList
  | _ => .error (Fault.here .invalidType)

def readRates : Table → Reading (List (Identifier × UInt32))
  | [] => .ok []
  | (key, value) :: rest => do
    let entry ← readAt key <|
      match Identifier.ofText? key with
      | none => .error (Fault.here .message)
      | some identifier =>
        (readNatural UInt32.size value).map fun rate => (identifier, UInt32.ofNat rate)
    let rest ← readRates rest
    return entry :: rest

/-- Read a table from identifiers to numbers; of two keys for one identifier the
later holds. -/
def readRateTable : Value → Reading (OrderedMap Identifier UInt32)
  | .table entries => (readRates entries).map OrderedMap.ofList
  | _ => .error (Fault.here .invalidType)

end UnattendedRefresh.Config
