import UnattendedRefresh.Http.Percent
import UnattendedRefresh.Text.Decimal

/-!
# Hosts

A host is a name or an address. In the schemes of the web a name that ends in a
number must be an address of four bytes, in any of its spellings; in brackets
stands an address of eight pieces of sixteen bits.
-/

namespace UnattendedRefresh.Url

inductive Host where
  | name (name : List Char)
  | fourBytes (number : Nat)
  | eightPieces (pieces : List Nat)
  deriving DecidableEq

namespace Host

/-! ### Addresses of four bytes -/

/-- The number a part of an address spells: in base sixteen after `0x`, in base
eight after another leading zero, else in base ten. -/
def part? : List Char → Option Nat
  | '0' :: 'x' :: digits => Hexadecimal.numberFrom? 0 digits
  | '0' :: 'X' :: digits => Hexadecimal.numberFrom? 0 digits
  | '0' :: second :: digits =>
    if (second :: digits).all fun digit => '0' ≤ digit ∧ digit ≤ '7' then
      some ((second :: digits).foldl (fun number digit => number * 8 + Decimal.digitValue digit) 0)
    else
      none
  | digits => Decimal.natural? digits

/-- The parts between the points; a point at the end separates nothing. -/
def partsOf (name : List Char) : List (List Char) :=
  match (Http.splitAt '.' name).reverse with
  | [] :: rest => rest.reverse
  | parts => parts.reverse

/-- Whether a name claims to be an address of four bytes. -/
def endsInNumber (name : List Char) : Bool :=
  match (partsOf name).getLast? with
  | none => false
  | some last => (! last.isEmpty && last.all Char.isDigit) || (part? last).isSome

/-- The number of an address whose last part fills all bytes that are left. -/
def assemble? : List Nat → Option Nat
  | [] => none
  | parts =>
    let leading := parts.dropLast
    let last := parts.getLast?.getD 0
    if parts.length ≤ 4 ∧ leading.all (· < 256) ∧ last < Nat.pow 256 (5 - parts.length) then
      some (leading.zipIdx.foldl
        (fun number (part, place) => number + part * Nat.pow 256 (3 - place)) last)
    else
      none

def fourBytes? (name : List Char) : Option Nat :=
  ((partsOf name).mapM part?).bind assemble?

/-! ### Addresses of eight pieces -/

def piece? (digits : List Char) : Option Nat :=
  if digits.isEmpty ∨ 4 < digits.length then none else Hexadecimal.numberFrom? 0 digits

/-- A byte in base ten, without leading zeros. -/
def byte? (digits : List Char) : Option Nat :=
  if 1 < digits.length ∧ digits.head? = some '0' then none
  else (Decimal.natural? digits).filter (· < 256)

/-- Four bytes at the end of an address stand for two pieces. -/
def lastPieces? (text : List Char) : Option (List Nat) :=
  if text.contains '.' then
    match (Http.splitAt '.' text).mapM byte? with
    | some [first, second, third, fourth] => some [first * 256 + second, third * 256 + fourth]
    | _ => none
  else
    (piece? text).map ([·])

def pieces? (text : List Char) : Option (List Nat) :=
  if text.isEmpty then some []
  else
    let parts := Http.splitAt ':' text
    do
      let leading ← parts.dropLast.mapM piece?
      let last ← lastPieces? (parts.getLast?.getD [])
      return leading ++ last

def atGap? : List Char → Option (List Char × List Char)
  | ':' :: ':' :: rest => some ([], rest)
  | character :: rest => (atGap? rest).map fun (before, after) => (character :: before, after)
  | [] => none

/-- Two colons in a row stand, once, for at least one piece that is zero. -/
def eightPieces? (text : List Char) : Option (List Nat) :=
  match atGap? text with
  | none => (pieces? text).filter (·.length = 8)
  | some (before, after) =>
    if before.contains '.' then none
    else do
      let leading ← pieces? before
      let trailing ← pieces? after
      let missing := 8 - leading.length - trailing.length
      if missing = 0 then none
      else some (leading ++ List.replicate missing 0 ++ trailing)

def bracketed? (text : List Char) : Option Host :=
  match text.reverse with
  | ']' :: reversed => (eightPieces? reversed.reverse).map eightPieces
  | _ => none

/-! ### Names -/

def isForbidden (character : Char) : Bool :=
  character.toNat = 0 || "\t\n\r #/:<>?@[\\]^|".contains character

def isForbiddenOnWeb (character : Char) : Bool :=
  isForbidden character || character.toNat ≤ 0x1f || character = '%' || character.toNat = 0x7f

def onWeb? : List Char → Option Host
  | '[' :: rest => bracketed? rest
  | text => do
    let decoded ← Http.textOfBytes? (Http.decodePercent text)
    let spelling := decoded.toList.map Char.toLower
    if spelling.isEmpty ∨ spelling.any isForbiddenOnWeb then none
    else if endsInNumber spelling then (fourBytes? spelling).map fourBytes
    else some (name spelling)

def elsewhere? : List Char → Option Host
  | '[' :: rest => bracketed? rest
  | text =>
    if text.any isForbidden then none
    else some (name (Http.encodePercent Http.isControl text))

end Host

end UnattendedRefresh.Url
