import UnattendedRefresh.Identifier
import UnattendedRefresh.Text.Hexadecimal

/-!
# Spelling identifiers

An identifier is written as 32 lower-case hexadecimal digits in groups of 8, 4,
4, 4 and 12. It is read from that form in either case, from the bare digits, and
from the grouped form in braces or after `urn:uuid:`.
-/

namespace UnattendedRefresh.Identifier

/-- Put hyphens after the digits 8, 12, 16 and 20. -/
def group (bare : List Char) : List Char :=
  bare.take 8 ++ '-' :: (bare.drop 8).take 4 ++ '-' :: (bare.drop 12).take 4
    ++ '-' :: (bare.drop 16).take 4 ++ '-' :: bare.drop 20

def spelling (identifier : Identifier) : List Char :=
  group (Hexadecimal.digits 32 identifier.number)

def text (identifier : Identifier) : String :=
  String.ofList identifier.spelling

instance : ToString Identifier := ⟨text⟩

def readBare? (characters : List Char) : Option Identifier :=
  if characters.length = 32 then (Hexadecimal.numberFrom? 0 characters).map ofNat else none

def ungroup? (characters : List Char) : Option (List Char) :=
  if characters.length = 36 ∧ characters[8]? = some '-' ∧ characters[13]? = some '-'
      ∧ characters[18]? = some '-' ∧ characters[23]? = some '-' then
    some (characters.take 8 ++ (characters.drop 9).take 4 ++ (characters.drop 14).take 4
      ++ (characters.drop 19).take 4 ++ characters.drop 24)
  else
    none

def readGrouped? (characters : List Char) : Option Identifier :=
  (ungroup? characters).bind readBare?

def parse? (characters : List Char) : Option Identifier :=
  if characters.length = 32 then
    readBare? characters
  else if characters.length = 36 then
    readGrouped? characters
  else if characters.length = 38 then
    if characters.head? = some '\x7b' ∧ characters.getLast? = some '\x7d' then
      readGrouped? ((characters.drop 1).take 36)
    else
      none
  else if characters.length = 45 then
    if (characters.take 9).map Char.toLower = "urn:uuid:".toList then
      readGrouped? (characters.drop 9)
    else
      none
  else
    none

def ofText? (source : String) : Option Identifier :=
  parse? source.toList

end UnattendedRefresh.Identifier
