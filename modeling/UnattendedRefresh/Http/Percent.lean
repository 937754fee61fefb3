import UnattendedRefresh.Text.Hexadecimal

/-!
# Percent-encoded text

Bytes written as a percent sign and two hexadecimal digits, and the text that
the bytes spell. A percent sign without two digits stands for itself.
-/

namespace UnattendedRefresh.Http

def byteOf? (high low : Char) : Option UInt8 :=
  (Hexadecimal.numberFrom? 0 [high, low]).map UInt8.ofNat

def decodePercent : List Char → List UInt8
  | '%' :: high :: low :: rest =>
    match byteOf? high low with
    | some byte => byte :: decodePercent rest
    | none => String.utf8EncodeChar '%' ++ decodePercent (high :: low :: rest)
  | character :: rest => String.utf8EncodeChar character ++ decodePercent rest
  | [] => []

def isControl (character : Char) : Bool :=
  character.toNat < 0x20 || 0x7e < character.toNat

def encodeByte (byte : UInt8) : List Char :=
  '%' :: (Hexadecimal.digits 2 byte.toNat).map Char.toUpper

/-- Write the bytes of the characters that pass the test as percent and digits. -/
def encodePercent (encoded : Char → Bool) (text : List Char) : List Char :=
  text.flatMap fun character =>
    if encoded character then (String.utf8EncodeChar character).flatMap encodeByte
    else [character]

def textOfBytes? (bytes : List UInt8) : Option String :=
  String.fromUTF8? ⟨bytes.toArray⟩

/-- Decode a piece of a form: a plus sign is a blank. -/
def decodeForm? (piece : List Char) : Option String :=
  textOfBytes? (decodePercent (piece.map fun character =>
    if character = '+' then ' ' else character))

def splitAt (separator : Char) : List Char → List (List Char)
  | [] => [[]]
  | character :: rest =>
    match splitAt separator rest with
    | [] => [[character]]
    | piece :: pieces =>
      if character = separator then [] :: piece :: pieces else (character :: piece) :: pieces

def cutAt (separator : Char) (characters : List Char) : List Char × List Char :=
  (characters.takeWhile (· ≠ separator), (characters.dropWhile (· ≠ separator)).drop 1)

/-- The name and value pairs of a query, decoded where they spell text. -/
def formPairs (query : List Char) : List (Option String × Option String) :=
  ((splitAt '&' query).filter (! ·.isEmpty)).map fun piece =>
    let (name, value) := cutAt '=' piece
    (decodeForm? name, decodeForm? value)

end UnattendedRefresh.Http
