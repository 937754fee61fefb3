import UnattendedRefresh.Config.Value
import UnattendedRefresh.Text.Blank
import UnattendedRefresh.Text.Decimal
import UnattendedRefresh.Text.Hexadecimal

/-!
# Values written in variables

A variable holds a flag, a number, a quoted text, a character in single quotes,
a list in brackets or a table in braces. Whatever does not read as one of these
to its end is a text as it stands.
-/

namespace UnattendedRefresh.Config.Literal

def isBlank (character : Char) : Bool :=
  character = ' ' || character = '\t' || character = '\n' || character = '\r'
    || character = '\x0c'

def skipBlanks (characters : List Char) : List Char :=
  characters.dropWhile isBlank

/-- The characters that end a bare value. -/
def isSeparator (character : Char) : Bool :=
  character = ',' || character = '\x7b' || character = '\x7d' || character = '['
    || character = ']'

def isKeyCharacter (character : Char) : Bool :=
  (character.toNat < 128 && character.isAlphanum) || character = '_' || character = '-'

def scalar? (digits : List Char) : Option Char :=
  (Hexadecimal.numberFrom? 0 digits).bind fun code =>
    if code < 0xD800 ∨ (0xE000 ≤ code ∧ code < 0x110000) then some (Char.ofNat code) else none

/-- A character that may stand in a quoted text as it is. -/
def isPlain (character : Char) : Bool :=
  character = '\t' || (0x20 ≤ character.toNat && character.toNat ≠ 0x7f)

/-- The rest of a quoted text after its opening quote; what was read so far comes
in reverse. -/
def readQuoted : List Char → List Char → Option (String × List Char)
  | _, [] => none
  | read, '"' :: rest => some (String.ofList read.reverse, rest)
  | read, '\\' :: 'u' :: a :: b :: c :: d :: rest =>
    match scalar? [a, b, c, d] with
    | some character => readQuoted (character :: read) rest
    | none => none
  | read, '\\' :: 'U' :: a :: b :: c :: d :: e :: f :: g :: h :: rest =>
    match scalar? [a, b, c, d, e, f, g, h] with
    | some character => readQuoted (character :: read) rest
    | none => none
  | read, '\\' :: '"' :: rest => readQuoted ('"' :: read) rest
  | read, '\\' :: '\\' :: rest => readQuoted ('\\' :: read) rest
  | read, '\\' :: 'b' :: rest => readQuoted ('\x08' :: read) rest
  | read, '\\' :: 'f' :: rest => readQuoted ('\x0c' :: read) rest
  | read, '\\' :: 'n' :: rest => readQuoted ('\n' :: read) rest
  | read, '\\' :: 'r' :: rest => readQuoted ('\r' :: read) rest
  | read, '\\' :: 't' :: rest => readQuoted ('\t' :: read) rest
  | read, character :: rest =>
    if character ≠ '\\' ∧ isPlain character then readQuoted (character :: read) rest else none

/-- A number with a point: digits on at least one side, perhaps an exponent. -/
def isReal (characters : List Char) : Bool :=
  let unsigned := match characters with
    | '+' :: rest => rest
    | '-' :: rest => rest
    | rest => rest
  let (whole, rest) := Decimal.takeDigits unsigned
  let (fraction, rest) := match rest with
    | '.' :: rest => Decimal.takeDigits rest
    | rest => ([], rest)
  let exponentIsGood := match rest with
    | [] => true
    | letter :: rest =>
      let digits := match rest with
        | '+' :: rest => rest
        | '-' :: rest => rest
        | rest => rest
      (letter = 'e' || letter = 'E') && (Decimal.natural? digits).isSome
  characters.contains '.' && (! whole.isEmpty || ! fraction.isEmpty) && exponentIsGood

def ofBare (word : List Char) : Value :=
  if isReal word then .real
  else
    match Decimal.unsigned? UInt64.size word with
    | some value => .natural value
    | none =>
      match word with
      | '-' :: digits =>
        match (Decimal.natural? digits).filter (· ≤ 1 <<< 63) with
        | some magnitude => Value.ofInt (-(magnitude : Int))
        | none => .text (String.ofList word)
      | _ => .text (String.ofList word)

mutual

def readValue : Nat → List Char → Option (Value × List Char)
  | 0, _ => none
  | fuel + 1, characters =>
    let found : Option (Value × List Char) := match skipBlanks characters with
      | 't' :: 'r' :: 'u' :: 'e' :: rest => some (.flag true, rest)
      | 'f' :: 'a' :: 'l' :: 's' :: 'e' :: rest => some (.flag false, rest)
      | '\x7b' :: rest => readTable fuel [] rest
      | '[' :: rest => readList fuel [] rest
      | '"' :: rest => (readQuoted [] rest).map fun (content, rest) => (.text content, rest)
      | '\'' :: rest =>
        match rest with
        | character :: '\'' :: rest => some (.character character, rest)
        | _ => none
      | bare =>
        let (word, rest) := bare.span (! isSeparator ·)
        some (ofBare (Text.trim word), rest)
    found.map fun (value, rest) => (value, skipBlanks rest)

/-- The items of a list; a comma may follow the last. -/
def readList : Nat → List Value → List Char → Option (Value × List Char)
  | 0, _, _ => none
  | _ + 1, earlier, ']' :: rest => some (.list earlier.reverse, rest)
  | fuel + 1, earlier, characters =>
    match readValue fuel characters with
    | some (item, ',' :: rest) => readList fuel (item :: earlier) rest
    | some (item, ']' :: rest) => some (.list (item :: earlier).reverse, rest)
    | _ => none

/-- The entries of a table; a comma may follow the last. -/
def readTable : Nat → Table → List Char → Option (Value × List Char)
  | 0, _, _ => none
  | _ + 1, earlier, '\x7d' :: rest => some (.table earlier, rest)
  | fuel + 1, earlier, characters =>
    let key := match skipBlanks characters with
      | '"' :: rest => readQuoted [] rest
      | bare =>
        match bare.span isKeyCharacter with
        | ([], _) => none
        | (word, rest) => some (String.ofList word, rest)
    match key with
    | some (key, rest) =>
      match skipBlanks rest with
      | '=' :: rest =>
        match readValue fuel rest with
        | some (value, ',' :: rest) => readTable fuel (insertEntry key value earlier) rest
        | some (value, '\x7d' :: rest) => some (.table (insertEntry key value earlier), rest)
        | _ => none
      | _ => none
    | none => none

end

def read (source : String) : Value :=
  let characters := source.toList
  match readValue (2 * characters.length + 2) characters with
  | some (value, []) => value
  | _ => .text source

end UnattendedRefresh.Config.Literal
