import UnattendedRefresh.Json.Value
import UnattendedRefresh.Text.Decimal
import UnattendedRefresh.Text.Hexadecimal

/-!
# Reading JSON

A strict reader: one value, blanks around it, nothing else. Each step takes the
characters that are left and returns what it read with what then remains.
-/

namespace UnattendedRefresh.Json

def hexUnit? (first second third fourth : Char) : Option Nat :=
  Hexadecimal.numberFrom? 0 [first, second, third, fourth]

def skipBlanks : List Char → List Char
  | [] => []
  | character :: rest =>
    if character = ' ' ∨ character = '\t' ∨ character = '\n' ∨ character = '\r' then
      skipBlanks rest
    else
      character :: rest

def simpleEscape? : Char → Option Char
  | '"' => some '"'
  | '\\' => some '\\'
  | '/' => some '/'
  | 'b' => some '\x08'
  | 'f' => some '\x0c'
  | 'n' => some '\n'
  | 'r' => some '\r'
  | 't' => some '\t'
  | _ => none

/-- What a string literal holds: its text, unless half a surrogate pair broke it. -/
structure Literal where
  reversed : List Char
  broken : Bool

namespace Literal

def empty : Literal := ⟨[], false⟩

def push (literal : Literal) (character : Char) : Literal :=
  { literal with reversed := character :: literal.reversed }

def spoil (literal : Literal) : Literal :=
  { literal with broken := true }

def text? (literal : Literal) : Option String :=
  if literal.broken then none else some (String.ofList literal.reversed.reverse)

end Literal

/-- Add a sixteen-bit unit given by an escape, joined with the low half of its
pair if that follows. -/
def pushUnit (literal : Literal) (unit : Nat) (rest : List Char) : Literal × List Char :=
  if 0xD800 ≤ unit ∧ unit < 0xDC00 then
    match rest with
    | '\\' :: 'u' :: first :: second :: third :: fourth :: remaining =>
      match hexUnit? first second third fourth with
      | some low =>
        if 0xDC00 ≤ low ∧ low < 0xE000 then
          (literal.push (Char.ofNat (0x10000 + (unit - 0xD800) * 0x400 + (low - 0xDC00))),
            remaining)
        else
          (literal.spoil, rest)
      | none => (literal.spoil, rest)
    | _ => (literal.spoil, rest)
  else if 0xDC00 ≤ unit ∧ unit < 0xE000 then
    (literal.spoil, rest)
  else
    (literal.push (Char.ofNat unit), rest)

def readLiteral : Nat → Literal → List Char → Option (Literal × List Char)
  | 0, _, _ => none
  | _, _, [] => none
  | _ + 1, literal, '"' :: rest => some (literal, rest)
  | fuel + 1, literal, '\\' :: 'u' :: first :: second :: third :: fourth :: rest =>
    match hexUnit? first second third fourth with
    | some unit =>
      let (literal, rest) := pushUnit literal unit rest
      readLiteral fuel literal rest
    | none => none
  | fuel + 1, literal, '\\' :: letter :: rest =>
    match simpleEscape? letter with
    | some character => readLiteral fuel (literal.push character) rest
    | none => none
  | fuel + 1, literal, character :: rest =>
    if character.toNat < 0x20 ∨ character = '\\' then none
    else readLiteral fuel (literal.push character) rest

/-- A fraction at the front: a point and at least one digit, or nothing. -/
def takeFraction : List Char → Option (List Char × List Char)
  | '.' :: rest =>
    match Decimal.takeDigits rest with
    | ([], _) => none
    | (digits, rest) => some ('.' :: digits, rest)
  | rest => some ([], rest)

/-- An exponent at the front: its letter, a sign or none, at least one digit; or nothing. -/
def takeExponent : List Char → Option (List Char × List Char)
  | letter :: rest =>
    if letter = 'e' ∨ letter = 'E' then
      let (sign, rest) := match rest with
        | '+' :: rest => (['+'], rest)
        | '-' :: rest => (['-'], rest)
        | rest => ([], rest)
      match Decimal.takeDigits rest with
      | ([], _) => none
      | (digits, rest) => some (letter :: sign ++ digits, rest)
    else
      some ([], letter :: rest)
  | [] => some ([], [])

def numberOf (negated : Bool) (whole fraction exponent : List Char) : Json :=
  let literal := String.ofList ((if negated then ['-'] else []) ++ whole ++ fraction ++ exponent)
  let magnitude := Decimal.value whole
  if fraction.isEmpty ∧ exponent.isEmpty then
    if negated then
      if 1 ≤ magnitude ∧ magnitude ≤ 1 <<< 63 then negative magnitude else real literal
    else if magnitude < UInt64.size then natural magnitude
    else real literal
  else
    real literal

def readNumber (characters : List Char) : Option (Json × List Char) := do
  let (negated, rest) := match characters with
    | '-' :: rest => (true, rest)
    | rest => (false, rest)
  let (whole, rest) := Decimal.takeDigits rest
  if whole.isEmpty ∨ (whole.length ≠ 1 ∧ whole.head? = some '0') then none
  let (fraction, rest) ← takeFraction rest
  let (exponent, rest) ← takeExponent rest
  return (numberOf negated whole fraction exponent, rest)

/-- A string after its opening quote; no content if it is broken. -/
def readText (characters : List Char) : Option (Option String × List Char) :=
  (readLiteral (characters.length + 1) Literal.empty characters).map
    (fun (literal, rest) => (literal.text?, rest))

mutual

def readValue : Nat → List Char → Option (Json × List Char)
  | 0, _ => none
  | fuel + 1, characters =>
    match skipBlanks characters with
    | 'n' :: 'u' :: 'l' :: 'l' :: rest => some (null, rest)
    | 't' :: 'r' :: 'u' :: 'e' :: rest => some (bool true, rest)
    | 'f' :: 'a' :: 'l' :: 's' :: 'e' :: rest => some (bool false, rest)
    | '"' :: rest =>
      (readText rest).map (fun (content, rest) => (content.elim brokenText text, rest))
    | '[' :: rest =>
      match skipBlanks rest with
      | ']' :: rest => some (list [], rest)
      | rest => readItems fuel [] rest
    | '{' :: rest =>
      match skipBlanks rest with
      | '}' :: rest => some (record [], rest)
      | rest => readFields fuel [] rest
    | rest => readNumber rest

/-- The items of a list up to its closing bracket; `earlier` holds those read, latest first. -/
def readItems : Nat → List Json → List Char → Option (Json × List Char)
  | 0, _, _ => none
  | fuel + 1, earlier, characters =>
    match readValue fuel characters with
    | none => none
    | some (item, rest) =>
      match skipBlanks rest with
      | ',' :: rest => readItems fuel (item :: earlier) rest
      | ']' :: rest => some (list (item :: earlier).reverse, rest)
      | _ => none

def readFields : Nat → List (String × Json) → List Char → Option (Json × List Char)
  | 0, _, _ => none
  | fuel + 1, earlier, characters =>
    match skipBlanks characters with
    | '"' :: rest =>
      match readText rest with
      | some (some name, rest) =>
        match skipBlanks rest with
        | ':' :: rest =>
          match readValue fuel rest with
          | none => none
          | some (value, rest) =>
            match skipBlanks rest with
            | ',' :: rest => readFields fuel ((name, value) :: earlier) rest
            | '}' :: rest => some (record ((name, value) :: earlier).reverse, rest)
            | _ => none
        | _ => none
      | _ => none
    | _ => none

end

def read (source : String) : Option Json :=
  let characters := source.toList
  match readValue (2 * characters.length + 2) characters with
  | some (value, rest) => if (skipBlanks rest).isEmpty then some value else none
  | none => none

end UnattendedRefresh.Json
