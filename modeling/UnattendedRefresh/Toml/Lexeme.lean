import UnattendedRefresh.Config.Literal

/-!
# Words of a settings file

Strings in their four forms, numbers, dates and times, keys, comments. Each
reader takes the characters that are left and returns what it read with what
then remains.
-/

namespace UnattendedRefresh.Toml

def skipBlanks (characters : List Char) : List Char :=
  characters.dropWhile fun character => character = ' ' || character = '\t'

def takeNewline? : List Char → Option (List Char)
  | '\n' :: rest => some rest
  | '\r' :: '\n' :: rest => some rest
  | _ => none

/-- A character that may stand in comments and texts: a tab or no control. -/
def isPlain (character : Char) : Bool :=
  character = '\t' || (0x20 ≤ character.toNat && character.toNat ≠ 0x7f)

def skipComment : List Char → List Char
  | '#' :: rest => rest.dropWhile isPlain
  | rest => rest

/-- The end of a line: blanks, perhaps a comment, then a line end or the end of
the file. -/
def endLine? (characters : List Char) : Option (List Char) :=
  match skipComment (skipBlanks characters) with
  | [] => some []
  | rest => takeNewline? rest

def skipLines : Nat → List Char → List Char
  | 0, characters => characters
  | fuel + 1, characters =>
    let rest := skipBlanks characters
    match takeNewline? (skipComment rest) with
    | some rest => skipLines fuel rest
    | none => rest

/-! ### Strings -/

def takeEscape? : List Char → Option (Char × List Char)
  | 'b' :: rest => some ('\x08', rest)
  | 't' :: rest => some ('\t', rest)
  | 'n' :: rest => some ('\n', rest)
  | 'f' :: rest => some ('\x0c', rest)
  | 'r' :: rest => some ('\r', rest)
  | '"' :: rest => some ('"', rest)
  | '\\' :: rest => some ('\\', rest)
  | 'u' :: a :: b :: c :: d :: rest =>
    (Config.Literal.scalar? [a, b, c, d]).map fun character => (character, rest)
  | 'U' :: a :: b :: c :: d :: e :: f :: g :: h :: rest =>
    (Config.Literal.scalar? [a, b, c, d, e, f, g, h]).map fun character => (character, rest)
  | _ => none

/-- A one-line string with escapes, after its quote. -/
def readBasic : Nat → List Char → List Char → Option (String × List Char)
  | 0, _, _ => none
  | _, _, [] => none
  | _ + 1, read, '"' :: rest => some (String.ofList read.reverse, rest)
  | fuel + 1, read, '\\' :: rest =>
    match takeEscape? rest with
    | some (character, rest) => readBasic fuel (character :: read) rest
    | none => none
  | fuel + 1, read, character :: rest =>
    if isPlain character then readBasic fuel (character :: read) rest else none

/-- A one-line string without escapes, after its quote. -/
def readLiteral : List Char → List Char → Option (String × List Char)
  | _, [] => none
  | read, '\'' :: rest => some (String.ofList read.reverse, rest)
  | read, character :: rest =>
    if isPlain character then readLiteral (character :: read) rest else none

def countQuotes (quote : Char) : List Char → Nat × List Char
  | [] => (0, [])
  | character :: rest =>
    if character = quote then
      let (count, rest) := countQuotes quote rest
      (count + 1, rest)
    else
      (0, character :: rest)

def skipBlankLines : Nat → List Char → List Char
  | 0, characters => characters
  | fuel + 1, characters =>
    let rest := skipBlanks characters
    match takeNewline? rest with
    | some rest => skipBlankLines fuel rest
    | none => rest

/-- After a backslash that ends a line: everything up to the next character that
is neither blank nor line end. -/
def takeContinuation? (characters : List Char) : Option (List Char) :=
  (takeNewline? (skipBlanks characters)).map (skipBlankLines characters.length)

/-- A string over several lines, after its three quotes: up to two quotes may
stand inside or before the closing three. -/
def readLines (quote : Char) (escapes : Bool) :
    Nat → List Char → List Char → Option (String × List Char)
  | 0, _, _ => none
  | _, _, [] => none
  | fuel + 1, read, character :: rest =>
    if character = quote then
      let (count, after) := countQuotes quote (character :: rest)
      if count < 3 then readLines quote escapes fuel (List.replicate count quote ++ read) after
      else if count ≤ 5 then
        some (String.ofList (List.replicate (count - 3) quote ++ read).reverse, after)
      else none
    else if escapes ∧ character = '\\' then
      match takeEscape? rest with
      | some (character, rest) => readLines quote escapes fuel (character :: read) rest
      | none =>
        match takeContinuation? rest with
        | some rest => readLines quote escapes fuel read rest
        | none => none
    else
      match takeNewline? (character :: rest) with
      | some rest => readLines quote escapes fuel ('\n' :: read) rest
      | none =>
        if isPlain character then readLines quote escapes fuel (character :: read) rest
        else none

/-- A line end right after the opening quotes does not count. -/
def dropFirstNewline (characters : List Char) : List Char :=
  (takeNewline? characters).getD characters

def readString (characters : List Char) : Option (String × List Char) :=
  let fuel := characters.length + 1
  match characters with
  | '"' :: '"' :: '"' :: rest => readLines '"' true fuel [] (dropFirstNewline rest)
  | '"' :: rest => readBasic fuel [] rest
  | '\'' :: '\'' :: '\'' :: rest => readLines '\'' false fuel [] (dropFirstNewline rest)
  | '\'' :: rest => readLiteral [] rest
  | _ => none

/-! ### Keys -/

def readKeyPiece (characters : List Char) : Option (String × List Char) :=
  match characters with
  | '"' :: rest => readBasic (characters.length + 1) [] rest
  | '\'' :: rest => readLiteral [] rest
  | bare =>
    match bare.span Config.Literal.isKeyCharacter with
    | ([], _) => none
    | (word, rest) => some (String.ofList word, rest)

def depthLimit : Nat := 80

/-- A key: pieces joined by points, blanks around each. -/
def readKey : Nat → List Char → Option (List String × List Char)
  | 0, _ => none
  | fuel + 1, characters =>
    match readKeyPiece (skipBlanks characters) with
    | none => none
    | some (piece, rest) =>
      match skipBlanks rest with
      | '.' :: rest => (readKey fuel rest).map fun (pieces, rest) => (piece :: pieces, rest)
      | rest => some ([piece], rest)

/-! ### Numbers -/

/-- Digits of a base, with single underscores between them. -/
def takeDigits (isDigit : Char → Bool) : List Char → List Char × List Char
  | [] => ([], [])
  | digit :: rest =>
    if isDigit digit then
      match rest with
      | '_' :: next :: more =>
        if isDigit next then
          let (digits, rest) := takeDigits isDigit (next :: more)
          (digit :: digits, rest)
        else
          ([digit], rest)
      | rest =>
        let (digits, rest) := takeDigits isDigit rest
        (digit :: digits, rest)
    else
      ([], digit :: rest)

/-- A sign at the front, true for minus, and whether there is one. -/
def takeSign : List Char → Bool × Bool × List Char
  | '+' :: rest => (false, true, rest)
  | '-' :: rest => (true, true, rest)
  | rest => (false, false, rest)

def takeWhole (characters : List Char) : Option (List Char × List Char) :=
  match characters with
  | '0' :: rest => some (['0'], rest)
  | rest =>
    match takeDigits Char.isDigit rest with
    | ([], _) => none
    | (digits, rest) => some (digits, rest)

/-- A fraction and an exponent, of which at least one is there: the digits after
the point and the exponent's sign and digits. -/
def takeFractionExponent (characters : List Char) :
    Option (List Char × Bool × List Char × List Char) :=
  let fraction : Option (List Char × List Char) := match characters with
    | '.' :: rest =>
      match takeDigits Char.isDigit rest with
      | ([], _) => none
      | (digits, rest) => some (digits, rest)
    | rest => some ([], rest)
  match fraction with
  | none => none
  | some (fraction, rest) =>
    match rest with
    | letter :: rest =>
      if letter = 'e' ∨ letter = 'E' then
        let (negated, _, rest) := takeSign rest
        match takeDigits Char.isDigit rest with
        | ([], _) => none
        | (digits, rest) => some (fraction, negated, digits, rest)
      else if fraction.isEmpty then none
      else some (fraction, false, [], letter :: rest)
    | [] => if fraction.isEmpty then none else some (fraction, false, [], [])

/-- The least number that is too great for a double, after rounding. -/
def realBound : Nat := (1 <<< 1024) - (1 <<< 970)

def overflows (whole fraction : List Char) (negatedExponent : Bool) (exponent : List Char) :
    Bool :=
  let digits := (whole ++ fraction).dropWhile (· = '0')
  let power := Decimal.value exponent
  if digits.isEmpty || negatedExponent && fraction.length + power ≥ digits.length then
    false
  else if negatedExponent then
    Decimal.value digits ≥ realBound * Nat.pow 10 (fraction.length + power)
  else if digits.length + power > fraction.length + 400 then
    true
  else
    Decimal.value digits * Nat.pow 10 power ≥ realBound * Nat.pow 10 fraction.length

/-- A real number: with a fraction or an exponent, infinite, or none at all. -/
def readReal (characters : List Char) : Option (Config.Value × List Char) :=
  let (negated, _, rest) := takeSign characters
  match rest with
  | 'i' :: 'n' :: 'f' :: rest => some (.real, rest)
  | 'n' :: 'a' :: 'n' :: rest => some (.real, rest)
  | rest => do
    let (whole, rest) ← takeWhole rest
    let (fraction, negatedExponent, exponent, rest) ← takeFractionExponent rest
    if ¬ negated ∧ overflows whole fraction negatedExponent exponent then none
    else return (.real, rest)

def readBased (base : Nat) (isDigit : Char → Bool) (characters : List Char) :
    Option (Config.Value × List Char) :=
  match takeDigits isDigit characters with
  | ([], _) => none
  | (digits, rest) =>
    let value := digits.foldl
      (fun number digit => number * base + (Hexadecimal.value? digit).getD 0) 0
    if value < 1 <<< 63 then some (.natural value, rest) else none

def readWhole (characters : List Char) : Option (Config.Value × List Char) :=
  match characters with
  | '0' :: 'x' :: rest => readBased 16 (fun digit => (Hexadecimal.value? digit).isSome) rest
  | '0' :: 'o' :: rest => readBased 8 (fun digit => '0' ≤ digit && digit ≤ '7') rest
  | '0' :: 'b' :: rest => readBased 2 (fun digit => digit = '0' || digit = '1') rest
  | _ => do
    let (negated, _, rest) := takeSign characters
    let (digits, rest) ← takeWhole rest
    let magnitude := Decimal.value digits
    if negated then
      if magnitude ≤ 1 <<< 63 then return (Config.Value.ofInt (-(magnitude : Int)), rest)
      else none
    else
      if magnitude < 1 <<< 63 then return (.natural magnitude, rest) else none

/-! ### Dates and times -/

def takeTwo : List Char → Option (Nat × List Char)
  | a :: b :: rest =>
    if a.isDigit ∧ b.isDigit then some (Decimal.value [a, b], rest) else none
  | _ => none

def takeMark (mark : Char) : List Char → Option (List Char)
  | character :: rest => if character = mark then some rest else none
  | [] => none

def isLeap (year : Nat) : Bool :=
  year % 4 = 0 && (year % 100 ≠ 0 || year % 400 = 0)

def daysOf (year month : Nat) : Nat :=
  if month = 2 then (if isLeap year then 29 else 28)
  else if month = 4 ∨ month = 6 ∨ month = 9 ∨ month = 11 then 30
  else 31

def takeDate (characters : List Char) : Option (List Char) := do
  let (century, rest) ← takeTwo characters
  let (years, rest) ← takeTwo rest
  let rest ← takeMark '-' rest
  let (month, rest) ← takeTwo rest
  let rest ← takeMark '-' rest
  let (day, rest) ← takeTwo rest
  let year := century * 100 + years
  if 1 ≤ month ∧ month ≤ 12 ∧ 1 ≤ day ∧ day ≤ daysOf year month then return rest else none

def takeTime (characters : List Char) : Option (List Char) := do
  let (hour, rest) ← takeTwo characters
  let rest ← takeMark ':' rest
  let (minute, rest) ← takeTwo rest
  let rest ← takeMark ':' rest
  let (second, rest) ← takeTwo rest
  if hour ≤ 23 ∧ minute ≤ 59 ∧ second ≤ 60 then
    match rest with
    | '.' :: more =>
      match Decimal.takeDigits more with
      | ([], _) => return rest
      | (_, rest) => return rest
    | rest => return rest
  else
    none

def takeOffset (characters : List Char) : Option (List Char) :=
  match characters with
  | 'Z' :: rest => some rest
  | 'z' :: rest => some rest
  | sign :: rest =>
    if sign = '+' ∨ sign = '-' then do
      let (hour, rest) ← takeTwo rest
      let rest ← takeMark ':' rest
      let (minute, rest) ← takeTwo rest
      if hour ≤ 23 ∧ minute ≤ 59 then return rest else none
    else
      some (sign :: rest)
  | [] => some []

/-- A date, a time, or both. As a value it is a table with one entry that no
setting is named by. -/
def readMoment (characters : List Char) : Option (Config.Value × List Char) :=
  let moment : Config.Value := .table [("$__toml_private_datetime", .text "")]
  match takeDate characters with
  | some rest =>
    let timed := match rest with
      | mark :: after =>
        if mark = 'T' ∨ mark = 't' ∨ mark = ' ' then takeTime after else none
      | [] => none
    match timed with
    | some after => (takeOffset after).map fun rest => (moment, rest)
    | none => some (moment, rest)
  | none => (takeTime characters).map fun rest => (moment, rest)

def readScalar (characters : List Char) : Option (Config.Value × List Char) :=
  readMoment characters <|> readReal characters <|> readWhole characters

end UnattendedRefresh.Toml
