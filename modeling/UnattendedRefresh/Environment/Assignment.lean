import UnattendedRefresh.Text.Blank
import UnattendedRefresh.Text.Letters

/-!
# Assignments

One line gives a value to a variable: a name, an equals sign, and a value with
quotes, escapes, and names of other variables behind dollar signs.
-/

namespace UnattendedRefresh.Environment

abbrev Lookup := String → String

inductive Substitution where
  | off
  /-- Behind a dollar sign: the name lasts as long as there are letters and digits. -/
  | bare
  /-- Between braces: the name lasts until they close. -/
  | braced
  deriving DecidableEq

inductive Quotation where
  | unquoted
  | weak
  | strong
  deriving DecidableEq

structure Draft where
  /-- What has been read, the latest first. -/
  reversed : List Char
  quotation : Quotation
  isEscaped : Bool
  substitution : Substitution
  name : List Char
  /-- A blank has ended the value; only a comment may follow. -/
  isOver : Bool

namespace Draft

def blank : Draft := ⟨[], .unquoted, false, .off, [], false⟩

def push (draft : Draft) (character : Char) : Draft :=
  { draft with reversed := character :: draft.reversed }

def substitute (lookup : Lookup) (draft : Draft) : Draft :=
  let value := (lookup (String.ofList draft.name.reverse)).toList
  { draft with reversed := value.reverse ++ draft.reversed, name := [], substitution := .off }

def takeEscaped (draft : Draft) (character : Char) : Option Draft :=
  let draft := { draft with isEscaped := false }
  if "\\'\"$ ".contains character then some (draft.push character)
  else if character = 'n' then some (draft.push '\n')
  else none

def takeName (lookup : Lookup) (draft : Draft) (character : Char) : Draft :=
  if Text.isAlphanumeric character then { draft with name := character :: draft.name }
  else
    match draft.substitution with
    | .braced =>
      if character = '}' then draft.substitute lookup
      else { draft with name := character :: draft.name }
    | _ =>
      if character = '{' ∧ draft.name.isEmpty then { draft with substitution := .braced }
      else if character = '$' then { draft.substitute lookup with substitution := .bare }
      else (draft.substitute lookup).push character

/-- A character of a value that stands for itself or opens something. -/
def takePlain (draft : Draft) (character : Char) : Draft :=
  if character = '$' then { draft with substitution := .bare }
  else if character = '\\' then { draft with isEscaped := true }
  else
    match draft.quotation with
    | .weak =>
      if character = '"' then { draft with quotation := .unquoted } else draft.push character
    | _ =>
      if character = '\'' then { draft with quotation := .strong }
      else if character = '"' then { draft with quotation := .weak }
      else if character = ' ' ∨ character = '\t' then { draft with isOver := true }
      else draft.push character

def take (lookup : Lookup) (draft : Draft) (character : Char) : Option Draft :=
  if draft.isEscaped then draft.takeEscaped character
  else if draft.quotation = .strong then
    some (if character = '\'' then { draft with quotation := .unquoted } else draft.push character)
  else if draft.substitution ≠ .off then some (draft.takeName lookup character)
  else some (draft.takePlain character)

def finish (lookup : Lookup) (draft : Draft) : Option String :=
  if draft.substitution = .braced ∨ draft.quotation ≠ .unquoted then none
  else some (String.ofList (draft.substitute lookup).reversed.reverse)

/-- Read a value to its end. Behind a blank there may be blanks and a comment. -/
def read (lookup : Lookup) (draft : Draft) : List Char → Option String
  | [] => draft.finish lookup
  | character :: rest =>
    if draft.isOver then
      if character = ' ' ∨ character = '\t' then draft.read lookup rest
      else if character = '#' then draft.finish lookup
      else none
    else
      match draft.take lookup character with
      | some draft => draft.read lookup rest
      | none => none

end Draft

def skipWhiteSpace (characters : List Char) : List Char :=
  characters.dropWhile Text.isWhiteSpace

/-- The name at the front: it begins with a letter or an underscore. -/
def name? (characters : List Char) : Option (List Char × List Char) :=
  match characters with
  | first :: _ =>
    if first.isAlpha ∨ first = '_' then
      some (characters.span fun character =>
        character.isAlphanum ∨ character = '_' ∨ character = '.')
    else
      none
  | [] => none

def afterEquals? (characters : List Char) : Option (List Char) :=
  match skipWhiteSpace characters with
  | '=' :: rest => some (skipWhiteSpace rest)
  | _ => none

/-- The name that a line assigns to, and its value as written. The word `export`
may stand in front, or be the name. -/
def sides? (characters : List Char) : Option (String × List Char) := do
  let (name, rest) ← name? characters
  match afterEquals? rest with
  | some value => some (String.ofList name, value)
  | none =>
    if name = "export".toList then
      let (name, rest) ← name? (skipWhiteSpace rest)
      let value ← afterEquals? rest
      some (String.ofList name, value)
    else
      none

inductive Reading where
  | nothing
  | assignment (name value : String)
  | bad

def readLine (lookup : Lookup) (line : List Char) : Reading :=
  let characters := Text.trim line
  if characters.isEmpty ∨ characters.head? = some '#' then .nothing
  else
    match sides? characters with
    | none => .bad
    | some (name, value) =>
      if value.head? = some '#' then .assignment name ""
      else
        match Draft.blank.read lookup value with
        | some value => .assignment name value
        | none => .bad

end UnattendedRefresh.Environment
