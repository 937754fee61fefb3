import UnattendedRefresh.Toml.Lexeme
import UnattendedRefresh.Toml.Tree

/-!
# Reading a settings file

A file is a sequence of lines: headers, keys with values, comments. It reads as
one table or not at all.
-/

namespace UnattendedRefresh.Toml

open Config

mutual

/-- One value; `depth` lists and tables are open around it. -/
def readValue : Nat → Nat → List Char → Option (Value × List Char)
  | 0, _, _ => none
  | fuel + 1, depth, characters =>
    match characters with
    | '"' :: _ => (readString characters).map fun (content, rest) => (.text content, rest)
    | '\'' :: _ => (readString characters).map fun (content, rest) => (.text content, rest)
    | '[' :: rest =>
      if depth + 1 < depthLimit then readItems fuel (depth + 1) [] rest else none
    | '\x7b' :: rest =>
      if depth + 1 < depthLimit then
        match skipBlanks rest with
        | '\x7d' :: rest => some (.table [], rest)
        | rest => readPairs fuel (depth + 1) Node.blank rest
      else
        none
    | 't' :: 'r' :: 'u' :: 'e' :: rest => some (.flag true, rest)
    | 'f' :: 'a' :: 'l' :: 's' :: 'e' :: rest => some (.flag false, rest)
    | rest => readScalar rest

/-- The items of a list; a comma may follow the last. -/
def readItems : Nat → Nat → List Value → List Char → Option (Value × List Char)
  | 0, _, _, _ => none
  | fuel + 1, depth, earlier, characters =>
    match skipLines characters.length characters with
    | ']' :: rest => some (.list earlier.reverse, rest)
    | rest =>
      match readValue fuel depth rest with
      | none => none
      | some (item, rest) =>
        match skipLines rest.length rest with
        | ',' :: rest => readItems fuel depth (item :: earlier) rest
        | ']' :: rest => some (.list (item :: earlier).reverse, rest)
        | _ => none

/-- The pairs of a table written on one line; no comma follows the last. -/
def readPairs : Nat → Nat → Node → List Char → Option (Value × List Char)
  | 0, _, _, _ => none
  | fuel + 1, depth, earlier, characters =>
    match readKey (fuel + 1) characters with
    | some (path, '=' :: rest) =>
      if path.length < depthLimit then
        match readValue fuel depth (skipBlanks rest) with
        | none => none
        | some (content, rest) =>
          match earlier.assign path content with
          | none => none
          | some table =>
            match skipBlanks rest with
            | ',' :: rest => readPairs fuel depth table rest
            | '\x7d' :: rest => some (table.content, rest)
            | _ => none
      else
        none
    | _ => none

end

def readAssignment (document : Document) (characters : List Char) :
    Option (Document × List Char) := do
  let fuel := 2 * characters.length + 2
  let (path, rest) ← readKey fuel characters
  match rest with
  | '=' :: rest =>
    if path.length < depthLimit then
      let (content, rest) ← readValue fuel 0 (skipBlanks rest)
      let rest ← endLine? rest
      let document ← document.assign path content
      return (document, rest)
    else
      none
  | _ => none

def readHeader (document : Document) (characters : List Char) :
    Option (Document × List Char) :=
  match characters with
  | '[' :: '[' :: rest =>
    match readKey (rest.length + 1) rest with
    | some (path, ']' :: ']' :: rest) => do
      let rest ← endLine? rest
      let document ← if path.length < depthLimit then document.openRow path else none
      return (document, rest)
    | _ => none
  | '[' :: rest =>
    match readKey (rest.length + 1) rest with
    | some (path, ']' :: rest) => do
      let rest ← endLine? rest
      let document ← if path.length < depthLimit then document.openTable path else none
      return (document, rest)
    | _ => none
  | _ => none

def readLinesOf : Nat → Document → List Char → Option Document
  | 0, _, _ => none
  | fuel + 1, document, characters =>
    match skipBlanks characters with
    | [] => some document
    | '[' :: rest =>
      match readHeader document ('[' :: rest) with
      | some (document, rest) => readLinesOf fuel document rest
      | none => none
    | first :: rest =>
      if first = '#' ∨ first = '\n' ∨ first = '\r' then
        match endLine? (first :: rest) with
        | some rest => readLinesOf fuel document rest
        | none => none
      else
        match readAssignment document (first :: rest) with
        | some (document, rest) => readLinesOf fuel document rest
        | none => none

/-- Read a whole file; a byte order mark may stand before it. -/
def read (source : String) : Option Table :=
  let characters := match source.toList with
    | '\uFEFF' :: rest => rest
    | rest => rest
  (readLinesOf (characters.length + 1) Document.blank characters).bind Document.finish

end UnattendedRefresh.Toml
