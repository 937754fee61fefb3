import UnattendedRefresh.Text.Blank
import UnattendedRefresh.Url

/-!
# Reading URLs

An address is read from left to right: its scheme, the authority with user, host
and port, the path, the query. In the schemes of the web slashes may be turned
the other way, the host may not be missing, and the path is never empty. Dots
that lead up or nowhere are resolved while the path is read.
-/

namespace UnattendedRefresh.Url

def usualPorts : List (String × Option Nat) :=
  [("http", some 80), ("https", some 443), ("ws", some 80), ("wss", some 443), ("ftp", some 21),
   ("file", none)]

def isWebScheme (scheme : String) : Bool :=
  usualPorts.any (·.1 = scheme)

def usualPort? (scheme : String) : Option Nat :=
  (usualPorts.find? (·.1 = scheme)).bind (·.2)

/-! ### Characters that are percent-encoded -/

def inQuery (character : Char) : Bool :=
  Http.isControl character || " \"#<>".contains character

def inWebQuery (character : Char) : Bool :=
  inQuery character || character = '\''

def inPath (character : Char) : Bool :=
  Http.isControl character || " \"<>`#?\x7b\x7d".contains character

def inUserinfo (character : Char) : Bool :=
  inPath character || "/:;=@[\\]^|".contains character

/-! ### The parts -/

/-- Blanks and controls do not count at the ends, nor do breaks anywhere. -/
def tidy (text : List Char) : List Char :=
  (Text.trimWhere (·.toNat ≤ 0x20) text).filter fun character =>
    ¬ (character = '\t' ∨ character = '\n' ∨ character = '\r')

def scheme? : List Char → Option (String × List Char)
  | [] => none
  | first :: rest =>
    if first.isAlpha then
      let (name, rest) := (first :: rest).span fun character =>
        character.isAlphanum ∨ character = '+' ∨ character = '-' ∨ character = '.'
      match rest with
      | ':' :: rest => some (String.ofList (name.map Char.toLower), rest)
      | _ => none
    else
      none

def cutAtLast? (separator : Char) (text : List Char) : Option (List Char × List Char) :=
  if text.contains separator then
    let (after, before) := text.reverse.span (· ≠ separator)
    some ((before.drop 1).reverse, after.reverse)
  else
    none

/-- The host and what follows it, at the first colon that is in no brackets. -/
def spanHost (inBrackets : Bool) : List Char → List Char × List Char
  | [] => ([], [])
  | character :: rest =>
    if character = ':' ∧ ¬ inBrackets then ([], character :: rest)
    else
      let (host, after) :=
        spanHost (character = '[' ∨ (inBrackets ∧ character ≠ ']')) rest
      (character :: host, after)

/-- The port after a colon. No digits are no port; the usual port is not kept. -/
def port? (scheme : String) (digits : List Char) : Option (Option Nat) :=
  if digits.isEmpty then some none
  else
    ((Decimal.natural? digits).filter (· < UInt16.size)).map fun port =>
      if usualPort? scheme = some port then none else some port

structure Authority where
  username : List Char
  password : Option (List Char)
  host : Option Host
  port : Option Nat
  deriving DecidableEq

namespace Authority

def absent : Authority := ⟨[], none, none, none⟩

def hasUser (authority : Authority) : Bool :=
  ! authority.username.isEmpty || authority.password.isSome

/-- Take the name and, after the first colon, the password of a user. -/
def withUser (authority : Authority) (text : List Char) : Authority :=
  let (username, password) := Http.cutAt ':' text
  { authority with
    username := Http.encodePercent inUserinfo username
    password :=
      if password.isEmpty then none else some (Http.encodePercent inUserinfo password) }

/-- Read host and port. Only outside of the web a host may be missing, and then
nobody can be there and no port. -/
def withHost? (authority : Authority) (scheme : String) (text : List Char) : Option Authority := do
  let (host, after) := spanHost false text
  if host.isEmpty then
    if isWebScheme scheme ∨ ¬ after.isEmpty ∨ authority.hasUser then failure
    else return authority
  else
    let host ← if isWebScheme scheme then Host.onWeb? host else Host.elsewhere? host
    let port ← port? scheme (after.drop 1)
    return { authority with host := some host, port }

/-- Read an authority; it matters for one that is empty behind an at sign whether
anything follows. -/
def ofText? (scheme : String) (followed : Bool) (text : List Char) : Option Authority :=
  match cutAtLast? '@' text with
  | none => Authority.absent.withHost? scheme text
  | some (user, rest) =>
    if user.isEmpty ∧ rest.isEmpty ∧ followed then none
    else (Authority.absent.withUser user).withHost? scheme rest

end Authority

/-! ### Paths -/

def isSingleDot (segment : List Char) : Bool :=
  let lower := segment.map Char.toLower
  lower = ".".toList || lower = "%2e".toList

def isDoubleDot (segment : List Char) : Bool :=
  let lower := segment.map Char.toLower
  [".." , ".%2e", "%2e.", "%2e%2e"].any fun spelling => lower = spelling.toList

/-- Follow segments from those already passed. A dot at the end leaves an empty
segment behind. -/
def follow (passed : List (List Char)) : List (List Char) → List (List Char)
  | [] => passed
  | segment :: rest =>
    let atEnd := if rest.isEmpty then [[]] else []
    if isDoubleDot segment then follow (passed.dropLast ++ atEnd) rest
    else if isSingleDot segment then follow (passed ++ atEnd) rest
    else follow (passed ++ [Http.encodePercent inPath segment]) rest

def Path.ofText (text : List Char) : Path :=
  .segments (follow [] (Http.splitAt '/' text))

/-- The path behind an authority: on the web never empty. -/
def Path.behind (scheme : String) : List Char → Path
  | '/' :: rest => .ofText rest
  | rest => if isWebScheme scheme then .ofText rest else .segments []

/-! ### Addresses -/

def behindSlashes? (scheme : String) (followed : Bool) (text : List Char) :
    Option (Authority × Path) :=
  let (authority, rest) := text.span (· ≠ '/')
  (Authority.ofText? scheme (followed || ! rest.isEmpty) authority).map fun authority =>
    (authority, Path.behind scheme rest)

/-- The host of a file is this machine unless another one is named. -/
def fileAuthority? (text : List Char) : Option Authority :=
  if text.isEmpty ∨ text = "localhost".toList then some .absent
  else (Host.onWeb? text).map fun host => { Authority.absent with host := some host }

def ofFile? : List Char → Option (Authority × Path)
  | '/' :: '/' :: rest =>
    let (host, rest) := rest.span (· ≠ '/')
    (fileAuthority? host).map fun authority => (authority, Path.behind "file" rest)
  | rest => some (.absent, Path.behind "file" rest)

def hierarchy? (scheme : String) (followed : Bool) (text : List Char) : Option (Authority × Path) :=
  if isWebScheme scheme then
    let text := text.map fun character => if character = '\\' then '/' else character
    if scheme = "file" then ofFile? text
    else behindSlashes? scheme followed (text.dropWhile (· = '/'))
  else
    match text with
    | '/' :: '/' :: rest => behindSlashes? scheme followed rest
    | '/' :: rest => some (.absent, .ofText rest)
    | rest => some (.absent, .unstructured (Http.encodePercent Http.isControl rest))

def ofText? (text : String) : Option Url := do
  let (scheme, rest) ← scheme? (tidy text.toList)
  let sent := rest.takeWhile (· ≠ '#')
  let (body, query) := sent.span (· ≠ '?')
  let (authority, path) ← hierarchy? scheme (body.length < rest.length) body
  return {
    scheme
    username := authority.username
    password := authority.password
    host := authority.host
    port := authority.port
    path
    query :=
      if query.isEmpty then none
      else
        let encoded := if isWebScheme scheme then inWebQuery else inQuery
        some (Http.encodePercent encoded (query.drop 1)) }

end UnattendedRefresh.Url
