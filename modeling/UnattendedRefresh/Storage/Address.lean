import UnattendedRefresh.Journal
import UnattendedRefresh.Url.Reader

/-!
# Addresses of databases

A database is named by a URL. Its parts must spell text, and its query holds
parameters of the connection: some of them must have a certain form, and one that
is not known is left aside with a warning.
-/

namespace UnattendedRefresh.Storage

inductive ParameterForm where
  | anything
  | encryptionMode
  | size
  | port
  | machine
  deriving DecidableEq

def parameterForms : List (String × ParameterForm) :=
  [("sslmode", .encryptionMode), ("ssl-mode", .encryptionMode),
   ("sslrootcert", .anything), ("ssl-root-cert", .anything), ("ssl-ca", .anything),
   ("sslcert", .anything), ("ssl-cert", .anything), ("sslkey", .anything),
   ("ssl-key", .anything), ("statement-cache-capacity", .size), ("host", .anything),
   ("hostaddr", .machine), ("port", .port), ("dbname", .anything), ("user", .anything),
   ("password", .anything), ("application_name", .anything), ("options", .anything)]

def encryptionModes : List String :=
  ["disable", "allow", "prefer", "require", "verify-ca", "verify-full"]

namespace ParameterForm

def ofName? (name : String) : Option ParameterForm :=
  if name.startsWith "options[" then some anything
  else (parameterForms.find? (·.1 = name)).map (·.2)

def isMachine (value : List Char) : Bool :=
  (((Http.splitAt '.' value).mapM Url.Host.byte?).filter (·.length = 4)).isSome
    || (Url.Host.eightPieces? value).isSome

def admits (form : ParameterForm) (value : String) : Bool :=
  match form with
  | anything => true
  | encryptionMode => encryptionModes.contains (value.map Char.toLower)
  | size => (Decimal.unsigned? UInt64.size value.toList).isSome
  | port => (Decimal.unsigned? UInt16.size value.toList).isSome
  | machine => isMachine value.toList

end ParameterForm

namespace Address

def spellsText (part : List Char) : Bool :=
  (Http.textOfBytes? (Http.decodePercent part)).isSome

/-- A host that is a path to a socket must spell text. -/
def hostIsGood : Option Url.Host → Bool
  | some (.name name) => (Http.decodePercent name).head? ≠ some 0x2f || spellsText name
  | _ => true

def partsAreGood (url : Url) : Bool :=
  hostIsGood url.host && spellsText url.username && (url.password.map spellsText).getD true
    && spellsText (url.path.text.dropWhile (· = '/'))

/-- A piece of a query, with a replacement character for what spells no text. -/
def pieceText (piece : Option String) : String :=
  piece.getD "\ufffd"

def ignoredNote (name value : String) : Journal.Entry :=
  ⟨.warn, "sqlx_postgres::options::parse", "ignoring unrecognized connect parameter",
    [("key", .shown name), ("value", .shown value)]⟩

/-- Check parameters in turn up to the first that is bad, with what is written
about those before it. -/
def checkParameters : List (Option String × Option String) → Bool × List Journal.Entry
  | [] => (true, [])
  | (name, value) :: rest =>
    match ParameterForm.ofName? (pieceText name) with
    | some form => if form.admits (pieceText value) then checkParameters rest else (false, [])
    | none =>
      let (isGood, entries) := checkParameters rest
      (isGood, ignoredNote (pieceText name) (pieceText value) :: entries)

/-- Whether a text is the address of a database, with what is written about it. -/
def check (text : String) : Bool × List Journal.Entry :=
  match Url.ofText? text with
  | none => (false, [])
  | some url =>
    if partsAreGood url then checkParameters (Http.formPairs (url.query.getD []))
    else (false, [])

end Address

end UnattendedRefresh.Storage
