import UnattendedRefresh.Url.Host

/-!
# URLs

An absolute address in its parts, each part percent-encoded as it is sent. What
follows a number sign is no part of an address that is sent.
-/

namespace UnattendedRefresh

namespace Url

inductive Path where
  | segments (segments : List (List Char))
  | unstructured (text : List Char)
  deriving DecidableEq

def Path.text : Path → List Char
  | segments list => list.flatMap fun segment => '/' :: segment
  | unstructured text => text

end Url

structure Url where
  scheme : String
  username : List Char
  password : Option (List Char)
  host : Option Url.Host
  /-- The port, if one is given that is not the usual one of the scheme. -/
  port : Option Nat
  path : Url.Path
  query : Option (List Char)
  deriving DecidableEq

namespace Url

def target (url : Url) : String :=
  String.ofList (url.path.text ++ match url.query with
    | some query => '?' :: query
    | none => [])

end Url

end UnattendedRefresh
