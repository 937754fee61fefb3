import UnattendedRefresh.Json.Value
import UnattendedRefresh.Text.Hexadecimal

/-!
# Writing JSON

The compact form: no blanks, and in strings only the escapes that are required.
-/

namespace UnattendedRefresh.Json

def escapeCharacter (character : Char) : String :=
  if character = '"' then "\\\""
  else if character = '\\' then "\\\\"
  else if character = '\x08' then "\\b"
  else if character = '\x0c' then "\\f"
  else if character = '\n' then "\\n"
  else if character = '\r' then "\\r"
  else if character = '\t' then "\\t"
  else if character.toNat < 0x20 then
    "\\u" ++ String.ofList (Hexadecimal.digits 4 character.toNat)
  else
    character.toString

def quote (content : String) : String :=
  "\"" ++ content.toList.foldl (fun written character => written ++ escapeCharacter character) ""
    ++ "\""

mutual

def render : Json → String
  | null => "null"
  | bool value => if value then "true" else "false"
  | natural value => toString value
  | negative magnitude => "-" ++ toString magnitude
  | real literal => literal
  | text value => quote value
  | brokenText => "null"
  | list items => "[" ++ ",".intercalate (renderItems items) ++ "]"
  | record fields => "\x7b" ++ ",".intercalate (renderFields fields) ++ "\x7d"

def renderItems : List Json → List String
  | [] => []
  | item :: rest => render item :: renderItems rest

def renderFields : List (String × Json) → List String
  | [] => []
  | (name, value) :: rest => (quote name ++ ":" ++ render value) :: renderFields rest

end

end UnattendedRefresh.Json
