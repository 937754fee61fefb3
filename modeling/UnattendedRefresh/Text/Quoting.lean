import UnattendedRefresh.Text.Hexadecimal
import UnattendedRefresh.Text.Invisible

/-!
# Quoted text

How messages show a text that came from outside: between double quotes, with
short escapes where there are any and code points for what cannot be seen.
-/

namespace UnattendedRefresh.Text

def quoteCharacter (character : Char) : String :=
  if character = '"' then "\\\""
  else if character = '\\' then "\\\\"
  else if character = '\n' then "\\n"
  else if character = '\r' then "\\r"
  else if character = '\t' then "\\t"
  else if character = '\x00' then "\\0"
  else if isInvisible character then
    "\\u\x7b" ++ String.ofList (Hexadecimal.shortest character.toNat) ++ "\x7d"
  else
    character.toString

def quote (content : String) : String :=
  "\"" ++ content.toList.foldl (fun shown character => shown ++ quoteCharacter character) ""
    ++ "\""

end UnattendedRefresh.Text
