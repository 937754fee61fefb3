import UnattendedRefresh.Journal
import UnattendedRefresh.Json.Value
import UnattendedRefresh.Text.Quoting

/-!
# Entries as lines

An entry is written for a reader, with its fields behind the message, or as a
JSON object whose fields stand beside the message.
-/

namespace UnattendedRefresh.Journal

namespace FieldValue

def line : FieldValue → String
  | number value => toString value
  | flag value => toString value
  | text value => Text.quote value
  | shown value => value

/-- As a JSON value: what is shown becomes a text. -/
def json : FieldValue → Json
  | number value => .natural value
  | flag value => .bool value
  | text value => .text value
  | shown value => .text value

end FieldValue

namespace Entry

def line (entry : Entry) : String :=
  entry.level.text ++ " " ++ entry.component ++ ": " ++ entry.message
    ++ String.join (entry.fields.map fun (name, value) => " " ++ name ++ "=" ++ value.line)

def json (entry : Entry) : Json :=
  .record
    ([("level", .text entry.level.text), ("message", .text entry.message),
      ("target", .text entry.component)]
      ++ entry.fields.map fun (name, value) => (name, value.json))

end Entry

end UnattendedRefresh.Journal
