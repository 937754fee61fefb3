/-!
# Journal entries

What the program reports about its work: a severity, the component that speaks,
a message, and named values.
-/

namespace UnattendedRefresh.Journal

inductive Level where
  | trace
  | debug
  | info
  | warn
  | error
  deriving DecidableEq, Inhabited

namespace Level

def text : Level → String
  | trace => "TRACE"
  | debug => "DEBUG"
  | info => "INFO"
  | warn => "WARN"
  | error => "ERROR"

/-- Severity as a number; a filter lets through what is at least as severe. -/
def severity : Level → Nat
  | trace => 1
  | debug => 2
  | info => 3
  | warn => 4
  | error => 5

end Level

/-- A named value: a number, a flag, a text that is quoted where it is shown, or
a value shown as it is. -/
inductive FieldValue where
  | number (value : Nat)
  | flag (value : Bool)
  | text (value : String)
  | shown (value : String)
  deriving DecidableEq, Inhabited

structure Entry where
  level : Level
  component : String
  message : String
  fields : List (String × FieldValue)
  deriving DecidableEq, Inhabited

namespace Entry

def headline (entry : Entry) : String :=
  entry.level.text ++ " " ++ entry.message

end Entry

def note (level : Level) (message : String) : Entry :=
  ⟨level, "flywheel", message, []⟩

end UnattendedRefresh.Journal
