import UnattendedRefresh.Json.Writer
import UnattendedRefresh.Program

/-!
# The outer layer

Collects what the program is launched with, and prints what it reports. No
database can be reached from here, so that a launch ends where the application
would connect to it.
-/

namespace UnattendedRefresh.Main

def contentOf? (path : String) : IO (Option String) := do
  try
    return some (← IO.FS.readFile path)
  catch _ =>
    return none

/-- The variables of the process, each as its name, an equals sign and its value. -/
def bindings : IO Config.Variables := do
  let content ← contentOf? "/proc/self/environ"
  let bindings := Http.splitAt '\x00' (content.getD "").toList
  return (bindings.filter (·.contains '=')).map fun binding =>
    let (name, value) := Http.cutAt '=' binding
    (String.ofList name, String.ofList value)

def lineText : Program.Line → String
  | .plain text => text
  | .entry .pretty entry => entry.line
  | .entry .json entry => entry.json.render

def launch (arguments : List String) : IO UInt32 := do
  let launch : Program.Launch :=
    { arguments
      «variables» := ← bindings
      variablesFile := ← contentOf? ".env"
      contentOf := fun _ => none
      connects := fun _ => false
      portIsFree := fun _ => true
      now := default
      close := ⟨none, none⟩ }
  let settings ← match Program.settingsPath? launch with
    | some path => contentOf? path
    | none => pure none
  let report := Program.run { launch with contentOf := fun _ => settings }
  for line in report.output do
    IO.println (lineText line)
  match report.failure with
  | some failure => IO.eprintln failure.message
  | none => pure ()
  return UInt32.ofNat report.exitCode

end UnattendedRefresh.Main

def main (arguments : List String) : IO UInt32 :=
  UnattendedRefresh.Main.launch arguments
