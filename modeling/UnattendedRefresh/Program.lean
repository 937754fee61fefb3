import UnattendedRefresh.Application
import UnattendedRefresh.CommandLine
import UnattendedRefresh.Environment.File
import UnattendedRefresh.Journal.Filter
import UnattendedRefresh.Journal.Line
import UnattendedRefresh.Release

/-!
# The program

A launch from the first look at the environment to the exit code. Variables from
a file come first, then the arguments, the configuration, and what of the journal
is written and how; after that the application starts and runs.
-/

namespace UnattendedRefresh.Program

structure Launch where
  arguments : List String
  «variables» : Config.Variables
  /-- The file that may set more variables. -/
  variablesFile : Option String
  contentOf : String → Option String
  connects : String → Bool
  portIsFree : UInt16 → Bool
  now : Instant
  close : Application.Close

/-- Why the program breaks off with a message of its own. -/
inductive Failure where
  | config
  | application
  deriving DecidableEq

def Failure.message : Failure → String
  | config => "Failed to load config"
  | application => "Failed to initialize application"

inductive Line where
  | plain (text : String)
  | entry (format : JournalFormat) (entry : Journal.Entry)

structure Report where
  exitCode : Nat
  failure : Option Failure
  output : List Line

def brokenOff : Nat := 101

/-- The filter that the variables name, else the one of the configured level. -/
def filterOf (bindings : Config.Variables) (config : Config.ProcessConfig) : Journal.Filter :=
  ((Environment.value? bindings "RUST_LOG").bind Journal.Filter.ofText?).getD
    (Journal.Filter.ofLevel config.logLevel)

def startingNote (config : Config.ProcessConfig) : Journal.Entry :=
  ⟨.info, Release.name, "starting flywheel",
    [("version", .text Release.version), ("commit", .text Release.shortCommit),
     ("environment", .text Release.environment), ("internal_clock", .flag config.internalClock)]⟩

/-- What the program does after its configuration is known. -/
structure Course where
  exitCode : Nat
  failure : Option Failure
  entries : List Journal.Entry

def course (launch : Launch) (bindings : Config.Variables) (config : Config.ProcessConfig) :
    Course :=
  let surroundings : Surroundings :=
    ⟨bindings, launch.contentOf, launch.connects, launch.portIsFree, launch.now⟩
  let start := Application.start surroundings config
  let entries := startingNote config :: start.entries
  match start.result with
  | .error fault =>
    ⟨brokenOff, if fault = .oversized then none else some .application, entries⟩
  | .ok application =>
    let run := application.run launch.close
    ⟨if run.isSuccess then 0 else 1, none, entries ++ run.entries⟩

/-- What is shown to a reader who asked for something else than a run. -/
def interrupted (interruption : CommandLine.Interruption) : Report :=
  let output := match interruption with
    | .displayVersion => [Line.plain Release.line]
    | _ => []
  ⟨interruption.exitCode, none, output⟩

/-- The file that the configuration names for the settings, if any. -/
def settingsPath? (launch : Launch) : Option String :=
  let bindings := Environment.withFile launch.variables launch.variablesFile
  match Config.ProcessConfig.ofVariables bindings with
  | .ok config => config.settingsPath
  | .error _ => none

def run (launch : Launch) : Report :=
  let bindings := Environment.withFile launch.variables launch.variablesFile
  match CommandLine.read launch.arguments with
  | .error interruption => interrupted interruption
  | .ok format =>
    match Config.ProcessConfig.ofVariables bindings with
    | .error _ => ⟨brokenOff, some .config, []⟩
    | .ok config =>
      let course := course launch bindings config
      let written := course.entries.filter ((filterOf bindings config).lets ·)
      ⟨course.exitCode, course.failure, written.map (Line.entry format)⟩

end UnattendedRefresh.Program
