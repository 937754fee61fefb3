/-!
# The command line

One option, `--tracing`, that chooses how the journal is written, beside the
usual `--help` and `--version`. Arguments are taken from left to right, and the
first that settles the matter decides: an argument that is not known, a value
that is wrong or missing, or a wish to see the help or the version.
-/

namespace UnattendedRefresh

inductive JournalFormat where
  | pretty
  | json
  deriving DecidableEq, Inhabited

namespace JournalFormat

def text : JournalFormat → String
  | pretty => "pretty"
  | json => "json"

def ofText? : String → Option JournalFormat
  | "pretty" => some pretty
  | "json" => some json
  | _ => none

end JournalFormat

namespace CommandLine

/-- Why the program does not go on after reading its arguments. -/
inductive Interruption where
  | displayHelp
  | displayVersion
  | unknownArgument
  /-- A value that is none of the formats, or that is missing. -/
  | invalidValue
  | argumentConflict
  /-- A value was given to an argument that takes none. -/
  | tooManyValues
  deriving DecidableEq

def Interruption.exitCode : Interruption → Nat
  | displayHelp => 0
  | displayVersion => 0
  | _ => 2

inductive Shape where
  /-- Two hyphens: what follows are operands. -/
  | separator
  | long (name : List Char) (attached : Option (List Char))
  | cluster (first : Char)
  | operand
  deriving DecidableEq

/-- Tell a name from the value that an equals sign attaches to it. -/
def longOf (body : List Char) : Shape :=
  .long (body.takeWhile (· ≠ '='))
    (if body.contains '=' then some ((body.dropWhile (· ≠ '=')).drop 1) else none)

def shapeOf : List Char → Shape
  | ['-', '-'] => .separator
  | '-' :: '-' :: body => longOf body
  | '-' :: first :: _ => .cluster first
  | _ => .operand

/-- An occurrence of the option whose value has not been judged. -/
inductive Pending where
  | nothing
  | named
  | value (value : String)
  deriving DecidableEq

structure Progress where
  chosen : Option JournalFormat
  pending : Pending

namespace Progress

def blank : Progress := ⟨none, .nothing⟩

def choose (progress : Progress) (value : String) : Except Interruption Progress :=
  if progress.chosen.isSome then .error .argumentConflict
  else
    match JournalFormat.ofText? value with
    | some format => .ok ⟨some format, .nothing⟩
    | none => .error .invalidValue

/-- Judge what is pending, before the next known argument is acted on. -/
def settle (progress : Progress) : Except Interruption Progress :=
  match progress.pending with
  | .nothing => .ok progress
  | .named => .error .invalidValue
  | .value value => progress.choose value

/-- Stop for a wish of the reader, once what is pending has been judged. -/
def grant (progress : Progress) (wish : Interruption) : Except Interruption Progress := do
  let _ ← progress.settle
  .error wish

def takeLong (progress : Progress) (name : List Char) (attached : Option (List Char)) :
    Except Interruption Progress :=
  if name = "help".toList then
    if attached.isSome then .error .tooManyValues else progress.grant .displayHelp
  else if name = "version".toList then
    if attached.isSome then .error .tooManyValues else progress.grant .displayVersion
  else if name = "tracing".toList then do
    let settled ← progress.settle
    match attached with
    | some value => settled.choose (String.ofList value)
    | none => .ok { settled with pending := .named }
  else .error .unknownArgument

/-- Act on an argument of one hyphen and letters. Its first letter decides. -/
def takeCluster (progress : Progress) (first : Char) : Except Interruption Progress :=
  match first with
  | 'h' => progress.grant .displayHelp
  | 'V' => progress.grant .displayVersion
  | _ => .error .unknownArgument

def take (progress : Progress) (argument : String) : Except Interruption Progress :=
  match shapeOf argument.toList with
  | .long name attached => progress.takeLong name attached
  | .cluster first => progress.takeCluster first
  | _ =>
    match progress.pending with
    | .named => .ok { progress with pending := .value argument }
    | _ => .error .unknownArgument

/-- Take the arguments in turn. There are no operands, so after a separator there
may be nothing. -/
def takeAll (progress : Progress) : List String → Except Interruption Progress
  | [] => progress.settle
  | argument :: rest =>
    if shapeOf argument.toList = .separator then
      if rest.isEmpty then progress.settle else .error .unknownArgument
    else do
      let progress ← progress.take argument
      progress.takeAll rest

end Progress

def read (arguments : List String) : Except Interruption JournalFormat :=
  (Progress.blank.takeAll arguments).map fun progress => progress.chosen.getD .pretty

end CommandLine

end UnattendedRefresh
