import UnattendedRefresh.Http.Percent
import UnattendedRefresh.Journal
import UnattendedRefresh.Text.Blank
import UnattendedRefresh.Text.Decimal
import UnattendedRefresh.Text.Letters

/-!
# Which entries are written

A filter is a list of directives. A directive lets through what is at least as
severe as its threshold, for the components whose names begin with its target or
for all of them. Of the directives that speak of a component the one with the
longest target decides; where none speaks, nothing is written.
-/

namespace UnattendedRefresh.Journal

/-- A threshold by the severity it lets through: one is the least severe, six
lets nothing through. -/
structure Threshold where
  severity : Nat
  deriving DecidableEq

namespace Threshold

def everything : Threshold := ⟨1⟩

def errors : Threshold := ⟨5⟩

def nothing : Threshold := ⟨6⟩

def ofName? : String → Option Threshold
  | "trace" => some ⟨1⟩
  | "debug" => some ⟨2⟩
  | "info" => some ⟨3⟩
  | "warn" => some ⟨4⟩
  | "error" => some errors
  | "off" => some nothing
  | "" => some errors
  | _ => none

/-- A threshold is a number from zero, which is nothing, to five, which is
everything, or a name in letters of either case. -/
def ofText? (text : List Char) : Option Threshold :=
  match Decimal.unsigned? 6 text with
  | some number => some ⟨6 - number⟩
  | none => ofName? (String.ofList (text.map Char.toLower))

end Threshold

/-- A directive about components. A directive about spans of work has no effect
on entries outside of them. -/
inductive Directive where
  | component (target : List Char) (threshold : Threshold)
  | all (threshold : Threshold)
  | span
  deriving DecidableEq

namespace Directive

/-- What follows an equals sign: a threshold, or nothing for everything. -/
def threshold? (text : List Char) : Option Threshold :=
  if text.isEmpty then some .everything else Threshold.ofText? text

/-- A directive that names no span: a threshold, a target, or both. -/
def plain? (text : List Char) : Option Directive :=
  let (target, rest) := text.span (· ≠ '=')
  if rest.isEmpty then
    match Threshold.ofText? target with
    | some threshold => some (.all threshold)
    | none => some (.component target .everything)
  else
    (threshold? (rest.drop 1)).map fun threshold => .component target threshold

/-- A directive whose span is closed and perhaps followed by a threshold. -/
def span? (text : List Char) : Option Directive :=
  match (text.dropWhile (· ≠ ']')).drop 1 with
  | [] => if text.contains ']' then some .span else none
  | '=' :: rest => (threshold? rest).map fun _ => .span
  | _ => none

def canBegin (character : Char) : Bool :=
  Text.isAlphanumeric character || "-:_".contains character

/-- Read a directive. A blank in front of it becomes part of its target, and
spoils its threshold. -/
def ofText? (text : List Char) : Option Directive :=
  let begun := text.dropWhile Text.isWhiteSpace
  match begun with
  | [] => none
  | first :: _ =>
    if begun.length < text.length ∧ text.contains '=' then none
    else if first = '[' then span? begun
    else if ¬ canBegin first then none
    else if (begun.takeWhile (· ≠ '=')).contains '[' then span? begun
    else plain? text

end Directive

abbrev Filter := List Directive

namespace Filter

def pieces (text : String) : List (List Char) :=
  (Http.splitAt ',' text.toList).filter (! ·.isEmpty)

/-- Without any directive, errors are written. -/
def orErrors (directives : List Directive) : Filter :=
  if directives.isEmpty then [.all .errors] else directives

def ofText? (text : String) : Option Filter :=
  ((pieces text).mapM Directive.ofText?).map orErrors

def ofTextLeniently (text : String) : Filter :=
  orErrors ((pieces text).filterMap Directive.ofText?)

/-- The filter of a level for the program itself: of everything else only
warnings are written. -/
def ofLevel (level : String) : Filter :=
  ofTextLeniently ("warn,flywheel=" ++ level)

/-- How much a directive says about a component, if it speaks of it. -/
def weight? (component : List Char) : Directive → Option (Nat × Threshold)
  | .all threshold => some (0, threshold)
  | .component target threshold =>
    if target.isPrefixOf component then
      some ((String.ofList target).utf8ByteSize + 1, threshold)
    else
      none
  | .span => none

/-- The threshold for a component: the weightiest one, of several the last. -/
def threshold? (filter : Filter) (component : String) : Option Threshold :=
  ((filter.filterMap (weight? component.toList)).foldl
    (fun (best : Option (Nat × Threshold)) found =>
      match best with
      | some (weight, _) => if weight ≤ found.1 then some found else best
      | none => some found) none).map (·.2)

def lets (filter : Filter) (entry : Entry) : Bool :=
  match filter.threshold? entry.component with
  | some threshold => threshold.severity ≤ entry.level.severity
  | none => false

end Filter

end UnattendedRefresh.Journal
