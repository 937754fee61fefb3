import UnattendedRefresh.Config.Value

/-!
# The tree of a settings file

While a file is read its tables remember how they came about. A table is
implicit until a header names it, and dotted if it was made by the pieces of a
dotted key. What was defined once may not be defined again, and a table made in
one of these ways may not be continued in another.
-/

namespace UnattendedRefresh.Toml

open Config

inductive Node where
  | value (content : Value)
  | table (implicit dotted : Bool) (entries : List (String × Node))
  /-- An array of tables, the latest first: it is the one that is open. -/
  | tables (rows : List Node)

namespace Node

def blank : Node := table false false []

def find? (key : String) (entries : List (String × Node)) : Option Node :=
  (entries.find? (·.1 = key)).map (·.2)

mutual

def content : Node → Value
  | value content => content
  | table _ _ entries => .table (contents entries)
  | tables rows => .list (rowContents rows).reverse

def contents : List (String × Node) → Table
  | [] => []
  | (key, node) :: rest => insertEntry key (content node) (contents rest)

def rowContents : List Node → List Value
  | [] => []
  | row :: rest => content row :: rowContents rest

end

/-- Change the table at the end of a path. Tables that are missing on the way are
made; the last table of an array is the one the path goes through. -/
def change (dotted : Bool) (act : Node → Option Node) : List String → Node → Option Node
  | [], node => act node
  | key :: path, table implicit isDotted entries =>
    let put (child : Node) : Node := table implicit isDotted (insertEntry key child entries)
    match find? key entries with
    | none => (change dotted act path (table true dotted [])).map put
    | some (value _) => none
    | some (tables []) => none
    | some (tables (row :: rows)) =>
      (change dotted act path row).map fun row => put (tables (row :: rows))
    | some (table childImplicit childDotted childEntries) =>
      if dotted ∧ ¬ childImplicit then none
      else (change dotted act path (table childImplicit childDotted childEntries)).map put
  | _, _ => none

def define (reached : Bool) (key : String) (content : Value) : Node → Option Node
  | table implicit dotted entries =>
    if dotted ≠ reached ∨ (find? key entries).isSome then none
    else some (table implicit dotted (insertEntry key (value content) entries))
  | _ => none

/-- Give the key at the end of a path, dotted if it has more than one piece, its
value. -/
def assign (path : List String) (content : Value) (node : Node) : Option Node :=
  match path.getLast? with
  | none => none
  | some key =>
    let above := path.dropLast
    change true (define (! above.isEmpty) key content) above node

end Node

/-- A file partly read: the tables that are complete and the one that is open. -/
structure Document where
  root : Node
  current : Node
  /-- Where the open table belongs; at the root if empty. -/
  path : List String
  isRow : Bool

namespace Document

def blank : Document := ⟨Node.blank, Node.blank, [], false⟩

/-- Put a complete table where a header said, or a row into its array. -/
def place (isRow : Bool) (key : String) (current : Node) : Node → Option Node
  | .table implicit dotted entries =>
    let put (child : Node) : Option Node :=
      some (.table implicit dotted (insertEntry key child entries))
    if isRow then
      match Node.find? key entries with
      | none => put (.tables [current])
      | some (.tables rows) => put (.tables (current :: rows))
      | some _ => none
    else
      match Node.find? key entries with
      | none => put current
      | some (.table true _ _) => put current
      | some _ => none
  | _ => none

def close (document : Document) : Option Node :=
  match document.path.getLast? with
  | none => some document.current
  | some key =>
    Node.change false (place document.isRow key document.current) document.path.dropLast
      document.root

def assign (document : Document) (path : List String) (content : Value) : Option Document :=
  (document.current.assign path content).map fun current => { document with current }

def reserveRows (key : String) : Node → Option Node
  | .table implicit dotted entries =>
    match Node.find? key entries with
    | none => some (.table implicit dotted (insertEntry key (.tables []) entries))
    | some (.tables rows) => some (.table implicit dotted (insertEntry key (.tables rows) entries))
    | some _ => none
  | _ => none

def openRow (document : Document) (path : List String) : Option Document := do
  let root ← document.close
  let key ← path.getLast?
  let root ← Node.change false (reserveRows key) path.dropLast root
  return ⟨root, Node.blank, path, true⟩

/-- Take out what a header may continue: a table that only deeper headers made. -/
def release (key : String) : Node → Option Node
  | .table implicit dotted entries =>
    let without := Node.table implicit dotted (entries.filter (·.1 ≠ key))
    match Node.find? key entries with
    | none => some without
    | some (.table true false _) => some without
    | some _ => none
  | _ => none

def entriesAt : List String → Node → List (String × Node)
  | [], .table _ _ entries => entries
  | [], _ => []
  | key :: path, .table _ _ entries =>
    match Node.find? key entries with
    | some (.tables (row :: _)) => if path.isEmpty then [] else entriesAt path row
    | some node => entriesAt path node
    | none => []
  | _, _ => []

def openTable (document : Document) (path : List String) : Option Document := do
  let root ← document.close
  let key ← path.getLast?
  let entries := entriesAt path root
  let root ← Node.change false (release key) path.dropLast root
  return ⟨root, .table false false entries, path, false⟩

def finish (document : Document) : Option Table :=
  document.close.bind fun root =>
    match root.content with
    | .table entries => some entries
    | _ => none

end Document

end UnattendedRefresh.Toml
