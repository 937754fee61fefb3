import UnattendedRefresh.Toml.Reader

/-!
# The table of a settings file

While a file is read, the table that is open stays a table, and closing it leaves a
table at the root. So what a file holds is always written out anew, by ascending keys.
-/

namespace UnattendedRefresh.Toml

open Config

namespace Node

def IsTable : Node → Prop
  | table _ _ _ => True
  | _ => False

/-- An act that gives nothing but tables. -/
def GivesTables (act : Node → Option Node) : Prop :=
  ∀ node changed, act node = some changed → changed.IsTable

theorem ascendingKeys_contents (entries : List (String × Node)) :
    AscendingKeys (contents entries) := by
  induction entries with
  | nil => exact List.Pairwise.nil
  | cons entry rest ih =>
      rw [contents]
      exact ascendingKeys_insertEntry _ _ ih

theorem isTable_change {dotted : Bool} {act : Node → Option Node} (gives : GivesTables act)
    {path : List String} : GivesTables (change dotted act path) := by
  intro node changed result
  cases path with
  | nil => exact gives node changed (by simpa [change] using result)
  | cons key path =>
      cases node with
      | table implicit isDotted entries =>
          have put {found : Option Node} {shape : Node → Node}
              (result : found.map (fun child =>
                table implicit isDotted (insertEntry key (shape child) entries)) = some changed) :
              changed.IsTable := by
            obtain ⟨child, -, rfl⟩ := Option.map_eq_some_iff.mp result
            trivial
          rw [change] at result
          split at result
          next => exact put result
          next => cases result
          next => cases result
          next => exact put result
          next =>
            split at result
            next => cases result
            next => exact put result
      | _ => simp [change] at result

theorem isTable_define (reached : Bool) (key : String) (content : Value) :
    GivesTables (define reached key content) := by
  intro node changed result
  cases node with
  | table implicit dotted entries =>
      simp only [define] at result
      split at result
      next => cases result
      next =>
        cases result
        trivial
  | _ => cases result

theorem isTable_assign (path : List String) (content : Value) :
    GivesTables (assign path content) := by
  intro node changed result
  rw [assign] at result
  split at result
  next => cases result
  next => exact isTable_change (isTable_define _ _ _) _ _ result

end Node

namespace Document

theorem isTable_place (isRow : Bool) (key : String) (current : Node) :
    Node.GivesTables (place isRow key current) := by
  intro node changed result
  cases node with
  | table implicit dotted entries =>
      simp only [place] at result
      split at result <;> split at result <;> first
        | (cases result; trivial)
        | cases result
  | _ => cases result

theorem isTable_assign {document changed : Document} {path : List String} {content : Value}
    (result : document.assign path content = some changed) : changed.current.IsTable := by
  obtain ⟨current, assigned, rfl⟩ := Option.map_eq_some_iff.mp result
  exact Node.isTable_assign _ _ _ _ assigned

theorem isTable_openRow {document changed : Document} {path : List String}
    (result : document.openRow path = some changed) : changed.current.IsTable := by
  simp only [openRow, Option.bind_eq_bind, Option.bind_eq_some_iff, Option.pure_def,
    Option.some.injEq] at result
  obtain ⟨_, -, _, -, _, -, rfl⟩ := result
  trivial

theorem isTable_openTable {document changed : Document} {path : List String}
    (result : document.openTable path = some changed) : changed.current.IsTable := by
  simp only [openTable, Option.bind_eq_bind, Option.bind_eq_some_iff, Option.pure_def,
    Option.some.injEq] at result
  obtain ⟨_, -, _, -, _, -, rfl⟩ := result
  trivial

theorem isTable_close {document : Document} {root : Node} (opened : document.current.IsTable)
    (closed : document.close = some root) : root.IsTable := by
  rw [close] at closed
  split at closed
  next =>
    cases closed
    exact opened
  next => exact Node.isTable_change (isTable_place _ _ _) _ _ closed

theorem ascendingKeys_finish {document : Document} {entries : Table}
    (opened : document.current.IsTable) (finished : document.finish = some entries) :
    AscendingKeys entries := by
  obtain ⟨root, closed, written⟩ := Option.bind_eq_some_iff.mp finished
  have shaped := isTable_close opened closed
  cases root with
  | table implicit dotted nodes =>
      simp only [Node.content, Option.some.injEq] at written
      exact written ▸ Node.ascendingKeys_contents nodes
  | _ => cases shaped

end Document

theorem isTable_readAssignment {document changed : Document} {characters rest : List Char}
    (result : readAssignment document characters = some (changed, rest)) :
    changed.current.IsTable := by
  rw [readAssignment] at result
  simp only [Option.bind_eq_bind, Option.bind_eq_some_iff] at result
  obtain ⟨⟨path, after⟩, -, result⟩ := result
  split at result
  next =>
    split at result
    next =>
      simp only [Option.bind_eq_some_iff, Option.pure_def, Option.some.injEq,
        Prod.mk.injEq] at result
      obtain ⟨_, -, _, -, _, assigned, rfl, -⟩ := result
      exact Document.isTable_assign assigned
    next => cases result
  next => cases result

theorem isTable_readHeader {document changed : Document} {characters rest : List Char}
    (result : readHeader document characters = some (changed, rest)) :
    changed.current.IsTable := by
  unfold readHeader at result
  split at result
  next =>
    split at result
    next =>
      obtain ⟨after, -, result⟩ := Option.bind_eq_some_iff.mp result
      split at result
      next =>
        obtain ⟨document, opened, same⟩ := Option.bind_eq_some_iff.mp result
        cases same
        exact Document.isTable_openRow opened
      next => cases result
    next => cases result
  next =>
    split at result
    next =>
      obtain ⟨after, -, result⟩ := Option.bind_eq_some_iff.mp result
      split at result
      next =>
        obtain ⟨document, opened, same⟩ := Option.bind_eq_some_iff.mp result
        cases same
        exact Document.isTable_openTable opened
      next => cases result
    next => cases result
  next => cases result

theorem isTable_readLinesOf {fuel : Nat} {document changed : Document} {characters : List Char}
    (opened : document.current.IsTable)
    (result : readLinesOf fuel document characters = some changed) :
    changed.current.IsTable := by
  induction fuel generalizing document characters with
  | zero => cases result
  | succ fuel ih =>
      rw [readLinesOf] at result
      split at result
      next =>
        cases result
        exact opened
      next =>
        split at result
        next header => exact ih (isTable_readHeader header) result
        next => cases result
      next =>
        split at result
        next =>
          split at result
          next => exact ih opened result
          next => cases result
        next =>
          split at result
          next assigned => exact ih (isTable_readAssignment assigned) result
          next => cases result

/-- The keys of a settings file ascend. -/
theorem ascendingKeys_read {source : String} {entries : Table}
    (result : read source = some entries) : AscendingKeys entries := by
  obtain ⟨document, lines, finished⟩ := Option.bind_eq_some_iff.mp result
  have blank : Document.blank.current.IsTable := trivial
  exact Document.ascendingKeys_finish (isTable_readLinesOf blank lines) finished

end UnattendedRefresh.Toml
