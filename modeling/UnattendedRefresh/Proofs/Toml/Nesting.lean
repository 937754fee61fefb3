import UnattendedRefresh.Proofs.Config.Variables
import UnattendedRefresh.Proofs.Toml.Tables

/-!
# The tables inside a settings file

A table in a settings file is written out from its tree, or it was a value on one line
that was written out when it was read. Whatever the headers and keys of the file do to the
tree, they move such values and never change them. So the keys of the tables that the file
holds ascend as those of the file do.
-/

namespace UnattendedRefresh.Toml

open Config

namespace Node

/-- The values in the tree have ascending keys where they are tables. -/
inductive Ascends : Node → Prop
  | value {content : Value} (holds : content.Ascends) : Ascends (.value content)
  | table {implicit dotted : Bool} {entries : List (String × Node)}
      (inner : ∀ entry ∈ entries, Ascends entry.2) : Ascends (.table implicit dotted entries)
  | tables {rows : List Node} (inner : ∀ row ∈ rows, Ascends row) : Ascends (.tables rows)

variable {node child : Node} {key : String} {entries : List (String × Node)} {held : Value}

theorem Ascends.content (ascends : node.Ascends) : node.content.Ascends := by
  cases ascends with
  | value holds => exact holds
  | table inner => exact Value.ascends_table (ascendingKeys_contents _)
  | tables inner => exact Value.ascends_of_ne nofun

/-- Whatever a table that is written out holds was written out with it. -/
theorem ascends_of_mem_contents (inner : ∀ entry ∈ entries, entry.2.Ascends) :
    ∀ entry ∈ contents entries, entry.2.Ascends := by
  induction entries with
  | nil => simp [contents]
  | cons first rest ih =>
      obtain ⟨own, others⟩ := List.forall_mem_cons.mp inner
      intro entry member
      rw [contents] at member
      rcases mem_insertEntry member with rfl | member
      · exact own.content
      · exact ih others entry member

theorem ascends_blank : blank.Ascends :=
  .table (by simp)

theorem mem_of_find? (found : find? key entries = some child) : (key, child) ∈ entries := by
  obtain ⟨entry, first, rfl⟩ := Option.map_eq_some_iff.mp found
  obtain rfl : entry.1 = key := by simpa using List.find?_some first
  exact List.mem_of_find?_eq_some first

theorem ascends_insertEntry {implicit dotted : Bool} (ascends : child.Ascends)
    (inner : ∀ entry ∈ entries, entry.2.Ascends) :
    (Node.table implicit dotted (insertEntry key child entries)).Ascends :=
  .table fun entry member => by
    rcases mem_insertEntry member with rfl | member
    · exact ascends
    · exact inner entry member

/-- The act leaves the values of a tree in order. -/
def Keeps (act : Node → Option Node) : Prop :=
  ∀ node changed, node.Ascends → act node = some changed → changed.Ascends

theorem keeps_change {dotted : Bool} {act : Node → Option Node} (keeps : Keeps act)
    (path : List String) : Keeps (change dotted act path) := by
  induction path with
  | nil =>
      intro node changed ascends result
      rw [change] at result
      exact keeps node changed ascends result
  | cons key path ih =>
      intro node changed ascends result
      cases ascends with
      | value holds => simp [change] at result
      | tables inner => simp [change] at result
      | @table implicit isDotted entries inner =>
          rw [change] at result
          split at result
          next =>
            obtain ⟨child, below, rfl⟩ := Option.map_eq_some_iff.mp result
            exact ascends_insertEntry (ih _ _ (.table (by simp)) below) inner
          next => cases result
          next => cases result
          next row rows found =>
            obtain ⟨child, below, rfl⟩ := Option.map_eq_some_iff.mp result
            obtain ⟨⟩ | ⟨⟩ | ⟨held⟩ := inner _ (mem_of_find? found)
            obtain ⟨first, others⟩ := List.forall_mem_cons.mp held
            exact ascends_insertEntry
              (.tables (List.forall_mem_cons.mpr ⟨ih _ _ first below, others⟩)) inner
          next found =>
            split at result
            next => cases result
            next =>
              obtain ⟨child, below, rfl⟩ := Option.map_eq_some_iff.mp result
              exact ascends_insertEntry (ih _ _ (inner _ (mem_of_find? found)) below) inner

theorem keeps_define (reached : Bool) (key : String) (holds : held.Ascends) :
    Keeps (define reached key held) := by
  intro node changed ascends result
  cases ascends with
  | table inner =>
      simp only [define] at result
      split at result
      next => cases result
      next =>
        cases result
        exact ascends_insertEntry (.value holds) inner
  | _ => cases result

theorem keeps_assign (path : List String) (holds : held.Ascends) :
    Keeps (assign path held) := by
  intro node changed ascends result
  rw [assign] at result
  split at result
  next => cases result
  next => exact keeps_change (keeps_define _ _ holds) _ _ _ ascends result

end Node

namespace Document

open Node

variable {document changed : Document} {path : List String} {key : String} {current : Node}

theorem keeps_place (isRow : Bool) (key : String) (ascends : current.Ascends) :
    Keeps (place isRow key current) := by
  intro node changed held result
  cases held with
  | table inner =>
      simp only [place] at result
      split at result <;> split at result
      next =>
        cases result
        exact ascends_insertEntry (.tables (by simpa using ascends)) inner
      next found =>
        cases result
        obtain ⟨⟩ | ⟨⟩ | ⟨rows⟩ := inner _ (mem_of_find? found)
        exact ascends_insertEntry (.tables (List.forall_mem_cons.mpr ⟨ascends, rows⟩)) inner
      next => cases result
      next =>
        cases result
        exact ascends_insertEntry ascends inner
      next =>
        cases result
        exact ascends_insertEntry ascends inner
      next => cases result
  | _ => cases result

theorem keeps_reserveRows (key : String) : Keeps (reserveRows key) := by
  intro node changed held result
  cases held with
  | table inner =>
      simp only [reserveRows] at result
      split at result
      next =>
        cases result
        exact ascends_insertEntry (.tables (by simp)) inner
      next found =>
        cases result
        exact ascends_insertEntry (inner _ (mem_of_find? found)) inner
      next => cases result
  | _ => cases result

theorem keeps_release (key : String) : Keeps (release key) := by
  intro node changed held result
  cases held with
  | @table implicit dotted entries inner =>
      have without : (Node.table implicit dotted (entries.filter (·.1 ≠ key))).Ascends :=
        .table fun entry member => inner entry (List.mem_of_mem_filter member)
      simp only [release] at result
      split at result
      next =>
        cases result
        exact without
      next =>
        cases result
        exact without
      next => cases result
  | _ => cases result

theorem ascends_entriesAt {node : Node} (ascends : node.Ascends) :
    ∀ entry ∈ entriesAt path node, entry.2.Ascends := by
  induction path generalizing node with
  | nil =>
      cases ascends with
      | table inner => exact inner
      | _ => simp [entriesAt]
  | cons key path ih =>
      cases ascends with
      | table inner =>
          rw [entriesAt]
          split
          next row _ found =>
            obtain ⟨⟩ | ⟨⟩ | ⟨rows⟩ := inner _ (mem_of_find? found)
            split
            next => simp
            next => exact ih (rows row List.mem_cons_self)
          next found => exact ih (inner _ (mem_of_find? found))
          next => simp
      | _ => simp [entriesAt]

/-- The values in both trees of a file partly read are in order. -/
structure Ascends (document : Document) : Prop where
  root : document.root.Ascends
  current : document.current.Ascends

theorem ascends_blank : blank.Ascends :=
  ⟨Node.ascends_blank, Node.ascends_blank⟩

theorem Ascends.close (ascends : document.Ascends) {root : Node}
    (closed : document.close = some root) : root.Ascends := by
  rw [Document.close] at closed
  split at closed
  next =>
    cases closed
    exact ascends.current
  next => exact keeps_change (keeps_place _ _ ascends.current) _ _ _ ascends.root closed

theorem Ascends.assign (ascends : document.Ascends) {content : Value} (holds : content.Ascends)
    (result : document.assign path content = some changed) : changed.Ascends := by
  obtain ⟨current, assigned, rfl⟩ := Option.map_eq_some_iff.mp result
  exact ⟨ascends.root, keeps_assign _ holds _ _ ascends.current assigned⟩

theorem Ascends.openRow (ascends : document.Ascends)
    (result : document.openRow path = some changed) : changed.Ascends := by
  simp only [Document.openRow, Option.bind_eq_bind, Option.bind_eq_some_iff, Option.pure_def,
    Option.some.injEq] at result
  obtain ⟨root, closed, key, -, reserved, opened, rfl⟩ := result
  exact ⟨keeps_change (keeps_reserveRows key) _ _ _ (ascends.close closed) opened,
    Node.ascends_blank⟩

theorem Ascends.openTable (ascends : document.Ascends)
    (result : document.openTable path = some changed) : changed.Ascends := by
  simp only [Document.openTable, Option.bind_eq_bind, Option.bind_eq_some_iff, Option.pure_def,
    Option.some.injEq] at result
  obtain ⟨root, closed, key, -, released, opened, rfl⟩ := result
  exact ⟨keeps_change (keeps_release key) _ _ _ (ascends.close closed) opened,
    .table (ascends_entriesAt (ascends.close closed))⟩

theorem Ascends.finish (ascends : document.Ascends) (opened : document.current.IsTable)
    {entries : Table} (finished : document.finish = some entries) :
    ∀ entry ∈ entries, entry.2.Ascends := by
  obtain ⟨root, closed, written⟩ := Option.bind_eq_some_iff.mp finished
  have shaped := isTable_close opened closed
  have held := ascends.close closed
  cases held with
  | table inner =>
      simp only [Node.content, Option.some.injEq] at written
      exact written ▸ ascends_of_mem_contents inner
  | _ => cases shaped

end Document

/-! ### Values on one line -/

section Values

variable {fuel depth : Nat} {characters rest : List Char} {value : Value}

theorem readItems_ne_table {earlier : List Value}
    (found : readItems fuel depth earlier characters = some (value, rest)) (entries : Table) :
    value ≠ .table entries := by
  induction fuel generalizing earlier characters with
  | zero => simp [readItems] at found
  | succ fuel ih =>
      rw [readItems] at found
      split at found
      next =>
        cases found
        nofun
      next =>
        split at found
        next => cases found
        next =>
          split at found
          next => exact ih found
          next =>
            cases found
            nofun
          next => cases found

theorem ascends_readPairs {earlier : Node}
    (found : readPairs fuel depth earlier characters = some (value, rest)) : value.Ascends := by
  induction fuel generalizing earlier characters with
  | zero => simp [readPairs] at found
  | succ fuel ih =>
      rw [readPairs] at found
      split at found
      next =>
        split at found
        next =>
          split at found
          next => cases found
          next =>
            split at found
            next => cases found
            next table assigned =>
              split at found
              next => exact ih found
              next =>
                cases found
                have shaped := Node.isTable_assign _ _ _ _ assigned
                cases table with
                | table implicit dotted entries =>
                    exact Value.ascends_table (Node.ascendingKeys_contents entries)
                | _ => cases shaped
              next => cases found
        next => cases found
      next => cases found

theorem ascends_readMoment (found : readMoment characters = some (value, rest)) :
    value.Ascends := by
  have alone : (Value.table [("$__toml_private_datetime", .text "")]).Ascends :=
    Value.ascends_table (List.pairwise_singleton _ _)
  unfold readMoment at found
  dsimp only at found
  split at found
  next =>
    split at found
    next =>
      obtain ⟨_, -, same⟩ := Option.map_eq_some_iff.mp found
      cases same
      exact alone
    next =>
      cases found
      exact alone
  next =>
    obtain ⟨_, -, same⟩ := Option.map_eq_some_iff.mp found
    cases same
    exact alone

theorem readReal_eq_real (found : readReal characters = some (value, rest)) : value = .real := by
  unfold readReal at found
  dsimp only at found
  split at found
  next =>
    cases found
    rfl
  next =>
    cases found
    rfl
  next =>
    simp only [Option.bind_eq_bind, Option.bind_eq_some_iff] at found
    obtain ⟨_, -, _, -, found⟩ := found
    split at found
    next => cases found
    next =>
      cases found
      rfl

theorem readWhole_ne_table (found : readWhole characters = some (value, rest)) (entries : Table) :
    value ≠ .table entries := by
  have based {base : Nat} {isDigit : Char → Bool} {digits : List Char}
      (found : readBased base isDigit digits = some (value, rest)) : value ≠ .table entries := by
    unfold readBased at found
    split at found
    next => cases found
    next =>
      dsimp only at found
      split at found
      next =>
        cases found
        nofun
      next => cases found
  unfold readWhole at found
  split at found
  next => exact based found
  next => exact based found
  next => exact based found
  next =>
    dsimp only at found
    simp only [Option.bind_eq_bind, Option.bind_eq_some_iff] at found
    obtain ⟨_, -, found⟩ := found
    split at found
    next =>
      split at found
      next =>
        cases found
        exact Value.ofInt_ne_table _ _
      next => cases found
    next =>
      split at found
      next =>
        cases found
        nofun
      next => cases found

theorem ascends_readScalar (found : readScalar characters = some (value, rest)) :
    value.Ascends := by
  simp only [readScalar, Option.orElse_eq_orElse, Option.orElse_eq_or, Option.or_eq_some_iff]
    at found
  rcases found with moment | ⟨-, real | ⟨-, whole⟩⟩
  · exact ascends_readMoment moment
  · exact Value.ascends_of_ne (by simp [readReal_eq_real real])
  · exact Value.ascends_of_ne (readWhole_ne_table whole)

theorem ascends_readValue (found : readValue fuel depth characters = some (value, rest)) :
    value.Ascends := by
  have ofText {characters : List Char} (found : (readString characters).map
      (fun read => (Value.text read.1, read.2)) = some (value, rest)) : value.Ascends := by
    obtain ⟨_, -, same⟩ := Option.map_eq_some_iff.mp found
    cases same
    exact Value.ascends_of_ne nofun
  rw [readValue.eq_def] at found
  split at found
  next => cases found
  next =>
    split at found
    next => exact ofText found
    next => exact ofText found
    next =>
      split at found
      next => exact Value.ascends_of_ne (readItems_ne_table found)
      next => cases found
    next =>
      split at found
      next =>
        split at found
        next =>
          cases found
          exact Value.ascends_table List.Pairwise.nil
        next => exact ascends_readPairs found
      next => cases found
    next =>
      cases found
      exact Value.ascends_of_ne nofun
    next =>
      cases found
      exact Value.ascends_of_ne nofun
    next => exact ascends_readScalar found

end Values

/-! ### A whole file -/

section Files

variable {document changed : Document} {characters rest : List Char}

theorem ascends_readAssignment (ascends : document.Ascends)
    (result : readAssignment document characters = some (changed, rest)) : changed.Ascends := by
  rw [readAssignment] at result
  simp only [Option.bind_eq_bind, Option.bind_eq_some_iff] at result
  obtain ⟨⟨path, after⟩, -, result⟩ := result
  split at result
  next =>
    split at result
    next =>
      simp only [Option.bind_eq_some_iff, Option.pure_def, Option.some.injEq,
        Prod.mk.injEq] at result
      obtain ⟨_, found, _, -, _, assigned, rfl, -⟩ := result
      exact ascends.assign (ascends_readValue found) assigned
    next => cases result
  next => cases result

theorem ascends_readHeader (ascends : document.Ascends)
    (result : readHeader document characters = some (changed, rest)) : changed.Ascends := by
  unfold readHeader at result
  split at result
  next =>
    split at result
    next =>
      obtain ⟨after, -, result⟩ := Option.bind_eq_some_iff.mp result
      split at result
      next =>
        obtain ⟨document, opened, same⟩ := Option.bind_eq_some_iff.mp result
        cases same
        exact ascends.openRow opened
      next => cases result
    next => cases result
  next =>
    split at result
    next =>
      obtain ⟨after, -, result⟩ := Option.bind_eq_some_iff.mp result
      split at result
      next =>
        obtain ⟨document, opened, same⟩ := Option.bind_eq_some_iff.mp result
        cases same
        exact ascends.openTable opened
      next => cases result
    next => cases result
  next => cases result

theorem ascends_readLinesOf {fuel : Nat} (ascends : document.Ascends)
    (result : readLinesOf fuel document characters = some changed) : changed.Ascends := by
  induction fuel generalizing document characters with
  | zero => cases result
  | succ fuel ih =>
      rw [readLinesOf] at result
      split at result
      next =>
        cases result
        exact ascends
      next =>
        split at result
        next header => exact ih (ascends_readHeader ascends header) result
        next => cases result
      next =>
        split at result
        next =>
          split at result
          next => exact ih ascends result
          next => cases result
        next =>
          split at result
          next assigned => exact ih (ascends_readAssignment ascends assigned) result
          next => cases result

end Files

/-- Whatever a settings file holds is in order: the keys of its tables ascend. -/
theorem ascends_of_read {source : String} {entries : Table} (result : read source = some entries) :
    ∀ entry ∈ entries, entry.2.Ascends := by
  obtain ⟨document, lines, finished⟩ := Option.bind_eq_some_iff.mp result
  have shaped : Document.blank.current.IsTable := trivial
  exact (ascends_readLinesOf Document.ascends_blank lines).finish
    (isTable_readLinesOf shaped lines) finished

end UnattendedRefresh.Toml
