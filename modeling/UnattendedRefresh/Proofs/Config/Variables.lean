import Mathlib.Data.List.Perm.Basic
import UnattendedRefresh.Config.Variables
import UnattendedRefresh.Proofs.Config.Merging

/-!
# What variables say

A variable whose name leads to a key puts what it says over what stands there, and leaves
every other key as it was. So what stands at a key is known from the variables that lead
to it, and if there is one such variable it is what that one says.
-/

namespace UnattendedRefresh.Config

/-! ### Tables by their keys -/

section Tables

variable {key : String} {value : Value} {entries others below above : Table}

theorem mem_iff_valueAt? (ascending : AscendingKeys entries) :
    (key, value) ∈ entries ↔ valueAt? key entries = some value :=
  ⟨valueAt?_of_mem ascending, exists_mem_of_valueAt?⟩

theorem nodup_of_ascendingKeys (ascending : AscendingKeys entries) : entries.Nodup :=
  List.Pairwise.imp (fun less same => by simp [same] at less) ascending

/-- A table is known by what stands at its keys. -/
theorem eq_of_valueAt? (ascending : AscendingKeys entries) (othersAscending : AscendingKeys others)
    (same : ∀ key, valueAt? key entries = valueAt? key others) : entries = others := by
  have alike : entries.Perm others := by
    refine (List.perm_ext_iff_of_nodup (nodup_of_ascendingKeys ascending)
      (nodup_of_ascendingKeys othersAscending)).mpr fun ⟨key, value⟩ => ?_
    rw [mem_iff_valueAt? ascending, mem_iff_valueAt? othersAscending, same]
  refine List.Perm.eq_of_pairwise (fun one other _ _ less more => ?_) ascending othersAscending
    alike
  have never := Std.OrientedCmp.gt_of_lt less
  simp [more] at never

theorem valueAt?_filter (keep : String → Bool) (key : String) (entries : Table) :
    valueAt? key (entries.filter fun entry => keep entry.1) =
      if keep key then valueAt? key entries else none := by
  have sought (entry : String × Value) : (keep entry.1 = true ∧ entry.1 = key) ↔
      (keep key = true ∧ entry.1 = key) :=
    and_congr_left fun here => by rw [here]
  rw [valueAt?, List.find?_filter]
  simp only [decide_eq_true_eq, sought]
  cases keep key <;> simp [valueAt?]

/-- What stands at a key after a merge: what the later layer says over what was there. -/
theorem valueAt?_mergeEntries (ascending : AscendingKeys above) :
    valueAt? key (mergeEntries below above) =
      match valueAt? key above with
      | some value => some (mergedAt below (key, value))
      | none => valueAt? key below := by
  split
  next said => exact valueAt?_mergeEntries_of_some ascending said
  next silent => exact valueAt?_mergeEntries_of_none silent

theorem mergedAt_congr (same : valueAt? key below = valueAt? key above) (value : Value) :
    mergedAt below (key, value) = mergedAt above (key, value) := by
  rw [mergedAt, mergedAt, same]

theorem mergedAt_of_none (silent : valueAt? key below = none) (value : Value) :
    mergedAt below (key, value) = value := by
  rw [mergedAt, silent]

/-- Laying a table over nothing changes nothing. -/
theorem mergeEntries_nil (ascending : AscendingKeys entries) :
    mergeEntries [] entries = entries := by
  refine eq_of_valueAt? (ascendingKeys_mergeEntries entries List.Pairwise.nil) ascending
    fun key => ?_
  rw [valueAt?_mergeEntries ascending]
  split
  next said => rw [mergedAt_of_none rfl, said]
  next silent => rw [silent, valueAt?, List.find?_nil, Option.map_none]

end Tables

/-! ### Where a variable leads -/

/-- The keys that the name of a variable leads through; none if it is not meant. -/
def pathAfter (start name : String) : List String :=
  match withoutPrefix? start name with
  | some rest => pathOf rest
  | none => []

section Adding

variable {start key : String} {path : List String} {below others : Table} {value : Value}
  {binding : String × String} {bindings : Variables}

theorem addVariable_of_nil (nowhere : pathAfter start binding.1 = []) :
    addVariable start below binding = below := by
  rw [pathAfter] at nowhere
  simp only [addVariable]
  split
  next => rfl
  next found =>
    rw [found] at nowhere
    dsimp only at nowhere
    rw [nowhere]
    split <;> rfl

theorem addVariable_of_cons (binding : String × String) (below : Table)
    (leads : pathAfter start binding.1 = key :: path) :
    addVariable start below binding =
      insertEntry key (mergedAt below (key, nest path (Literal.read binding.2))) below := by
  rw [pathAfter] at leads
  split at leads
  next found =>
    simp only [addVariable, found, leads, nest, List.isEmpty_cons, Bool.false_eq_true, if_false]
    rw [mergeEntries_cons, mergeEntries]
  next => cases leads

theorem ascendingKeys_ofVariables (start : String) (bindings : Variables) :
    AscendingKeys (ofVariables start bindings) := by
  suffices kept : ∀ below, AscendingKeys below →
      AscendingKeys (bindings.foldl (addVariable start) below) from kept [] List.Pairwise.nil
  induction bindings with
  | nil => exact fun below ascending => ascending
  | cons binding bindings ih =>
      intro below ascending
      apply ih
      cases leads : pathAfter start binding.1 with
      | nil => rwa [addVariable_of_nil leads]
      | cons key path =>
          rw [addVariable_of_cons binding below leads]
          exact ascendingKeys_insertEntry _ _ ascending

theorem valueAt?_addVariable (apart : (pathAfter start binding.1).head? ≠ some key) :
    valueAt? key (addVariable start below binding) = valueAt? key below := by
  cases leads : pathAfter start binding.1 with
  | nil => rw [addVariable_of_nil leads]
  | cons first rest =>
      have apart : first ≠ key := by simpa [leads] using apart
      rw [addVariable_of_cons binding below leads, valueAt?_insertEntry, if_neg apart]

/-- What comes to stand at a key depends on nothing but what stood there. -/
theorem valueAt?_addVariable_congr (binding : String × String)
    (same : valueAt? key below = valueAt? key others) :
    valueAt? key (addVariable start below binding) =
      valueAt? key (addVariable start others binding) := by
  by_cases apart : (pathAfter start binding.1).head? = some key
  · obtain ⟨rest, leads⟩ := List.head?_eq_some_iff.mp apart
    rw [addVariable_of_cons binding below leads, addVariable_of_cons binding others leads,
      valueAt?_insertEntry, valueAt?_insertEntry, mergedAt_congr same]
    simp
  · rw [valueAt?_addVariable apart, valueAt?_addVariable apart, same]

/-- Variables that lead elsewhere may be left out. -/
theorem valueAt?_foldl_filter {keep : String × String → Bool}
    (keeps : ∀ binding ∈ bindings, (pathAfter start binding.1).head? = some key →
      keep binding = true)
    (same : valueAt? key below = valueAt? key others) :
    valueAt? key ((bindings.filter keep).foldl (addVariable start) below) =
      valueAt? key (bindings.foldl (addVariable start) others) := by
  induction bindings generalizing below others with
  | nil => exact same
  | cons binding bindings ih =>
      obtain ⟨first, rest⟩ := List.forall_mem_cons.mp keeps
      cases kept : keep binding with
      | true =>
          rw [List.filter_cons_of_pos kept, List.foldl_cons, List.foldl_cons]
          exact ih rest (valueAt?_addVariable_congr binding same)
      | false =>
          have apart : (pathAfter start binding.1).head? ≠ some key := fun named => by
            simp [first named] at kept
          rw [List.filter_cons_of_neg (by simp [kept]), List.foldl_cons]
          exact ih rest (by rw [valueAt?_addVariable apart, same])

theorem valueAt?_ofVariables_filter {keep : String × String → Bool}
    (keeps : ∀ binding ∈ bindings, (pathAfter start binding.1).head? = some key →
      keep binding = true) :
    valueAt? key (ofVariables start (bindings.filter keep)) =
      valueAt? key (ofVariables start bindings) :=
  valueAt?_foldl_filter keeps rfl

/-- What a variable says at a key, if it leads there. -/
def saying? (start key : String) (binding : String × String) : Option Value :=
  match pathAfter start binding.1 with
  | [] => none
  | first :: path => if first = key then some (nest path (Literal.read binding.2)) else none

theorem saying?_of_cons (leads : pathAfter start binding.1 = key :: path) :
    saying? start key binding = some (nest path (Literal.read binding.2)) := by
  simp [saying?, leads]

theorem saying?_eq_none_iff :
    saying? start key binding = none ↔ (pathAfter start binding.1).head? ≠ some key := by
  unfold saying?
  split
  next leads => simp [leads]
  next leads => simp [leads]

/-- Where at most one variable leads to a key, what it says stands there. -/
theorem valueAt?_ofVariables_of_once
    (once : bindings.Pairwise fun one other => (pathAfter start one.1).head? = some key →
      (pathAfter start other.1).head? ≠ some key) :
    valueAt? key (ofVariables start bindings) = bindings.findSome? (saying? start key) := by
  -- Whatever stands there before, unless the one variable is still to come.
  suffices added : ∀ below, (valueAt? key below = none ∨
      ∀ binding ∈ bindings, (pathAfter start binding.1).head? ≠ some key) →
      valueAt? key (bindings.foldl (addVariable start) below) =
        (bindings.findSome? (saying? start key)).or (valueAt? key below) from
    (added [] (Or.inl rfl)).trans (Option.or_none ..)
  induction bindings with
  | nil => exact fun below _ => rfl
  | cons binding bindings ih =>
      obtain ⟨alone, once⟩ := List.pairwise_cons.mp once
      intro below free
      rw [List.foldl_cons]
      by_cases named : (pathAfter start binding.1).head? = some key
      · have others := fun other member => alone other member named
        have silent : bindings.findSome? (saying? start key) = none :=
          List.findSome?_eq_none_iff.mpr fun other member =>
            saying?_eq_none_iff.mpr (others other member)
        have nothing : valueAt? key below = none :=
          free.resolve_right fun apart => apart binding List.mem_cons_self named
        obtain ⟨rest, leads⟩ := List.head?_eq_some_iff.mp named
        rw [ih once _ (Or.inr others), silent, Option.none_or, addVariable_of_cons _ _ leads,
          valueAt?_insertEntry, if_pos rfl, mergedAt_of_none nothing,
          List.findSome?_cons_of_isSome (by simp [saying?_of_cons leads]),
          saying?_of_cons leads, Option.some_or]
      · have kept : valueAt? key (addVariable start below binding) = valueAt? key below :=
          valueAt?_addVariable named
        rw [ih once _ (free.imp (fun none => kept.trans none) fun apart other member =>
          apart other (List.mem_cons_of_mem _ member)), kept]
        simp [saying?_eq_none_iff.mpr named]

end Adding

/-! ### The tables that variables hold -/

/-- If the value is a table, its keys ascend. -/
def Value.Ascends (value : Value) : Prop :=
  ∀ entries, value = .table entries → AscendingKeys entries

theorem Value.ascends_table {entries : Table} (ascending : AscendingKeys entries) :
    (Value.table entries).Ascends :=
  fun _ same => Value.table.inj same ▸ ascending

theorem Value.ascends_of_ne {value : Value} (other : ∀ entries, value ≠ .table entries) :
    value.Ascends :=
  fun entries same => absurd same (other entries)

theorem ascends_merge {below above : Value} (lower : below.Ascends) (upper : above.Ascends) :
    (merge below above).Ascends := by
  cases above with
  | table entries =>
      cases below with
      | table before =>
          rw [merge]
          exact Value.ascends_table (ascendingKeys_mergeEntries entries (lower before rfl))
      | _ => exact upper
  | _ => simpa [merge] using upper

theorem ascends_nest {path : List String} {value : Value} (inner : value.Ascends) :
    (nest path value).Ascends := by
  cases path with
  | nil => exact inner
  | cons key path => exact Value.ascends_table (List.pairwise_singleton _ _)

theorem Value.ofInt_ne_table (number : Int) (entries : Table) : ofInt number ≠ .table entries := by
  cases number <;> simp [ofInt]

namespace Literal

theorem ofBare_ne_table (word : List Char) (entries : Table) : ofBare word ≠ .table entries := by
  unfold ofBare
  split
  next => simp
  next =>
    split
    next => simp
    next =>
      split
      next =>
        split
        next => exact Value.ofInt_ne_table _ _
        next => simp
      next => simp

variable {fuel : Nat} {earlier : Table} {characters rest : List Char} {value : Value}

theorem ascends_readTable (ascending : AscendingKeys earlier)
    (found : readTable fuel earlier characters = some (value, rest)) : value.Ascends := by
  induction fuel generalizing earlier characters with
  | zero => simp [readTable] at found
  | succ fuel ih =>
      rw [readTable.eq_def] at found
      dsimp only at found
      split at found
      next => simp at found
      next =>
        cases found
        exact Value.ascends_table ascending
      next same _ =>
        obtain rfl := Nat.succ.inj same
        split at found
        next =>
          split at found
          next =>
            split at found
            next => exact ih (ascendingKeys_insertEntry _ _ ascending) found
            next =>
              cases found
              exact Value.ascends_table (ascendingKeys_insertEntry _ _ ascending)
            next => cases found
          next => cases found
        next => cases found

theorem readList_ne_table {items : List Value}
    (found : readList fuel items characters = some (value, rest)) (entries : Table) :
    value ≠ .table entries := by
  induction fuel generalizing items characters with
  | zero => simp [readList] at found
  | succ fuel ih =>
      rw [readList.eq_def] at found
      split at found
      next => cases found
      next =>
        cases found
        nofun
      next same _ =>
        obtain rfl := Nat.succ.inj same
        split at found
        next => exact ih found
        next =>
          cases found
          nofun
        next => cases found

theorem ascends_readValue (found : readValue fuel characters = some (value, rest)) :
    value.Ascends := by
  cases fuel with
  | zero => simp [readValue] at found
  | succ fuel =>
      rw [readValue] at found
      obtain ⟨⟨value, left⟩, inside, same⟩ := Option.map_eq_some_iff.mp found
      cases same
      split at inside
      next =>
        cases inside
        exact Value.ascends_of_ne nofun
      next =>
        cases inside
        exact Value.ascends_of_ne nofun
      next => exact ascends_readTable List.Pairwise.nil inside
      next => exact Value.ascends_of_ne (readList_ne_table inside)
      next =>
        obtain ⟨_, -, same⟩ := Option.map_eq_some_iff.mp inside
        cases same
        exact Value.ascends_of_ne nofun
      next =>
        split at inside
        next =>
          cases inside
          exact Value.ascends_of_ne nofun
        next => cases inside
      next =>
        cases inside
        exact Value.ascends_of_ne (ofBare_ne_table _)

theorem ascends_read (source : String) : (read source).Ascends := by
  unfold read
  dsimp only
  split
  next found => exact ascends_readValue found
  next => exact Value.ascends_of_ne nofun

end Literal

/-- By induction on the variables: each puts what it holds over what stood there. -/
theorem ascends_of_ofVariables {start key : String} {bindings : Variables} {value : Value}
    (found : valueAt? key (ofVariables start bindings) = some value) : value.Ascends := by
  suffices kept : ∀ below, (∀ value, valueAt? key below = some value → value.Ascends) →
      ∀ value, valueAt? key (bindings.foldl (addVariable start) below) = some value →
        value.Ascends from
    kept [] (by simp [valueAt?]) value found
  clear found value
  induction bindings with
  | nil => exact fun below lower => lower
  | cons binding bindings ih =>
      intro below lower
      refine ih _ fun value found => ?_
      by_cases apart : (pathAfter start binding.1).head? = some key
      · obtain ⟨path, leads⟩ := List.head?_eq_some_iff.mp apart
        rw [addVariable_of_cons binding below leads, valueAt?_insertEntry, if_pos rfl] at found
        obtain rfl := Option.some.inj found
        have upper : (nest path (Literal.read binding.2)).Ascends :=
          ascends_nest (Literal.ascends_read binding.2)
        unfold mergedAt
        split
        next old before => exact ascends_merge (lower old before) upper
        next => exact upper
      · exact lower value (by rwa [valueAt?_addVariable apart] at found)

end UnattendedRefresh.Config
