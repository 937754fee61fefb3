import UnattendedRefresh.Config.Reading

/-!
# What a merged table holds

A merge is by the text of the keys: at a key that the later layer has stands what it
says, merged with what was there before, and elsewhere what was there before. What is
read from the merged table is read in the order of its keys.
-/

namespace UnattendedRefresh

section Lookup

variable {Key Value : Type} [Ord Key] [Std.TransOrd Key] [Std.LawfulEqOrd Key] [DecidableEq Key]

omit [Std.TransOrd Key] in
theorem find?_insertEntry (key sought : Key) (value : Value) (entries : List (Key × Value)) :
    ((insertEntry key value entries).find? (·.1 = sought)).map (·.2) =
      if key = sought then some value else (entries.find? (·.1 = sought)).map (·.2) := by
  induction entries with
  | nil => by_cases same : key = sought <;> simp [insertEntry, same]
  | cons entry rest ih =>
      simp only [insertEntry]
      split
      next => by_cases same : key = sought <;> simp [List.find?_cons, same]
      next equal =>
        obtain rfl : key = entry.1 := Std.LawfulEqCmp.eq_of_compare equal
        by_cases same : entry.1 = sought <;> simp [same]
      next greater =>
        have apart : key ≠ entry.1 := by
          rintro rfl
          simp at greater
        rw [List.find?_cons, List.find?_cons]
        by_cases here : entry.1 = sought
        · simp [here, here ▸ apart]
        · simpa [here] using ih

/-- Of several entries with one key the last holds. -/
theorem OrderedMap.find?_ofList (entries : List (Key × Value)) (sought : Key) :
    (OrderedMap.ofList entries).find? sought =
      (entries.filter (·.1 = sought)).getLast?.map (·.2) := by
  -- What the entries do not name is as the map had it before.
  have taken (map : OrderedMap Key Value) :
      (entries.foldl (fun map entry => map.insert entry.1 entry.2) map).find? sought =
        ((entries.filter (·.1 = sought)).getLast?.map (·.2)).or (map.find? sought) := by
    induction entries generalizing map with
    | nil => rfl
    | cons entry rest ih =>
        rw [List.foldl_cons, ih, OrderedMap.find?, OrderedMap.insert, find?_insertEntry,
          List.filter_cons]
        by_cases here : entry.1 = sought
        · cases last : (rest.filter (·.1 = sought)).getLast? <;>
            simp [here, last, List.getLast?_cons]
        · simp [here, OrderedMap.find?]
  exact (taken OrderedMap.empty).trans (Option.or_none ..)

end Lookup

namespace Config

theorem valueAt?_insertEntry (key sought : String) (value : Value) (entries : Table) :
    valueAt? sought (insertEntry key value entries) =
      if key = sought then some value else valueAt? sought entries :=
  find?_insertEntry key sought value entries

theorem valueAt?_eq_none_iff {key : String} {entries : Table} :
    valueAt? key entries = none ↔ ∀ entry ∈ entries, entry.1 ≠ key := by
  simp [valueAt?]

/-- Where keys ascend, what an entry says is what stands at its key. -/
theorem valueAt?_of_mem {entry : String × Value} {entries : Table}
    (ascending : AscendingKeys entries) (member : entry ∈ entries) :
    valueAt? entry.1 entries = some entry.2 := by
  induction entries with
  | nil => cases member
  | cons head rest ih =>
      obtain ⟨below, ascending⟩ := List.pairwise_cons.mp ascending
      rcases List.mem_cons.mp member with rfl | member
      · simp [valueAt?]
      · have apart : head.1 ≠ entry.1 := by
          intro same
          simpa [same] using below entry member
        simpa [valueAt?, List.find?_cons, apart] using ih ascending member

theorem exists_mem_of_valueAt? {key : String} {value : Value} {entries : Table}
    (found : valueAt? key entries = some value) : (key, value) ∈ entries := by
  obtain ⟨entry, first, rfl⟩ := Option.map_eq_some_iff.mp found
  obtain rfl : entry.1 = key := by simpa using List.find?_some first
  exact List.mem_of_find?_eq_some first

/-- What comes to stand at the key of an entry. -/
def mergedAt (below : Table) (entry : String × Value) : Value :=
  match valueAt? entry.1 below with
  | some old => merge old entry.2
  | none => entry.2

theorem mergeEntries_cons (below : Table) (entry : String × Value) (rest : Table) :
    mergeEntries below (entry :: rest) =
      mergeEntries (insertEntry entry.1 (mergedAt below entry) below) rest := by
  rw [mergeEntries]
  rfl

theorem ascendingKeys_mergeEntries {below : Table} (above : Table)
    (ascending : AscendingKeys below) : AscendingKeys (mergeEntries below above) := by
  induction above generalizing below with
  | nil => exact ascending
  | cons entry rest ih =>
      rw [mergeEntries_cons]
      exact ih (ascendingKeys_insertEntry _ _ ascending)

theorem valueAt?_mergeEntries_of_none {key : String} {below above : Table}
    (silent : valueAt? key above = none) :
    valueAt? key (mergeEntries below above) = valueAt? key below := by
  induction above generalizing below with
  | nil => rfl
  | cons entry rest ih =>
      have apart := valueAt?_eq_none_iff.mp silent
      rw [mergeEntries_cons, ih, valueAt?_insertEntry,
        if_neg (apart entry List.mem_cons_self)]
      exact valueAt?_eq_none_iff.mpr fun other member =>
        apart other (List.mem_cons_of_mem _ member)

/-- At a key of the later layer stands what it says over what was there before. -/
theorem valueAt?_mergeEntries_of_some {key : String} {value : Value} {below above : Table}
    (ascending : AscendingKeys above) (said : valueAt? key above = some value) :
    valueAt? key (mergeEntries below above) = some (mergedAt below (key, value)) := by
  induction above generalizing below with
  | nil => simp [valueAt?] at said
  | cons entry rest ih =>
      obtain ⟨before, ascending⟩ := List.pairwise_cons.mp ascending
      rw [mergeEntries_cons]
      by_cases here : entry.1 = key
      · obtain rfl : entry = (key, value) := by
          obtain rfl : entry.2 = value := by simpa [valueAt?, List.find?_cons, here] using said
          exact Prod.ext here rfl
        rw [valueAt?_mergeEntries_of_none, valueAt?_insertEntry, if_pos rfl]
        refine valueAt?_eq_none_iff.mpr fun other member same => ?_
        simpa [same] using before other member
      · have said : valueAt? key rest = some value := by
          simpa [valueAt?, List.find?_cons, here] using said
        have same : mergedAt (insertEntry entry.1 (mergedAt below entry) below) (key, value) =
            mergedAt below (key, value) := by
          simp only [mergedAt, valueAt?_insertEntry, if_neg here]
        rw [ih ascending said, same]

theorem valueAt?_mergeEntries_isSome {key : String} {below above : Table} :
    (valueAt? key (mergeEntries below above)).isSome ↔
      (valueAt? key below).isSome ∨ (valueAt? key above).isSome := by
  induction above generalizing below with
  | nil => simp [mergeEntries, valueAt?]
  | cons entry rest ih =>
      rw [mergeEntries_cons, ih, valueAt?_insertEntry]
      by_cases here : entry.1 = key <;> simp [valueAt?, here]

/-- A number comes to stand only where the later layer says so. -/
theorem eq_natural_of_mergedAt {below : Table} {entry : String × Value} {number : Nat}
    (merged : mergedAt below entry = .natural number) : entry.2 = .natural number := by
  unfold mergedAt at merged
  split at merged
  next old _ =>
    cases said : entry.2 with
    | table above =>
        rw [said] at merged
        cases old <;> cases merged
    | natural => simpa [said, merge] using merged
    | _ => simp [said, merge] at merged
  next => exact merged

/-- A number in a merged table is one of the later layer, or one of the earlier at a
key that the later does not have. -/
theorem natural_of_mergeEntries {key : String} {number : Nat} {below above : Table}
    (found : valueAt? key (mergeEntries below above) = some (.natural number)) :
    (key, .natural number) ∈ above ∨
      valueAt? key above = none ∧ valueAt? key below = some (.natural number) := by
  induction above generalizing below with
  | nil => exact Or.inr ⟨rfl, found⟩
  | cons entry rest ih =>
      rw [mergeEntries_cons] at found
      rcases ih found with later | ⟨silent, found⟩
      · exact Or.inl (List.mem_cons_of_mem _ later)
      · rw [valueAt?_insertEntry] at found
        split at found
        next here =>
          have said := eq_natural_of_mergedAt (Option.some.inj found)
          exact Or.inl (by simp [← here, ← said])
        next apart => exact Or.inr ⟨by simpa [valueAt?, List.find?_cons, apart] using silent, found⟩

/-- The entry is for the identifier, however it is spelled. -/
def Names (identifier : Identifier) (entry : String × Value) : Bool :=
  Identifier.ofText? entry.1 = some identifier

section Reading

variable {Kind Next : Type} {reading : Reading Kind} {value : Kind}

theorem readAt_eq_ok {key : String} : readAt key reading = .ok value ↔ reading = .ok value := by
  cases reading with
  | error => exact ⟨nofun, nofun⟩
  | ok => rfl

theorem bind_eq_ok {next : Kind → Reading Next} {result : Next} :
    reading >>= next = .ok result ↔ ∃ value, reading = .ok value ∧ next value = .ok result := by
  cases reading with
  | error => exact ⟨nofun, fun ⟨_, other, _⟩ => nomatch other⟩
  | ok value => exact ⟨fun onward => ⟨value, rfl, onward⟩, fun ⟨_, rfl, onward⟩ => onward⟩

theorem map_eq_ok {change : Kind → Next} {result : Next} :
    reading.map change = .ok result ↔ ∃ value, reading = .ok value ∧ change value = result := by
  cases reading with
  | error => exact ⟨nofun, fun ⟨_, other, _⟩ => nomatch other⟩
  | ok value =>
      exact ⟨fun same => ⟨value, rfl, Except.ok.inj same⟩, fun ⟨_, rfl, same⟩ => same ▸ rfl⟩

theorem readNatural_eq_ok {bound number : Nat} {value : Value} :
    readNatural bound value = .ok number ↔ value = .natural number ∧ number < bound := by
  cases value with
  | natural own =>
      by_cases fits : own < bound
      · simp only [readNatural, fits, if_true, Except.ok.injEq, Value.natural.injEq]
        exact ⟨fun same => ⟨same, same ▸ fits⟩, And.left⟩
      · simp only [readNatural, fits, if_false, reduceCtorEq, Value.natural.injEq, false_iff]
        exact fun ⟨same, low⟩ => fits (same ▸ low)
  | _ => simp [readNatural]

end Reading

/-- Entries are read only if each names an identifier and says a number that fits. -/
theorem readRates_cons {entry : String × Value} {rest : Table}
    {rates : List (Identifier × UInt32)} (read : readRates (entry :: rest) = .ok rates) :
    ∃ identifier rate others, Identifier.ofText? entry.1 = some identifier ∧
      entry.2 = .natural (UInt32.toNat rate) ∧ readRates rest = .ok others ∧
      rates = (identifier, rate) :: others := by
  rw [readRates, bind_eq_ok] at read
  obtain ⟨first, one, read⟩ := read
  obtain ⟨others, further, same⟩ := bind_eq_ok.mp read
  rw [readAt_eq_ok] at one
  cases named : Identifier.ofText? entry.1 with
  | none => simp [named] at one
  | some identifier =>
      rw [named] at one
      obtain ⟨number, taken, rfl⟩ := map_eq_ok.mp one
      obtain ⟨said, fits⟩ := readNatural_eq_ok.mp taken
      refine ⟨identifier, UInt32.ofNat number, others, rfl, ?_, further, ?_⟩
      · rw [said, UInt32.toNat_ofNat_of_lt' fits]
      · exact (Except.ok.inj same).symm

theorem filter_readRates (identifier : Identifier) {entries : Table}
    {rates : List (Identifier × UInt32)} (read : readRates entries = .ok rates) :
    (entries.filter (Names identifier)).map (·.2) =
      (rates.filter (·.1 = identifier)).map fun entry => .natural entry.2.toNat := by
  induction entries generalizing rates with
  | nil =>
      obtain rfl := Except.ok.inj read
      rfl
  | cons entry rest ih =>
      obtain ⟨named, rate, others, spelled, said, further, rfl⟩ := readRates_cons read
      by_cases same : named = identifier
      · simp [Names, spelled, same, said, ih further]
      · simp [Names, spelled, same, ih further]

/-- The rate read for an identifier is that of the last entry that names it. -/
theorem find?_readRateTable {entries : Table} {rates : OrderedMap Identifier UInt32}
    (read : readRateTable (.table entries) = .ok rates) (identifier : Identifier) :
    (entries.filter (Names identifier)).getLast?.map (·.2) =
      (rates.find? identifier).map fun rate => .natural rate.toNat := by
  obtain ⟨listed, listing, rfl⟩ := map_eq_ok.mp read
  rw [OrderedMap.find?_ofList, Option.map_map, ← List.getLast?_map, ← List.getLast?_map,
    filter_readRates identifier listing]
  rfl

end Config

end UnattendedRefresh
