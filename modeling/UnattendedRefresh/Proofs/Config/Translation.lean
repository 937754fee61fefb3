import UnattendedRefresh.Proofs.Config.Variables
import UnattendedRefresh.Proofs.Identifier.Canonical
import UnattendedRefresh.Proofs.Ordered.Listings

/-!
# JSON as configuration

A JSON record becomes the table of its fields, whatever their order, and a list the list of
its items. Where the items are texts, or the fields are named by identifiers and hold
numbers that fit, these are read from it.
-/

namespace UnattendedRefresh.Config

/-! ### The table of a record -/

section Records

variable {fields : List (String × Json)}

theorem ofItems_eq_map (items : List Json) : Value.ofItems items = items.map Value.ofJson := by
  induction items with
  | nil => rfl
  | cons item items ih => rw [Value.ofItems, ih, List.map_cons]

theorem ascendingKeys_ofFields (fields : List (String × Json)) :
    AscendingKeys (Value.ofFields fields) := by
  induction fields with
  | nil => exact List.Pairwise.nil
  | cons entry fields ih => exact ascendingKeys_insertEntry _ _ ih

/-- Each field becomes an entry, if no name comes twice. -/
theorem perm_ofFields (distinct : (fields.map (·.1)).Nodup) :
    (Value.ofFields fields).Perm (fields.map fun entry => (entry.1, Value.ofJson entry.2)) := by
  induction fields with
  | nil => rfl
  | cons entry fields ih =>
      obtain ⟨apart, distinct⟩ := List.nodup_cons.mp distinct
      have alike := ih distinct
      have fresh : entry.1 ∉ (Value.ofFields fields).map (·.1) := by
        rw [(alike.map _).mem_iff]
        simpa using apart
      exact (perm_insertEntry _ fresh).trans (alike.cons _)

theorem valueAt?_ofFields_of_mem {entry : String × Json} (distinct : (fields.map (·.1)).Nodup)
    (member : entry ∈ fields) :
    valueAt? entry.1 (Value.ofFields fields) = some (Value.ofJson entry.2) :=
  (mem_iff_valueAt? (ascendingKeys_ofFields fields)).mp
    ((perm_ofFields distinct).mem_iff.mpr (List.mem_map_of_mem member))

theorem valueAt?_ofFields_of_notMem {key : String} (distinct : (fields.map (·.1)).Nodup)
    (absent : key ∉ fields.map (·.1)) : valueAt? key (Value.ofFields fields) = none := by
  refine valueAt?_eq_none_iff.mpr fun entry member same => absent ?_
  have listed := ((perm_ofFields distinct).map (·.1)).mem_iff.mp (List.mem_map_of_mem member)
  simpa [same] using listed

end Records

/-! ### Texts and rates -/

theorem readTextsFrom_texts (position : Nat) (texts : List String) :
    readTextsFrom position (texts.map Value.text) = .ok texts := by
  induction texts generalizing position with
  | nil => rfl
  | cons text texts ih =>
      rw [List.map_cons, readTextsFrom, ih]
      rfl

theorem readTextSet_texts {set : OrderedSet String} {texts : List String}
    (listing : texts.Perm set.toList) :
    readTextSet (.list (Value.ofItems (texts.map .text))) = .ok set := by
  have items : Value.ofItems (texts.map .text) = texts.map Value.text := by
    rw [ofItems_eq_map, List.map_map]
    rfl
  rw [items, readTextSet, readTextsFrom_texts, Except.map, OrderedSet.ofList_of_perm listing]

theorem readRates_rates (rates : List (Identifier × UInt32)) :
    readRates (rates.map fun entry => (entry.1.text, .natural entry.2.toNat)) = .ok rates := by
  induction rates with
  | nil => rfl
  | cons entry rates ih =>
      have fits : entry.2.toNat < UInt32.size := entry.2.toNat_lt
      simp only [List.map_cons, readRates, Identifier.ofText?_text, readNatural, fits, if_true, ih]
      simp [readAt, Except.map, Except.mapError, bind, Except.bind, pure, Except.pure]

end UnattendedRefresh.Config
