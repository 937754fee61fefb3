import Mathlib.Data.List.Perm.Basic
import UnattendedRefresh.Ordered

/-!
# Maps and sets from their listings

A map is made from a list of its entries and a set from a list of its elements. Where no
key comes twice the order of the list is of no account: the map holds exactly what is
listed, so every listing of a map gives that map again.
-/

namespace UnattendedRefresh

variable {Key Value : Type} [Ord Key] [Std.LawfulEqOrd Key]

/-- An entry with a new key comes in beside the others. -/
theorem perm_insertEntry {key : Key} {entries : List (Key × Value)} (value : Value)
    (fresh : key ∉ entries.map (·.1)) :
    (insertEntry key value entries).Perm ((key, value) :: entries) := by
  induction entries with
  | nil => rfl
  | cons entry rest ih =>
      obtain ⟨apart, fresh⟩ : key ≠ entry.1 ∧ key ∉ rest.map (·.1) := by simpa using fresh
      simp only [insertEntry]
      split
      next => rfl
      next equal => exact absurd (Std.LawfulEqCmp.eq_of_compare equal) apart
      next => exact ((ih fresh).cons entry).trans (List.Perm.swap ..)

namespace OrderedMap

variable {entries : List (Key × Value)} {map other : OrderedMap Key Value}

theorem nodup_keys (map : OrderedMap Key Value) : (map.entries.map (·.1)).Nodup :=
  List.pairwise_map.mpr (map.ascending.imp fun less same => by simp [same] at less)

variable [Std.TransOrd Key]

omit [Std.LawfulEqOrd Key] in
/-- There is one ascending order only. -/
theorem eq_of_perm (alike : map.entries.Perm other.entries) : map = other := by
  obtain ⟨entries, ascending⟩ := map
  obtain ⟨others, othersAscending⟩ := other
  congr 1
  refine List.Perm.eq_of_pairwise (fun one other _ _ less more => ?_) ascending othersAscending
    alike
  have never := Std.OrientedCmp.gt_of_lt less
  simp [more] at never

/-- A map holds what is listed, if no key is listed twice. By induction on the list: what
has been taken already stays. -/
theorem perm_entries_ofList (distinct : (entries.map (·.1)).Nodup) :
    (ofList entries).entries.Perm entries := by
  suffices taken : ∀ map : OrderedMap Key Value,
      (∀ entry ∈ entries, entry.1 ∉ map.entries.map (·.1)) →
        (entries.foldl (fun map entry => map.insert entry.1 entry.2) map).entries.Perm
          (entries ++ map.entries) by
    exact (taken empty fun _ _ => List.not_mem_nil).trans (.of_eq (List.append_nil entries))
  induction entries with
  | nil => exact fun map _ => List.Perm.refl _
  | cons entry rest ih =>
      intro map fresh
      obtain ⟨apart, distinct⟩ := List.nodup_cons.mp distinct
      have inserted := perm_insertEntry entry.2 (fresh entry List.mem_cons_self)
      refine (ih distinct (map.insert entry.1 entry.2) fun later member listed => ?_).trans ?_
      · rcases List.mem_cons.mp ((inserted.map _).mem_iff.mp listed) with same | listed
        · have same : later.1 = entry.1 := same
          exact apart (List.mem_map.mpr ⟨later, member, same⟩)
        · exact fresh later (List.mem_cons_of_mem _ member) listed
      · exact (inserted.append_left rest).trans List.perm_middle

/-- Every listing of a map gives the map. -/
theorem ofList_of_perm (listing : entries.Perm map.entries) : ofList entries = map :=
  eq_of_perm ((perm_entries_ofList ((listing.map _).nodup_iff.mpr map.nodup_keys)).trans listing)

end OrderedMap

namespace OrderedSet

variable [Std.TransOrd Key] {keys : List Key} {set : OrderedSet Key}

theorem members_ofList (keys : List Key) :
    (ofList keys).members = OrderedMap.ofList (keys.map fun key => (key, ())) := by
  suffices taken : ∀ set : OrderedSet Key, (keys.foldl insert set).members =
      (keys.map fun key => (key, ())).foldl (fun map entry => map.insert entry.1 entry.2)
        set.members from taken empty
  induction keys with
  | nil => exact fun set => rfl
  | cons key rest ih => exact fun set => ih (set.insert key)

/-- Every listing of a set gives the set. -/
theorem ofList_of_perm (listing : keys.Perm set.toList) : ofList keys = set := by
  suffices same : (ofList keys).members = set.members from
    congrArg OrderedSet.mk same
  rw [members_ofList]
  refine OrderedMap.ofList_of_perm ((listing.map _).trans ?_)
  simp [toList, OrderedMap.keys, Function.comp_def]

end OrderedSet

end UnattendedRefresh
