/-!
# Ordered maps and sets

A finite map is an association list whose keys strictly ascend, and a finite
set is a strictly ascending list. Each content has exactly one such list, so
equality of maps and sets is equality of what they hold, and their listing
order is the order of the keys.
-/

namespace UnattendedRefresh

variable {Key Value Result : Type} [Ord Key]

abbrev AscendingKeys (entries : List (Key × Value)) : Prop :=
  entries.Pairwise (fun earlier later => compare earlier.1 later.1 = .lt)

def insertEntry (key : Key) (value : Value) : List (Key × Value) → List (Key × Value)
  | [] => [(key, value)]
  | entry :: rest =>
    match compare key entry.1 with
    | .lt => (key, value) :: entry :: rest
    | .eq => (key, value) :: rest
    | .gt => entry :: insertEntry key value rest

theorem mem_insertEntry {key : Key} {value : Value} {candidate : Key × Value}
    {entries : List (Key × Value)} (member : candidate ∈ insertEntry key value entries) :
    candidate = (key, value) ∨ candidate ∈ entries := by
  induction entries with
  | nil => simpa [insertEntry] using member
  | cons entry rest ih =>
      simp only [insertEntry] at member
      split at member
      · simpa using member
      · simp only [List.mem_cons] at member ⊢
        rcases member with member | member
        · exact Or.inl member
        · exact Or.inr (Or.inr member)
      · simp only [List.mem_cons] at member ⊢
        rcases member with member | member
        · exact Or.inr (Or.inl member)
        · rcases ih member with found | found
          · exact Or.inl found
          · exact Or.inr (Or.inr found)

theorem ascendingKeys_insertEntry [Std.TransOrd Key] [Std.LawfulEqOrd Key] (key : Key)
    (value : Value) {entries : List (Key × Value)} (ascending : AscendingKeys entries) :
    AscendingKeys (insertEntry key value entries) := by
  induction entries with
  | nil => simp [insertEntry, AscendingKeys]
  | cons entry rest ih =>
      have below := List.pairwise_cons.mp ascending
      simp only [insertEntry]
      split
      next less =>
        refine List.pairwise_cons.mpr ⟨?_, ascending⟩
        intro later member
        rcases List.mem_cons.mp member with same | member
        · simpa [same] using less
        · exact Std.TransCmp.lt_trans less (below.1 later member)
      next equal =>
        have same : key = entry.1 := Std.LawfulEqCmp.eq_of_compare equal
        refine List.pairwise_cons.mpr ⟨?_, below.2⟩
        intro later member
        simpa [same] using below.1 later member
      next greater =>
        refine List.pairwise_cons.mpr ⟨?_, ih below.2⟩
        intro later member
        rcases mem_insertEntry member with same | member
        · simpa [same] using Std.OrientedCmp.gt_iff_lt.mp greater
        · exact below.1 later member

/-- A finite map in its only form: entries by strictly ascending keys. -/
structure OrderedMap (Key Value : Type) [Ord Key] where
  entries : List (Key × Value)
  ascending : AscendingKeys entries

namespace OrderedMap

instance [DecidableEq Key] [DecidableEq Value] : DecidableEq (OrderedMap Key Value) :=
  fun left right =>
    if same : left.entries = right.entries then
      isTrue (by cases left; cases right; simp_all)
    else
      isFalse (fun equal => same (equal ▸ rfl))

def empty : OrderedMap Key Value :=
  ⟨[], List.Pairwise.nil⟩

instance : Inhabited (OrderedMap Key Value) := ⟨empty⟩

def find? [DecidableEq Key] (map : OrderedMap Key Value) (key : Key) : Option Value :=
  (map.entries.find? (fun entry => entry.1 = key)).map (·.2)

def size (map : OrderedMap Key Value) : Nat :=
  map.entries.length

def isEmpty (map : OrderedMap Key Value) : Bool :=
  map.entries.isEmpty

def keys (map : OrderedMap Key Value) : List Key :=
  map.entries.map (·.1)

def values (map : OrderedMap Key Value) : List Value :=
  map.entries.map (·.2)

def filter (keep : Key × Value → Bool) (map : OrderedMap Key Value) : OrderedMap Key Value :=
  ⟨map.entries.filter keep, map.ascending.filter keep⟩

def erase [DecidableEq Key] (map : OrderedMap Key Value) (key : Key) : OrderedMap Key Value :=
  map.filter (fun entry => entry.1 ≠ key)

variable [Std.TransOrd Key] [Std.LawfulEqOrd Key]

def insert (map : OrderedMap Key Value) (key : Key) (value : Value) : OrderedMap Key Value :=
  ⟨insertEntry key value map.entries, ascendingKeys_insertEntry key value map.ascending⟩

/-- Entries taken in turn; a later one replaces an earlier one with its key. -/
def ofList (entries : List (Key × Value)) : OrderedMap Key Value :=
  entries.foldl (fun map entry => map.insert entry.1 entry.2) empty

end OrderedMap

/-- A finite set in its only form: strictly ascending elements. -/
structure OrderedSet (Key : Type) [Ord Key] where
  members : OrderedMap Key Unit

namespace OrderedSet

instance [DecidableEq Key] : DecidableEq (OrderedSet Key) :=
  fun left right =>
    if same : left.members = right.members then
      isTrue (by cases left; cases right; simp_all)
    else
      isFalse (fun equal => same (equal ▸ rfl))

def empty : OrderedSet Key :=
  ⟨OrderedMap.empty⟩

instance : Inhabited (OrderedSet Key) := ⟨empty⟩

def toList (set : OrderedSet Key) : List Key :=
  set.members.keys

def contains [DecidableEq Key] (set : OrderedSet Key) (key : Key) : Bool :=
  (set.members.find? key).isSome

def size (set : OrderedSet Key) : Nat :=
  set.members.size

variable [Std.TransOrd Key] [Std.LawfulEqOrd Key]

def insert (set : OrderedSet Key) (key : Key) : OrderedSet Key :=
  ⟨set.members.insert key ()⟩

def ofList (keys : List Key) : OrderedSet Key :=
  keys.foldl insert empty

end OrderedSet

end UnattendedRefresh
