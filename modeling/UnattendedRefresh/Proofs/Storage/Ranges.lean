import UnattendedRefresh.Proofs.Identifier.Bytes
import UnattendedRefresh.Storage.Rows
import Mathlib.Data.List.Nodup

/-!
# Looking up a range

A store is asked for a range piece by piece, each piece an interval in the order of
the bytes. The pieces do not wrap, do not meet, and together hold what the range
holds; so the answers put together are the users of the tenant inside the range, each
once, and one piece that fails leaves no answer at all.
-/

namespace UnattendedRefresh

namespace IdRange

/-- The identifier is on the piece, both ends included. -/
def Covers (piece : Identifier × Identifier) (identifier : Identifier) : Prop :=
  piece.1 ≤ identifier ∧ identifier ≤ piece.2

instance (piece : Identifier × Identifier) (identifier : Identifier) :
    Decidable (Covers piece identifier) :=
  inferInstanceAs (Decidable (_ ∧ _))

/-- One or two pieces, none of them empty or wrapping, no two of them with a common
identifier, and together all of the range. -/
structure CutInto (range : IdRange) (pieces : List (Identifier × Identifier)) : Prop where
  count : pieces.length = 1 ∨ pieces.length = 2
  nonempty : ∀ piece ∈ pieces, ∃ identifier, Covers piece identifier
  straight : ∀ piece ∈ pieces, (IdRange.mk piece.1 piece.2).wraps = false
  disjoint : pieces.Pairwise fun piece other =>
    ∀ identifier, Covers piece identifier → ¬ Covers other identifier
  covers : ∀ identifier,
    (∃ piece ∈ pieces, Covers piece identifier) ↔ range.contains identifier = true

variable {range : IdRange}

/-- A piece with ends in order does not wrap and holds its own left end. -/
theorem straight_of_le {left right : Identifier} (ordered : left ≤ right) :
    (IdRange.mk left right).wraps = false ∧ Covers (left, right) left := by
  refine ⟨?_, Nat.le_refl _, ordered⟩
  simpa [wraps] using Identifier.le_iff.mp ordered

theorem cut_of_straight (straight : range.wraps = false) :
    range.CutInto [(range.left, range.right)] := by
  have ordered : range.left ≤ range.right :=
    Identifier.le_iff.mpr (by simpa [wraps] using straight)
  have piece := straight_of_le ordered
  constructor
  · exact Or.inl rfl
  · simpa using ⟨_, piece.2⟩
  · simpa using piece.1
  · simp
  · intro identifier
    simp [contains, straight, Covers, Identifier.le_iff]

theorem cut_of_wraps (wraps : range.wraps = true) :
    range.CutInto [(range.left, Identifier.greatest), (Identifier.least, range.right)] := by
  have crossed : range.right.number < range.left.number := by
    simpa [IdRange.wraps] using wraps
  have tail := straight_of_le range.left.le_greatest
  have head := straight_of_le range.right.least_le
  constructor
  · exact Or.inr rfl
  · simpa using ⟨⟨_, tail.2⟩, ⟨_, head.2⟩⟩
  · simpa using ⟨tail.1, head.1⟩
  · simp only [List.pairwise_pair]
    rintro identifier ⟨above, -⟩ ⟨-, below⟩
    exact absurd (Nat.le_trans above below) (Nat.not_le.mpr crossed)
  · intro identifier
    have top := Identifier.le_iff.mp identifier.le_greatest
    have bottom := Identifier.le_iff.mp identifier.least_le
    simp [contains, wraps, Covers, Identifier.le_iff, top, bottom]

theorem cutInto_segments (range : IdRange) : range.CutInto range.segments := by
  cases around : range.wraps with
  | false => simpa [segments, around] using cut_of_straight around
  | true => simpa [segments, around] using cut_of_wraps around

end IdRange

namespace Storage

namespace Database

/-- The users of a tenant, in the order of the table. -/
def usersOf (database : Database) (tenant : TenantId) : List UserId :=
  (database.users.filter (·.clientId = some tenant)).filterMap UserRow.id

/-- The users of a tenant from one identifier to another in the order of the bytes. -/
def usersBytewise (database : Database) (tenant : TenantId) (left right : UserId) :
    List UserId :=
  (database.usersOf tenant).filter fun id =>
    (compare left.bytes id.bytes).isLE && (compare id.bytes right.bytes).isLE

variable {database : Database} {tenant : TenantId}

theorem usersBetween_eq_filter (left right : UserId) :
    database.usersBetween tenant left right =
      (database.usersOf tenant).filter fun id => IdRange.Covers (left, right) id := by
  rw [usersBetween, usersOf, List.filter_filterMap]
  rfl

theorem usersBetween_eq_usersBytewise (left right : UserId) :
    database.usersBetween tenant left right = database.usersBytewise tenant left right := by
  rw [usersBetween_eq_filter, usersBytewise]
  refine List.filter_congr fun id _ => ?_
  rw [Bool.eq_iff_iff, decide_eq_true_eq, Bool.and_eq_true, Identifier.isLE_compare_bytes,
    Identifier.isLE_compare_bytes]
  rfl

/-- The first piece that fails is the answer; if none fails, the answers to the pieces
one after another are. -/
theorem usersInSegments_eq (pieces : List (UserId × UserId)) :
    database.usersInSegments tenant pieces =
      match pieces.find? fun piece => database.fails (.usersInRange tenant piece.1 piece.2) with
      | some piece => .error (Statement.usersInRange tenant piece.1 piece.2).failure
      | none => .ok (pieces.flatMap fun piece => database.usersBetween tenant piece.1 piece.2) := by
  induction pieces with
  | nil => rfl
  | cons piece pieces ih =>
      rw [usersInSegments, ih, List.find?_cons]
      cases failing : database.fails (.usersInRange tenant piece.1 piece.2) with
      | true =>
          simp only [ask, failing, if_true]
          rfl
      | false =>
          simp only [ask, failing, Bool.false_eq_true, if_false]
          cases pieces.find? fun piece =>
              database.fails (.usersInRange tenant piece.1 piece.2) <;> rfl

theorem nodup_usersOf (distinct : (database.users.filterMap UserRow.id).Nodup) :
    (database.usersOf tenant).Nodup :=
  distinct.sublist (List.filter_sublist.filterMap UserRow.id)

/-- Pieces that do not meet give no user twice. -/
theorem nodup_flatMap_usersBetween (distinct : (database.users.filterMap UserRow.id).Nodup)
    {pieces : List (UserId × UserId)}
    (disjoint : pieces.Pairwise fun piece other =>
      ∀ identifier, IdRange.Covers piece identifier → ¬ IdRange.Covers other identifier) :
    (pieces.flatMap fun piece => database.usersBetween tenant piece.1 piece.2).Nodup := by
  refine List.nodup_flatMap.mpr ⟨fun piece _ => ?_, disjoint.imp ?_⟩
  · rw [usersBetween_eq_filter]
    exact (nodup_usersOf distinct).filter _
  · intro piece other apart id found again
    simp only [usersBetween_eq_filter] at found again
    have here := (List.mem_filter.mp found).2
    have there := (List.mem_filter.mp again).2
    exact apart id (of_decide_eq_true here) (of_decide_eq_true there)

theorem mem_flatMap_usersBetween {range : IdRange} {pieces : List (UserId × UserId)}
    (cut : range.CutInto pieces) (id : UserId) :
    (id ∈ pieces.flatMap fun piece => database.usersBetween tenant piece.1 piece.2) ↔
      id ∈ database.usersOf tenant ∧ range.contains id = true := by
  rw [← cut.covers id]
  simp only [List.mem_flatMap, usersBetween_eq_filter, List.mem_filter, decide_eq_true_eq]
  constructor
  · rintro ⟨piece, member, owned, covered⟩
    exact ⟨owned, piece, member, covered⟩
  · rintro ⟨owned, piece, member, covered⟩
    exact ⟨piece, member, owned, covered⟩

/-- A range is answered with the users of the tenant that it contains, each once,
whether it wraps or not; or, where a piece fails, with no users at all. -/
theorem usersInRange_exact (database : Database) (tenant : TenantId) (range : IdRange)
    (distinct : (database.users.filterMap UserRow.id).Nodup) :
    (∀ one other : Identifier, compare one.bytes other.bytes = compare one.number other.number) ∧
    (∀ left right, database.usersBetween tenant left right =
      database.usersBytewise tenant left right) ∧
    range.CutInto range.segments ∧
    match database.usersInRange tenant range with
    | .ok found =>
      (∀ piece ∈ range.segments,
        database.fails (.usersInRange tenant piece.1 piece.2) = false) ∧
      found.Nodup ∧
      ∀ id, id ∈ found ↔ id ∈ database.usersOf tenant ∧ range.contains id = true
    | .error _ =>
      ∃ piece ∈ range.segments, database.fails (.usersInRange tenant piece.1 piece.2) = true := by
  have cut := range.cutInto_segments
  refine ⟨Identifier.compare_bytes, usersBetween_eq_usersBytewise, cut, ?_⟩
  rw [usersInRange, usersInSegments_eq]
  cases failing : range.segments.find? fun piece =>
      database.fails (.usersInRange tenant piece.1 piece.2) with
  | some piece =>
      exact ⟨piece, List.mem_of_find?_eq_some failing, by simpa using List.find?_some failing⟩
  | none =>
      refine ⟨fun piece member => ?_, nodup_flatMap_usersBetween distinct cut.disjoint,
        mem_flatMap_usersBetween cut⟩
      simpa using List.find?_eq_none.mp failing piece member

section Around

/-- Three users of two tenants, one at either end of the space. -/
def scattered : Database :=
  let row (id tenant : Nat) : UserRow :=
    ⟨some (Identifier.ofNat id), some (Identifier.ofNat tenant), some "ACTIVE", some false⟩
  ⟨[row 3 1, row 500 1, row (2 ^ 128 - 2) 1, row 4 2], [], fun _ => false⟩

/-- From near the top of the space around to near its bottom. -/
def aroundTheTop : IdRange :=
  ⟨Identifier.ofNat (2 ^ 128 - 10), Identifier.ofNat 10⟩

theorem usersInRange_exact_aroundTheTop :
    (scattered.users.filterMap UserRow.id).Nodup ∧ aroundTheTop.wraps = true ∧
      ∃ found, scattered.usersInRange (Identifier.ofNat 1) aroundTheTop = .ok found ∧
        found = [Identifier.ofNat (2 ^ 128 - 2), Identifier.ofNat 3] ∧
        found.Nodup ∧
        ∀ id, id ∈ found ↔
          id ∈ scattered.usersOf (Identifier.ofNat 1) ∧ aroundTheTop.contains id = true :=
  have distinct : (scattered.users.filterMap UserRow.id).Nodup := by decide
  have exact := usersInRange_exact scattered (Identifier.ofNat 1) aroundTheTop distinct
  ⟨distinct, by decide, _, rfl, by decide, exact.2.2.2.2⟩

end Around

end Database

end Storage

end UnattendedRefresh
