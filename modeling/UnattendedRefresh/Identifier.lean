import UnattendedRefresh.Ordered

/-!
# Identifiers

Users, tenants and sites are named by 128-bit numbers. Their order is the order
of the numbers, which is also the order of their sixteen big-endian bytes.
-/

namespace UnattendedRefresh

structure Identifier where
  number : Nat
  number_lt : number < 1 <<< 128
  deriving DecidableEq

abbrev UserId := Identifier

abbrev TenantId := Identifier

abbrev SiteId := Identifier

namespace Identifier

/-- The identifier of a number, taken modulo `2 ^ 128`. -/
def ofNat (number : Nat) : Identifier :=
  ⟨number % (1 <<< 128), Nat.mod_lt _ (by decide)⟩

def least : Identifier := ⟨0, by decide⟩

def greatest : Identifier := ⟨(1 <<< 128) - 1, by omega⟩

instance : Inhabited Identifier := ⟨least⟩

@[ext]
theorem ext {left right : Identifier} (same : left.number = right.number) : left = right := by
  cases left
  cases right
  simp_all

instance : Ord Identifier := ⟨fun left right => compare left.number right.number⟩

instance : Std.OrientedOrd Identifier where
  eq_swap := fun {left right} =>
    @Std.OrientedCmp.eq_swap Nat compare inferInstance left.number right.number

instance : Std.TransOrd Identifier where
  isLE_trans := fun {first second third} =>
    @Std.TransCmp.isLE_trans Nat compare inferInstance first.number second.number third.number

instance : Std.LawfulEqOrd Identifier where
  eq_of_compare := fun {left right} equal =>
    ext (@Std.LawfulEqCmp.eq_of_compare Nat compare inferInstance left.number right.number equal)

instance : LE Identifier := ⟨fun left right => left.number ≤ right.number⟩

instance (left right : Identifier) : Decidable (left ≤ right) :=
  inferInstanceAs (Decidable (left.number ≤ right.number))

end Identifier

end UnattendedRefresh
