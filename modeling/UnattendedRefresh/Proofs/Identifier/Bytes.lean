import Mathlib.Algebra.GroupWithZero.Nat
import UnattendedRefresh.Identifier

/-!
# The bytes of an identifier

An identifier is stored as sixteen bytes, the highest first. Stores compare those
bytes from the first to the last, the wheel compares numbers, and the two orders
are one.
-/

namespace UnattendedRefresh

/-- The quotients decide between two numbers, and the remainders where they agree. -/
theorem compare_eq_div_then_mod {base : Nat} (positive : 0 < base) (number other : Nat) :
    compare number other =
      (compare (number / base) (other / base)).then (compare (number % base) (other % base)) := by
  have split := Nat.div_add_mod number base
  have otherSplit := Nat.div_add_mod other base
  have low := Nat.mod_lt number positive
  have otherLow := Nat.mod_lt other positive
  rcases Nat.lt_trichotomy (number / base) (other / base) with less | equal | greater
  · have spread := Nat.mul_le_mul_left base less
    rw [Nat.compare_eq_lt.mpr less, Ordering.lt_then, Nat.compare_eq_lt]
    rw [Nat.mul_succ] at spread
    omega
  · rw [Nat.compare_eq_eq.mpr equal, Ordering.eq_then]
    rw [equal] at split
    simp only [Nat.compare_eq_ite_lt]
    congr 1
    · simp only [eq_iff_iff]
      omega
    · congr 1
      simp only [eq_iff_iff]
      omega
  · have spread := Nat.mul_le_mul_left base greater
    rw [Nat.compare_eq_gt.mpr greater, Ordering.gt_then, Nat.compare_eq_gt]
    rw [Nat.mul_succ] at spread
    omega

/-- Of two lists of one length, the last elements count only where all before agree. -/
theorem compare_snoc {Element : Type} [Ord Element] {front other : List Element}
    (aligned : front.length = other.length) (last final : Element) :
    compare (front ++ [last]) (other ++ [final]) =
      (compare front other).then (compare last final) := by
  induction front generalizing other with
  | nil =>
      obtain rfl : other = [] := List.eq_nil_of_length_eq_zero aligned.symm
      rw [List.nil_append, List.nil_append, List.compare_cons_cons]
      exact Ordering.then_eq
  | cons first front ih =>
      cases other with
      | nil => simp at aligned
      | cons second other =>
          have rest := @ih other (by simpa using aligned)
          rw [List.cons_append, List.cons_append, List.compare_cons_cons, rest,
            List.compare_cons_cons, Ordering.then_assoc]

/-- The last bytes of a number, as many as asked for, the highest first. -/
def bigEndian : Nat → Nat → List UInt8
  | 0, _ => []
  | count + 1, number => bigEndian count (number / 256) ++ [UInt8.ofNat number]

@[simp]
theorem length_bigEndian (count number : Nat) : (bigEndian count number).length = count := by
  induction count generalizing number with
  | zero => rfl
  | succ count ih => simp [bigEndian, ih]

theorem compare_lastByte (number other : Nat) :
    compare (UInt8.ofNat number) (UInt8.ofNat other) = compare (number % 256) (other % 256) := by
  have alike : UInt8.ofNat number = UInt8.ofNat other ↔ number % 256 = other % 256 := by
    rw [← UInt8.toNat_inj, UInt8.toNat_ofNat', UInt8.toNat_ofNat']
  change compareOfLessAndEq _ _ = compareOfLessAndEq _ _
  simp only [compareOfLessAndEq, UInt8.lt_iff_toNat_lt, UInt8.toNat_ofNat', alike]

/-- As long as the numbers fit, their bytes are in the order of the numbers. -/
theorem compare_bigEndian (count : Nat) {number other : Nat} (fits : number < 256 ^ count)
    (otherFits : other < 256 ^ count) :
    compare (bigEndian count number) (bigEndian count other) = compare number other := by
  induction count generalizing number other with
  | zero =>
      obtain rfl : number = 0 := by simpa using fits
      obtain rfl : other = 0 := by simpa using otherFits
      rfl
  | succ count ih =>
      have aligned : (bigEndian count (number / 256)).length =
          (bigEndian count (other / 256)).length := by simp
      have quotients := @ih (number / 256) (other / 256)
        (by rw [Nat.pow_succ] at fits; omega) (by rw [Nat.pow_succ] at otherFits; omega)
      rw [bigEndian, bigEndian, compare_snoc aligned, quotients, compare_lastByte,
        ← compare_eq_div_then_mod (by decide)]

namespace Identifier

theorem le_iff {one other : Identifier} : one ≤ other ↔ one.number ≤ other.number :=
  Iff.rfl

theorem le_greatest (identifier : Identifier) : identifier ≤ greatest :=
  Nat.le_pred_of_lt identifier.number_lt

theorem least_le (identifier : Identifier) : least ≤ identifier :=
  Nat.zero_le _

def bytes (identifier : Identifier) : List UInt8 :=
  bigEndian 16 identifier.number

theorem compare_bytes (one other : Identifier) :
    compare one.bytes other.bytes = compare one other :=
  compare_bigEndian 16 one.number_lt other.number_lt

/-- Between two identifiers in the order of the bytes is between them as numbers. -/
theorem isLE_compare_bytes (one other : Identifier) :
    (compare one.bytes other.bytes).isLE = true ↔ one ≤ other := by
  rw [compare_bytes]
  exact Nat.isLE_compare

end Identifier

end UnattendedRefresh
