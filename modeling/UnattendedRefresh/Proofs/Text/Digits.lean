import Mathlib.Algebra.Group.Nat.Defs
import UnattendedRefresh.Proofs.Duration.Numbers

/-!
# Numbers written in decimal digits

The digits that a number is written with spell that number, and no zero stands before
them that is not needed.
-/

namespace UnattendedRefresh

namespace Decimal

variable {number other : Nat} {digits rest : List Char}

theorem valueFrom_eq (number : Nat) (digits : List Char) :
    valueFrom number digits = Nat.ofDigitChars 10 digits number := by
  simp only [valueFrom, digitValue, Nat.ofDigitChars_eq_foldl, Nat.mul_comm]

theorem value_append (front back : List Char) :
    value (front ++ back) = value front * 10 ^ back.length + value back := by
  rw [value, valueFrom_eq, Nat.ofDigitChars_append, Nat.ofDigitChars_eq_ofDigitChars_zero,
    Nat.mul_comm, value, valueFrom_eq, value, valueFrom_eq]

@[simp]
theorem value_toDigits (number : Nat) : value (Nat.toDigits 10 number) = number := by
  rw [value, valueFrom_eq, Nat.ofDigitChars_toDigits (by decide) (by decide)]

theorem isDigit_of_mem_toDigits {digit : Char} (member : digit ∈ Nat.toDigits 10 number) :
    digit.isDigit = true :=
  Nat.isDigit_of_mem_toDigits (by decide) (by decide) member

theorem natural?_toDigits (number : Nat) : natural? (Nat.toDigits 10 number) = some number :=
  natural?_eq_some_iff.mpr
    ⟨Nat.toDigits_ne_nil, fun _ => isDigit_of_mem_toDigits, value_toDigits number⟩

theorem natural?_append {front back : List Char} (first : natural? front = some number)
    (second : natural? back = some other) :
    natural? (front ++ back) = some (number * 10 ^ back.length + other) := by
  obtain ⟨nonempty, digital, rfl⟩ := natural?_eq_some_iff.mp first
  obtain ⟨-, digitalToo, rfl⟩ := natural?_eq_some_iff.mp second
  refine natural?_eq_some_iff.mpr ⟨List.append_ne_nil_of_left_ne_nil nonempty _, ?_, ?_⟩
  · intro digit member
    exact (List.mem_append.mp member).elim (digital digit) (digitalToo digit)
  · exact value_append front back

theorem digitChar_eq_zero_iff : ∀ value : Fin 10, Nat.digitChar value = '0' ↔ value = 0 := by
  decide

/-- Only the number zero is written with a zero at the front, by induction on the number. -/
theorem head?_toDigits (positive : 0 < number) :
    (Nat.toDigits 10 number).head? ≠ some '0' := by
  induction number using Nat.strongRecOn with
  | ind number ih =>
      rcases Nat.lt_or_ge number 10 with small | large
      · rw [Nat.toDigits_of_lt_base small]
        have apart := mt (digitChar_eq_zero_iff ⟨number, small⟩).mp
        simpa using apart (by simpa using Nat.ne_of_gt positive)
      · rw [Nat.toDigits_of_base_le (by decide) large,
          List.head?_append_of_ne_nil _ Nat.toDigits_ne_nil]
        exact ih (number / 10) (by omega) (by omega)

/-- Digits are taken up to the first character that is none. -/
theorem takeDigits_append (all : ∀ digit ∈ digits, digit.isDigit = true)
    (stops : ∀ character ∈ rest.head?, character.isDigit = false) :
    takeDigits (digits ++ rest) = (digits, rest) := by
  rw [takeDigits, List.span_eq_takeWhile_dropWhile, List.takeWhile_append_of_pos all,
    List.dropWhile_append_of_pos all]
  cases rest with
  | nil => simp
  | cons character rest =>
      have stop : character.isDigit = false := stops character rfl
      simp [stop]

end Decimal

end UnattendedRefresh
