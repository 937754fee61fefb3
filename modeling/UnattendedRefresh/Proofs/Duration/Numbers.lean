import Mathlib.Data.List.DropRight
import Mathlib.Data.List.TakeDrop
import UnattendedRefresh.Config.Literal
import UnattendedRefresh.Duration.Grammar

/-!
# Durations written as whole numbers

A duration is read from what is left of a text between its blanks. Where that is a whole
number, perhaps with a sign, the duration is as many seconds.
-/

namespace UnattendedRefresh

namespace Text

variable {blank : Char → Bool} {character : Char} {characters : List Char}

theorem trimWhere_eq (blank : Char → Bool) (characters : List Char) :
    trimWhere blank characters = (characters.dropWhile blank).rdropWhile blank :=
  rfl

/-- What starts a trimmed text is no blank, so trimming leaves it there. -/
theorem dropWhile_trimWhere (blank : Char → Bool) (characters : List Char) :
    (trimWhere blank characters).dropWhile blank = trimWhere blank characters := by
  rw [trimWhere_eq]
  obtain ⟨cut, split⟩ := List.rdropWhile_prefix blank (characters.dropWhile blank)
  cases kept : (characters.dropWhile blank).rdropWhile blank with
  | nil => rfl
  | cons first rest =>
      rw [kept, List.cons_append] at split
      have solid : blank first = false := by
        have head := List.head?_dropWhile_not blank characters
        simpa [← split] using head
      simp [solid]

@[simp]
theorem trimWhere_trimWhere (blank : Char → Bool) (characters : List Char) :
    trimWhere blank (trimWhere blank characters) = trimWhere blank characters := by
  rw [trimWhere_eq, dropWhile_trimWhere, trimWhere_eq, List.rdropWhile_idempotent]

@[simp]
theorem trim_trim (characters : List Char) : trim (trim characters) = trim characters :=
  trimWhere_trimWhere isWhiteSpace characters

theorem exists_trim_cons (characters : List Char) (solid : isWhiteSpace character = false) :
    ∃ rest, trim (character :: characters) = character :: rest := by
  have whole : trim (character :: characters) =
      (character :: characters).rdropWhile isWhiteSpace := by
    rw [trim, trimWhere_eq, List.dropWhile_cons_of_neg (by simp [solid])]
  rw [whole]
  cases kept : (character :: characters).rdropWhile isWhiteSpace with
  | nil =>
      have blank := List.rdropWhile_eq_nil_iff.mp kept character List.mem_cons_self
      simp [solid] at blank
  | cons first rest =>
      have within := List.rdropWhile_prefix isWhiteSpace (character :: characters)
      rw [kept, List.cons_prefix_cons] at within
      exact ⟨rest, by rw [within.1]⟩

end Text

namespace Decimal

variable {digits : List Char} {number : Nat}

theorem natural?_eq_some_iff :
    natural? digits = some number ↔
      digits ≠ [] ∧ (∀ digit ∈ digits, digit.isDigit = true) ∧ value digits = number := by
  unfold natural?
  split
  next bad =>
    refine ⟨nofun, fun ⟨nonempty, all, _⟩ => ?_⟩
    rcases bad with empty | notAll
    · exact absurd (List.isEmpty_iff.mp empty) nonempty
    · exact absurd (List.all_eq_true.mpr all) notAll
  next good =>
    obtain ⟨nonempty, all⟩ := not_or.mp good
    have nonempty : digits ≠ [] := mt List.isEmpty_iff.mpr nonempty
    have all := List.all_eq_true.mp (not_not.mp all)
    simpa [nonempty] using fun _ => all

theorem takeDigits_of_natural? (read : natural? digits = some number) :
    takeDigits digits = (digits, []) := by
  obtain ⟨-, all, -⟩ := natural?_eq_some_iff.mp read
  rw [takeDigits, List.span_eq_takeWhile_dropWhile, List.takeWhile_eq_self_iff.mpr all,
    List.dropWhile_eq_nil_iff.mpr all]

end Decimal

namespace Duration

variable {source : String} {character : Char} {digits : List Char} {number : Nat}
  {negated : Bool}

theorem parse?_eq_of_trim {one other : String}
    (same : Text.trim one.toList = Text.trim other.toList) : parse? one = parse? other := by
  rw [parse?, parse?, same]

theorem toLower_of_isDigit (digital : character.isDigit = true) :
    character.toLower = character := by
  simp only [Char.isDigit] at digital
  unfold Char.toLower
  grind

theorem not_isInfinity_of_natural? (read : Decimal.natural? digits = some number) :
    isInfinity digits = false := by
  obtain ⟨nonempty, all, -⟩ := Decimal.natural?_eq_some_iff.mp read
  cases digits with
  | nil => exact absurd rfl nonempty
  | cons digit rest =>
      have digital := all digit List.mem_cons_self
      have apart : digit ≠ 'i' := by
        rintro rfl
        exact absurd digital (by decide)
      simp [isInfinity, toLower_of_isDigit digital, apart]

theorem takeNumeral_of_natural? (read : Decimal.natural? digits = some number) :
    takeNumeral digits = some (⟨number, 0, 0⟩, []) := by
  obtain ⟨nonempty, -, rfl⟩ := Decimal.natural?_eq_some_iff.mp read
  simp [takeNumeral, Decimal.takeDigits_of_natural? read, takeExponent, nonempty]

theorem ofNumeral?_whole (negated : Bool) (number : Nat) :
    ofNumeral? negated ⟨number, 0, 0⟩ .second =
      if negated ∧ number ≠ 0 then none else some (ofSeconds number) := by
  have amount : (Numeral.mk number 0 0).eighteenths (TimeUnit.second.places) =
      number * 1000000000 * 1000000000 := by
    simp [Numeral.eighteenths, TimeUnit.places, Nat.mul_assoc]
  have nanoseconds : number * 1000000000 * 1000000000 * 1 / 1000000000 = number * 1000000000 := by
    omega
  have zero : number * 1000000000 * 1000000000 ≠ 0 ↔ number ≠ 0 := by omega
  simp only [ofNumeral?, amount, TimeUnit.seconds, ofSeconds, nanoseconds, zero]

/-- A whole number is as many seconds; with a minus only zero is a duration. -/
theorem parse?_whole (signed : takeSign (Text.trim source.toList) = (negated, digits))
    (read : Decimal.natural? digits = some number) :
    parse? source = if negated ∧ number ≠ 0 then none else some (ofSeconds number) := by
  rw [parse?, signed]
  simp only [not_isInfinity_of_natural? read, takeNumeral_of_natural? read, TimeUnit.ofSymbol?,
    Option.bind_some, ofNumeral?_whole, Bool.false_eq_true, if_false]

/-- Nothing that begins with such a letter is a duration. -/
theorem parse?_of_letter {rest : List Char} (begins : Text.trim source.toList = character :: rest)
    (letter : character = 't' ∨ character = 'f') : parse? source = none := by
  rw [parse?, begins]
  rcases letter with rfl | rfl
  · simp [takeSign, isInfinity, takeNumeral, Decimal.takeDigits, List.span_eq_takeWhile_dropWhile]
  · simp [takeSign, isInfinity, takeNumeral, Decimal.takeDigits, List.span_eq_takeWhile_dropWhile]

end Duration

end UnattendedRefresh
