import UnattendedRefresh.Json.Reader
import UnattendedRefresh.Json.Writer
import UnattendedRefresh.Proofs.Identifier.Spellings
import UnattendedRefresh.Proofs.Text.Digits

/-!
# Strings and numbers of JSON texts

A string is written with every character that needs it escaped, and read back character
by character: each escape gives the character that it stands for. A number is written with
its digits, and read back if what comes next cannot belong to it.
-/

namespace UnattendedRefresh.Json

/-! ### Strings -/

/-- The characters that a string is written with, between the quotes. -/
def escaped (content : List Char) : List Char :=
  content.flatMap fun character => (escapeCharacter character).toList

theorem escaped_cons (character : Char) (content : List Char) :
    escaped (character :: content) = (escapeCharacter character).toList ++ escaped content :=
  List.flatMap_cons

theorem toList_quote (content : String) :
    (quote content).toList = '"' :: (escaped content.toList ++ ['"']) := by
  have written (characters : List Char) (start : String) :
      (characters.foldl (fun written character => written ++ escapeCharacter character)
        start).toList = start.toList ++ escaped characters := by
    induction characters generalizing start with
    | nil => simp [escaped]
    | cons character characters ih => simp [ih, escaped_cons]
  simp [quote, written]

/-- The three ways to write a character: an escape of its own, its number, or as it is. -/
theorem escapeCharacter_cases (character : Char) :
    (∃ letter, letter ≠ 'u' ∧ simpleEscape? letter = some character ∧
      (escapeCharacter character).toList = ['\\', letter]) ∨
    (character.toNat < 0x20 ∧
      (escapeCharacter character).toList =
        '\\' :: 'u' :: Hexadecimal.digits 4 character.toNat) ∨
    (character ≠ '"' ∧ character ≠ '\\' ∧ ¬ character.toNat < 0x20 ∧
      (escapeCharacter character).toList = [character]) := by
  unfold escapeCharacter
  split_ifs with quotation backslash backspace feed newline carriage tab control
  · exact Or.inl ⟨'"', by decide, by rw [quotation]; rfl, rfl⟩
  · exact Or.inl ⟨'\\', by decide, by rw [backslash]; rfl, rfl⟩
  · exact Or.inl ⟨'b', by decide, backspace ▸ rfl, rfl⟩
  · exact Or.inl ⟨'f', by decide, feed ▸ rfl, rfl⟩
  · exact Or.inl ⟨'n', by decide, newline ▸ rfl, rfl⟩
  · exact Or.inl ⟨'r', by decide, carriage ▸ rfl, rfl⟩
  · exact Or.inl ⟨'t', by decide, tab ▸ rfl, rfl⟩
  · exact Or.inr (Or.inl ⟨control, by simp⟩)
  · exact Or.inr (Or.inr ⟨quotation, backslash, control, by simp⟩)

theorem hexUnit?_digits {number : Nat} (small : number < 16 ^ 4) :
    ∃ first second third fourth,
      Hexadecimal.digits 4 number = [first, second, third, fourth] ∧
        hexUnit? first second third fourth = some number :=
  ⟨_, _, _, _, rfl, Hexadecimal.numberFrom?_eq_some_iff.mpr
    ⟨small, Hexadecimal.map_toLower_digits 4 number⟩⟩

/-- A unit that is no half of a pair stands for its character. -/
theorem pushUnit_toNat (literal : Literal) {character : Char} (rest : List Char)
    (small : character.toNat < 0xD800) :
    pushUnit literal character.toNat rest = (literal.push character, rest) := by
  unfold pushUnit
  rw [if_neg (by omega), if_neg (by omega), Char.ofNat_toNat]

/-- What a character is written with gives the character. -/
theorem readLiteral_escapeCharacter (fuel : Nat) (literal : Literal) (character : Char)
    (rest : List Char) :
    readLiteral (fuel + 1) literal ((escapeCharacter character).toList ++ rest) =
      readLiteral fuel (literal.push character) rest := by
  rcases escapeCharacter_cases character with ⟨letter, apart, escape, written⟩ |
    ⟨control, written⟩ | ⟨unquoted, plain, visible, written⟩
  · simp [written, readLiteral, apart, escape]
  -- A control character is no half of a pair, so what follows its number is left alone.
  · obtain ⟨first, second, third, fourth, digits, unit⟩ :=
      hexUnit?_digits (show character.toNat < 16 ^ 4 by omega)
    have pushed := pushUnit_toNat literal rest (show character.toNat < 0xD800 by omega)
    simp [written, digits, readLiteral, unit, pushed]
  · simp [written, readLiteral, plain, visible]

theorem readLiteral_escaped {content : List Char} {fuel : Nat} (enough : content.length < fuel)
    (literal : Literal) (rest : List Char) :
    readLiteral fuel literal (escaped content ++ '"' :: rest) =
      some (⟨content.reverse ++ literal.reversed, literal.broken⟩, rest) := by
  induction content generalizing fuel literal with
  | nil =>
      obtain ⟨fuel, rfl⟩ := Nat.exists_eq_add_of_lt enough
      rfl
  | cons character content ih =>
      obtain ⟨fuel, rfl⟩ := Nat.exists_eq_add_of_lt enough
      rw [escaped_cons, List.append_assoc, readLiteral_escapeCharacter, ih (by simp; omega)]
      simp [Literal.push]

/-- No character is written with nothing. -/
theorem length_le_escaped (content : List Char) : content.length ≤ (escaped content).length := by
  have written (character : Char) : 0 < (escapeCharacter character).toList.length := by
    rcases escapeCharacter_cases character with ⟨_, _, _, written⟩ | ⟨_, written⟩ |
      ⟨_, _, _, written⟩ <;> simp [written]
  induction content with
  | nil => simp [escaped]
  | cons character content ih =>
      have first := written character
      rw [escaped_cons, List.length_append, List.length_cons]
      omega

theorem readText_escaped (content : String) (rest : List Char) :
    readText (escaped content.toList ++ '"' :: rest) = some (some content, rest) := by
  have enough : content.toList.length < (escaped content.toList ++ '"' :: rest).length + 1 := by
    have written := length_le_escaped content.toList
    rw [List.length_append]
    omega
  rw [readText, readLiteral_escaped enough]
  simp [Literal.text?, Literal.empty]

/-! ### Numbers -/

section Numbers

variable {number : Nat} {rest : List Char}

/-- What follows is no part of a number that stands before it. -/
def EndsNumber (rest : List Char) : Prop :=
  ∀ character ∈ rest.head?,
    character.isDigit = false ∧ character ≠ '.' ∧ character ≠ 'e' ∧ character ≠ 'E'

theorem EndsNumber.takeFraction (ends : EndsNumber rest) : takeFraction rest = some ([], rest) := by
  cases rest with
  | nil => rfl
  | cons character rest => simp [Json.takeFraction, (ends character rfl).2.1]

theorem EndsNumber.takeExponent (ends : EndsNumber rest) : takeExponent rest = some ([], rest) := by
  cases rest with
  | nil => rfl
  | cons character rest =>
      obtain ⟨-, -, small, large⟩ := ends character rfl
      simp [Json.takeExponent, small, large]

/-- The digits of a number are all taken. -/
theorem takeDigits_toDigits (number : Nat) (ends : EndsNumber rest) :
    Decimal.takeDigits (Nat.toDigits 10 number ++ rest) = (Nat.toDigits 10 number, rest) :=
  Decimal.takeDigits_append (fun _ => Decimal.isDigit_of_mem_toDigits)
    fun character first => (ends character first).1

/-- There is no zero before other digits. -/
theorem toDigits_proper (number : Nat) (several : (Nat.toDigits 10 number).length ≠ 1) :
    (Nat.toDigits 10 number).head? ≠ some '0' := by
  cases number with
  | zero => exact absurd rfl several
  | succ number => exact Decimal.head?_toDigits number.succ_pos

theorem exists_toDigits_eq_cons (number : Nat) :
    ∃ digit others, Nat.toDigits 10 number = digit :: others ∧ digit.isDigit = true := by
  cases digits : Nat.toDigits 10 number with
  | nil => exact absurd digits Nat.toDigits_ne_nil
  | cons digit others =>
      exact ⟨digit, others, rfl, Decimal.isDigit_of_mem_toDigits (digits ▸ List.mem_cons_self)⟩

theorem readNumber_toDigits (small : number < UInt64.size) (ends : EndsNumber rest) :
    readNumber (Nat.toDigits 10 number ++ rest) = some (natural number, rest) := by
  have unsigned (characters : List Char) : Nat.toDigits 10 number ++ rest ≠ '-' :: characters := by
    obtain ⟨digit, others, digits, digital⟩ := exists_toDigits_eq_cons number
    rw [digits]
    rintro ⟨⟩
    simp at digital
  unfold readNumber
  simpa [takeDigits_toDigits number ends, ends.takeFraction, ends.takeExponent, numberOf, small]
    using toDigits_proper number

theorem readNumber_minus (least : 1 ≤ number) (greatest : number ≤ 1 <<< 63)
    (ends : EndsNumber rest) :
    readNumber ('-' :: (Nat.toDigits 10 number ++ rest)) = some (negative number, rest) := by
  unfold readNumber
  simpa [takeDigits_toDigits number ends, ends.takeFraction, ends.takeExponent, numberOf, least]
    using ⟨toDigits_proper number, greatest⟩

end Numbers

end UnattendedRefresh.Json
