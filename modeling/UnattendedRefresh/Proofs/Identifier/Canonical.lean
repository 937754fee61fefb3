import Mathlib.Data.String.Basic
import UnattendedRefresh.Proofs.Identifier.Spellings

/-!
# The canonical text of an identifier

An identifier is written in lower-case digits in groups of 8, 4, 4, 4 and 12. As the digits
stand highest first and the hyphens always at the same places, the texts are in the order
of the numbers.
-/

namespace UnattendedRefresh

/-- Where two lists begin alike in length, what follows decides only if they begin alike. -/
theorem append_lt_append_iff {Element : Type} [LT Element] [Std.Irrefl (α := Element) (· < ·)]
    {front other back rest : List Element} (aligned : front.length = other.length) :
    front ++ back < other ++ rest ↔ front < other ∨ front = other ∧ back < rest := by
  induction front generalizing other with
  | nil =>
      obtain rfl : other = [] := List.eq_nil_of_length_eq_zero aligned.symm
      simp
  | cons first front ih =>
      cases other with
      | nil => simp at aligned
      | cons second other =>
          have rest := @ih other (by simpa using aligned)
          simp only [List.cons_append, List.cons_lt_cons_iff, rest, List.cons.injEq]
          tauto

/-- A mark at one place of two lists does not decide between them. -/
theorem append_cons_lt_append_cons_iff {Element : Type} [LT Element]
    [Std.Irrefl (α := Element) (· < ·)] {front other back rest : List Element}
    (aligned : front.length = other.length) (mark : Element) :
    front ++ mark :: back < other ++ mark :: rest ↔ front ++ back < other ++ rest := by
  rw [append_lt_append_iff aligned, append_lt_append_iff aligned, List.cons_lt_cons_iff]
  have never : ¬ mark < mark := Std.Irrefl.irrefl mark
  simp only [never, false_or, true_and]

theorem append_cons_append_lt_iff {Element : Type} [LT Element]
    [Std.Irrefl (α := Element) (· < ·)] {front other back rest tail last : List Element}
    (aligned : front.length = other.length) (mark : Element) :
    front ++ mark :: back ++ tail < other ++ mark :: rest ++ last ↔
      front ++ (back ++ tail) < other ++ (rest ++ last) := by
  rw [List.append_assoc, List.append_assoc, List.cons_append, List.cons_append,
    append_cons_lt_append_cons_iff aligned]

namespace Hexadecimal

theorem digit_lt_digit_iff : ∀ value other : Fin 16,
    digit value < digit other ↔ value < other := by
  decide

theorem digit_mem : ∀ value : Fin 16, digit value ∈ "0123456789abcdef".toList := by
  decide

theorem mem_of_mem_digits {count number : Nat} {character : Char}
    (member : character ∈ digits count number) : character ∈ "0123456789abcdef".toList := by
  induction count generalizing number with
  | zero => cases member
  | succ count ih =>
      rcases List.mem_append.mp member with member | member
      · exact ih member
      · rw [List.mem_singleton.mp member]
        exact digit_mem ⟨number % 16, Nat.mod_lt _ (by decide)⟩

/-- As long as the numbers fit, their digits are in the order of the numbers. By induction on
how many digits there are, the last split off. -/
theorem digits_lt_digits_iff (count : Nat) {number other : Nat} (fits : number < 16 ^ count)
    (otherFits : other < 16 ^ count) :
    digits count number < digits count other ↔ number < other := by
  induction count generalizing number other with
  | zero =>
      simp [digits]
      omega
  | succ count ih =>
      rw [Nat.pow_succ] at fits otherFits
      have below := @ih (number / 16) (other / 16) (by omega) (by omega)
      have above := @ih (other / 16) (number / 16) (by omega) (by omega)
      have same : digits count (number / 16) = digits count (other / 16) ↔
          number / 16 = other / 16 := by
        refine ⟨fun equal => ?_, fun equal => by rw [equal]⟩
        rw [equal] at below above
        have least := below.not.mp (lt_irrefl _)
        have greatest := above.not.mp (lt_irrefl _)
        omega
      have last := digit_lt_digit_iff ⟨number % 16, Nat.mod_lt _ (by decide)⟩
        ⟨other % 16, Nat.mod_lt _ (by decide)⟩
      rw [Fin.mk_lt_mk] at last
      rw [digits, digits, append_lt_append_iff (by simp), below, same, List.cons_lt_cons_iff, last]
      simp only [List.not_lt_nil, and_false, or_false]
      omega

end Hexadecimal

namespace Identifier

variable {bare others : List Char}

/-- Lower-case digits in groups of 8, 4, 4, 4 and 12 with hyphens between them. -/
def IsCanonical (characters : List Char) : Prop :=
  ∃ groups : List (List Char), groups.map List.length = [8, 4, 4, 4, 12] ∧
    (∀ group ∈ groups, ∀ character ∈ group, character ∈ "0123456789abcdef".toList) ∧
    characters = List.intercalate ['-'] groups

theorem isCanonical_spelling (identifier : Identifier) : IsCanonical identifier.spelling := by
  have full := Hexadecimal.length_digits 32 identifier.number
  have lower {character : Char} (member : character ∈ Hexadecimal.digits 32 identifier.number) :=
    Hexadecimal.mem_of_mem_digits member
  rw [spelling]
  generalize Hexadecimal.digits 32 identifier.number = bare at full lower
  refine ⟨[bare.take 8, (bare.drop 8).take 4, (bare.drop 12).take 4, (bare.drop 16).take 4,
    bare.drop 20], by simp [full], ?_, by simp [group, List.intercalate]⟩
  simp only [List.forall_mem_cons]
  refine ⟨fun _ member => ?_, fun _ member => ?_, fun _ member => ?_, fun _ member => ?_,
    fun _ member => ?_, by simp⟩
  · exact lower (List.mem_of_mem_take member)
  · exact lower (List.mem_of_mem_drop (List.mem_of_mem_take member))
  · exact lower (List.mem_of_mem_drop (List.mem_of_mem_take member))
  · exact lower (List.mem_of_mem_drop (List.mem_of_mem_take member))
  · exact lower (List.mem_of_mem_drop member)

/-- Grouping keeps the order: the hyphens stand at the same places. -/
theorem group_lt_group_iff (full : bare.length = 32) (othersFull : others.length = 32) :
    group bare < group others ↔ bare < others := by
  have joined (characters : List Char) :
      characters.take 8 ++ ((characters.drop 8).take 4 ++ ((characters.drop 12).take 4 ++
        ((characters.drop 16).take 4 ++ characters.drop 20))) = characters := by
    rw [take_append_drop_of_drop, take_append_drop_of_drop, take_append_drop_of_drop,
      List.take_append_drop]
  rw [group, group, append_cons_lt_append_cons_iff (by simp [full, othersFull]),
    append_cons_append_lt_iff (by simp [full, othersFull]),
    append_cons_append_lt_iff (by simp [full, othersFull]),
    append_cons_append_lt_iff (by simp [full, othersFull]), joined, joined]

/-- The order of the texts is the order of the numbers. -/
theorem text_lt_text_iff (one other : Identifier) :
    one.text < other.text ↔ one.number < other.number := by
  rw [String.lt_iff_toList_lt, text, text, String.toList_ofList, String.toList_ofList, spelling,
    spelling, group_lt_group_iff (Hexadecimal.length_digits _ _) (Hexadecimal.length_digits _ _)]
  exact Hexadecimal.digits_lt_digits_iff 32 one.number_lt other.number_lt

theorem length_text (identifier : Identifier) : identifier.text.length = 36 := by
  rw [← String.length_toList, text, String.toList_ofList]
  exact length_group (Hexadecimal.length_digits _ _)

theorem ofText?_text (identifier : Identifier) : ofText? identifier.text = some identifier :=
  ofText?_eq_some_iff.mpr identifier.spells_text

theorem text_injective : Function.Injective text := by
  intro identifier other same
  have read := congrArg ofText? same
  rw [ofText?_text, ofText?_text] at read
  exact Option.some.inj read

end Identifier

end UnattendedRefresh
