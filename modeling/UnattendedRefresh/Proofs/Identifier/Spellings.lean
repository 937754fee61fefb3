import UnattendedRefresh.Identifier.Spelling
import Mathlib.Algebra.GroupWithZero.Nat
import Mathlib.Data.List.Induction

/-!
# What spells an identifier

A text is read as an identifier exactly if it is one of its spellings: its 32 digits,
each in either case, bare or in groups, or the groups in braces or after `urn:uuid:`. No
text spells two identifiers, and the canonical text of an identifier spells it.
-/

namespace UnattendedRefresh

namespace Hexadecimal

theorem value?_of_ascii : ∀ code : Fin 128, ∀ value : Fin 16,
    value? (Char.ofNat code) = some value.val ↔
      (Char.ofNat code).toLower = digit value := by
  decide

theorem toNat_digit_lt : ∀ value : Fin 16, (digit value).toNat < 128 := by
  decide

theorem bounds_of_value? {character : Char} {value : Nat}
    (read : value? character = some value) : character.toNat < 128 ∧ value < 16 := by
  have below {bound : Char} (le : character ≤ bound) : character.toNat ≤ bound.toNat := le
  have digits : '9'.toNat = 57 ∧ '0'.toNat = 48 ∧ 'f'.toNat = 102 ∧ 'a'.toNat = 97 ∧
      'F'.toNat = 70 ∧ 'A'.toNat = 65 := by decide
  simp only [value?] at read
  split at read
  next range =>
    have := below range.2
    have := Option.some.inj read
    omega
  next =>
    split at read
    next range =>
      have := below range.2
      have := Option.some.inj read
      omega
    next =>
      obtain ⟨range, read⟩ := Option.ite_none_right_eq_some.mp read
      have := below range.2
      have := Option.some.inj read
      omega

theorem toLower_of_not_ascii {character : Char} (beyond : 128 ≤ character.toNat) :
    character.toLower = character := by
  refine dif_neg fun upper => ?_
  have : character.toNat ≤ 'Z'.toNat := upper.2
  have : 'Z'.toNat = 90 := by decide
  omega

/-- A digit is read in either case. -/
theorem value?_eq_some_iff {character : Char} {value : Nat} :
    value? character = some value ↔ value < 16 ∧ character.toLower = digit value := by
  by_cases ascii : character.toNat < 128
  · have known := value?_of_ascii ⟨_, ascii⟩
    simp only [Char.ofNat_toNat] at known
    constructor
    · intro read
      have below := (bounds_of_value? read).2
      exact ⟨below, (known ⟨value, below⟩).mp read⟩
    · rintro ⟨below, same⟩
      exact (known ⟨value, below⟩).mpr same
  · constructor
    · intro read
      exact absurd (bounds_of_value? read).1 ascii
    · rintro ⟨below, same⟩
      rw [toLower_of_not_ascii (Nat.not_lt.mp ascii)] at same
      exact absurd (same ▸ toNat_digit_lt ⟨value, below⟩) ascii

@[simp]
theorem length_digits (count number : Nat) : (digits count number).length = count := by
  induction count generalizing number with
  | zero => rfl
  | succ count ih => simp [digits, ih]

theorem toLower_digit : ∀ value : Fin 16, (digit value).toLower = digit value := by
  decide

theorem map_toLower_digits (count number : Nat) :
    (digits count number).map Char.toLower = digits count number := by
  induction count generalizing number with
  | zero => rfl
  | succ count ih =>
      have last := toLower_digit ⟨number % 16, Nat.mod_lt _ (by decide)⟩
      simp [digits, ih, last]

theorem numberFrom?_append (number : Nat) (front back : List Char) :
    numberFrom? number (front ++ back) =
      (numberFrom? number front).bind (numberFrom? · back) := by
  induction front generalizing number with
  | nil => rfl
  | cons character front ih =>
      cases read : value? character with
      | none => simp [numberFrom?, read]
      | some value => simp [numberFrom?, read, ih]

theorem numberFrom?_singleton {high number : Nat} {character : Char} :
    numberFrom? high [character] = some number ↔
      number / 16 = high ∧ character.toLower = digit (number % 16) := by
  have read : numberFrom? high [character] = (value? character).map (high * 16 + ·) := by
    cases value : value? character <;> simp [numberFrom?, value]
  rw [read, Option.map_eq_some_iff]
  constructor
  · rintro ⟨value, read, rfl⟩
    obtain ⟨below, same⟩ := value?_eq_some_iff.mp read
    have parts : (high * 16 + value) / 16 = high ∧ (high * 16 + value) % 16 = value := by omega
    rw [parts.1, parts.2]
    exact ⟨rfl, same⟩
  · rintro ⟨rfl, same⟩
    exact ⟨number % 16, value?_eq_some_iff.mpr ⟨Nat.mod_lt _ (by decide), same⟩, by omega⟩

/-- By induction on the digits, the last one split off. -/
theorem numberFrom?_eq_some_iff {spelled : List Char} {number : Nat} :
    numberFrom? 0 spelled = some number ↔
      number < 16 ^ spelled.length ∧
        spelled.map Char.toLower = digits spelled.length number := by
  induction spelled using List.reverseRecOn generalizing number with
  | nil =>
    simp [numberFrom?, digits]
    omega
  | append_singleton front last ih =>
      have smaller : number / 16 < 16 ^ front.length ↔ number < 16 ^ (front.length + 1) := by
        rw [Nat.pow_succ, Nat.div_lt_iff_lt_mul (by decide)]
      have snoc : front.map Char.toLower ++ [last.toLower] =
          digits front.length (number / 16) ++ [digit (number % 16)] ↔
            front.map Char.toLower = digits front.length (number / 16) ∧
              last.toLower = digit (number % 16) := by
        simp only [← List.concat_eq_append, List.concat_inj]
      simp only [numberFrom?_append, Option.bind_eq_some_iff, numberFrom?_singleton, ih,
        List.length_append, List.length_singleton, List.map_append, List.map_singleton, digits,
        snoc, ← smaller]
      constructor
      · rintro ⟨high, ⟨below, same⟩, rfl, last_eq⟩
        exact ⟨below, same, last_eq⟩
      · rintro ⟨below, same, last_eq⟩
        exact ⟨_, ⟨below, same⟩, rfl, last_eq⟩

end Hexadecimal

namespace Identifier

variable {identifier : Identifier} {characters bare : List Char}

/-- The digits of an identifier, each in either case. -/
def Digits (identifier : Identifier) (bare : List Char) : Prop :=
  bare.map Char.toLower = Hexadecimal.digits 32 identifier.number

/-- The texts that spell an identifier. -/
inductive Spells (identifier : Identifier) : List Char → Prop where
  | bare {bare : List Char} (digits : identifier.Digits bare) : Spells identifier bare
  | grouped {bare : List Char} (digits : identifier.Digits bare) :
      Spells identifier (group bare)
  | braced {bare : List Char} (digits : identifier.Digits bare) :
      Spells identifier ('\x7b' :: group bare ++ ['\x7d'])
  | named {scheme bare : List Char} (named : scheme.map Char.toLower = "urn:uuid:".toList)
      (digits : identifier.Digits bare) : Spells identifier (scheme ++ group bare)

theorem Digits.length (digits : identifier.Digits bare) : bare.length = 32 := by
  simpa using congrArg List.length digits

theorem length_group (full : bare.length = 32) : (group bare).length = 36 := by
  simp [group, full]

theorem readBare?_eq_some_iff :
    readBare? characters = some identifier ↔ identifier.Digits characters := by
  constructor
  · intro read
    obtain ⟨full, read⟩ := Option.ite_none_right_eq_some.mp read
    obtain ⟨number, spelled, rfl⟩ := Option.map_eq_some_iff.mp read
    obtain ⟨below, same⟩ := Hexadecimal.numberFrom?_eq_some_iff.mp spelled
    rw [full] at below same
    have number_eq : (ofNat number).number = number := Nat.mod_eq_of_lt below
    rw [Digits, number_eq, same]
  · intro digits
    have spelled : Hexadecimal.numberFrom? 0 characters = some identifier.number := by
      rw [Hexadecimal.numberFrom?_eq_some_iff, digits.length]
      exact ⟨identifier.number_lt, digits⟩
    have same : ofNat identifier.number = identifier :=
      ext (Nat.mod_eq_of_lt identifier.number_lt)
    rw [readBare?, if_pos digits.length, spelled, Option.map_some, same]

theorem eq_take_cons_drop {place : Nat} {character : Char}
    (here : characters[place]? = some character) :
    characters = characters.take place ++ character :: characters.drop (place + 1) := by
  obtain ⟨within, rfl⟩ := List.getElem?_eq_some_iff.mp here
  rw [List.getElem_cons_drop, List.take_append_drop]

theorem take_append_drop_of_drop (characters : List Char) (place count : Nat) :
    (characters.drop place).take count ++ characters.drop (place + count) =
      characters.drop place := by
  rw [← List.drop_drop, List.take_append_drop]

theorem ungroup?_group (full : bare.length = 32) : ungroup? (group bare) = some bare := by
  have whole : bare.take 8 ++ ((bare.drop 8).take 4 ++ ((bare.drop 12).take 4 ++
      ((bare.drop 16).take 4 ++ bare.drop 20))) = bare := by
    rw [take_append_drop_of_drop, take_append_drop_of_drop, take_append_drop_of_drop,
      List.take_append_drop]
  rw [ungroup?, if_pos (by simp [group, full])]
  simp [group, List.drop_append, List.drop_take, full, whole]

theorem group_of_ungroup? (read : ungroup? characters = some bare) :
    bare.length = 32 ∧ characters = group bare := by
  obtain ⟨⟨full, first, second, third, fourth⟩, joined⟩ :=
    Option.ite_none_right_eq_some.mp read
  obtain rfl := Option.some.inj joined
  have cut : characters = characters.take 8 ++ '-' :: ((characters.drop 9).take 4 ++
      '-' :: ((characters.drop 14).take 4 ++ '-' :: ((characters.drop 19).take 4 ++
        '-' :: characters.drop 24))) := by
    have after {place count : Nat} (here : characters[place + count]? = some '-') :
        characters.drop place = (characters.drop place).take count ++
          '-' :: characters.drop (place + count + 1) := by
      have := eq_take_cons_drop (List.getElem?_drop ▸ here :
        (characters.drop place)[count]? = some '-')
      rwa [List.drop_drop, ← Nat.add_assoc] at this
    rw [← after fourth, ← after third, ← after second]
    exact eq_take_cons_drop first
  constructor
  · simp [full]
  · conv_lhs => rw [cut]
    simp [group, List.drop_append, List.drop_take, full]

theorem readGrouped?_eq_some_iff :
    readGrouped? characters = some identifier ↔
      ∃ bare, identifier.Digits bare ∧ characters = group bare := by
  rw [readGrouped?, Option.bind_eq_some_iff]
  constructor
  · rintro ⟨bare, ungrouped, read⟩
    exact ⟨bare, readBare?_eq_some_iff.mp read, (group_of_ungroup? ungrouped).2⟩
  · rintro ⟨bare, digits, rfl⟩
    exact ⟨bare, ungroup?_group digits.length, readBare?_eq_some_iff.mpr digits⟩

/-- A braced spelling is a grouped one between its first and its last character. -/
theorem eq_braced_iff {inner : List Char} (full : characters.length = 38) :
    (characters.head? = some '\x7b' ∧ characters.getLast? = some '\x7d') ∧
        (characters.drop 1).take 36 = inner ↔
      characters = '\x7b' :: inner ++ ['\x7d'] ∧ inner.length = 36 := by
  constructor
  · rintro ⟨⟨first, last⟩, rfl⟩
    obtain ⟨front, rfl⟩ := List.getLast?_eq_some_iff.mp last
    cases front with
    | nil => simp at full
    | cons character inner =>
        obtain rfl : character = '\x7b' := by simpa using first
        have inner_length : inner.length = 36 := by simpa using full
        simp [inner_length]
  · rintro ⟨rfl, inner_length⟩
    simp [inner_length, List.getLast?_cons]

theorem Spells.parse? (spells : identifier.Spells characters) :
    parse? characters = some identifier := by
  cases spells with
  | bare digits =>
      rw [Identifier.parse?, if_pos digits.length]
      exact readBare?_eq_some_iff.mpr digits
  | grouped digits =>
      have grouped_length := length_group digits.length
      rw [Identifier.parse?, if_neg (by omega), if_pos grouped_length]
      exact readGrouped?_eq_some_iff.mpr ⟨_, digits, rfl⟩
  | @braced bare digits =>
      have grouped_length := length_group digits.length
      have full : ('\x7b' :: group bare ++ ['\x7d']).length = 38 := by simp [grouped_length]
      obtain ⟨marks, inner⟩ := (eq_braced_iff full).mpr ⟨rfl, grouped_length⟩
      rw [Identifier.parse?, if_neg (by omega), if_neg (by omega), if_pos full, if_pos marks, inner]
      exact readGrouped?_eq_some_iff.mpr ⟨_, digits, rfl⟩
  | @named scheme bare named digits =>
      have grouped_length := length_group digits.length
      have scheme_length : scheme.length = 9 := by simpa using congrArg List.length named
      have full : (scheme ++ group bare).length = 45 := by simp [grouped_length, scheme_length]
      have marked : ((scheme ++ group bare).take 9).map Char.toLower = "urn:uuid:".toList := by
        rw [← scheme_length, List.take_left, named]
      have rest : (scheme ++ group bare).drop 9 = group bare := by
        rw [← scheme_length, List.drop_left]
      rw [Identifier.parse?, if_neg (by omega), if_neg (by omega), if_neg (by omega), if_pos full,
        if_pos marked, rest]
      exact readGrouped?_eq_some_iff.mpr ⟨_, digits, rfl⟩

theorem parse?_eq_some_iff :
    parse? characters = some identifier ↔ identifier.Spells characters := by
  refine ⟨fun read => ?_, Spells.parse?⟩
  simp only [parse?] at read
  split at read
  next => exact .bare (readBare?_eq_some_iff.mp read)
  next =>
    split at read
    next =>
      obtain ⟨bare, digits, rfl⟩ := readGrouped?_eq_some_iff.mp read
      exact .grouped digits
    next =>
      split at read
      next full =>
        obtain ⟨marks, read⟩ := Option.ite_none_right_eq_some.mp read
        obtain ⟨bare, digits, inner⟩ := readGrouped?_eq_some_iff.mp read
        rw [((eq_braced_iff full).mp ⟨marks, inner⟩).1]
        exact .braced digits
      next =>
        obtain ⟨-, read⟩ := Option.ite_none_right_eq_some.mp read
        obtain ⟨named, read⟩ := Option.ite_none_right_eq_some.mp read
        obtain ⟨bare, digits, rest⟩ := readGrouped?_eq_some_iff.mp read
        rw [← List.take_append_drop 9 characters, rest]
        exact .named named digits

theorem ofText?_eq_some_iff {source : String} :
    ofText? source = some identifier ↔ identifier.Spells source.toList :=
  parse?_eq_some_iff

/-- No text spells two identifiers. -/
theorem Spells.unique {other : Identifier} (spells : identifier.Spells characters)
    (others : other.Spells characters) : identifier = other :=
  Option.some.inj (spells.parse?.symm.trans others.parse?)

theorem spells_text (identifier : Identifier) : identifier.Spells identifier.text.toList := by
  rw [text, String.toList_ofList]
  exact .grouped (Hexadecimal.map_toLower_digits 32 identifier.number)

/-- The canonical text of an identifier spells it and no other. -/
theorem spells_text_iff {other : Identifier} :
    other.Spells identifier.text.toList ↔ other = identifier := by
  constructor
  · exact fun spells => spells.unique identifier.spells_text
  · rintro rfl
    exact other.spells_text

end Identifier

end UnattendedRefresh
