import UnattendedRefresh.Config.Process
import UnattendedRefresh.Proofs.Duration.Numbers

/-!
# Durations in variables

A variable that opens no list, no table and no quotation holds one word, which is read as
a flag, a number or a text before anybody asks for a duration. Of the numbers only whole
ones are taken for a duration, so the detour changes nothing but for numbers with a point.
-/

namespace UnattendedRefresh

namespace Config

namespace Literal

variable {source : String} {word characters : List Char} {seconds : Nat}

def IsPlainCharacter (character : Char) : Prop :=
  isSeparator character = false ∧ character ≠ '"' ∧ character ≠ '\''

instance (character : Char) : Decidable (IsPlainCharacter character) :=
  inferInstanceAs (Decidable (_ ∧ _))

/-- Nothing in the text opens or ends a list, a table or a quotation. -/
def IsWord (source : String) : Prop :=
  ∀ character ∈ source.toList, IsPlainCharacter character

instance (source : String) : Decidable (IsWord source) :=
  decidable_of_iff (source.toList.all (decide <| IsPlainCharacter ·) = true) (by simp [IsWord])

/-- Between its blanks the text is a number with a point. -/
def IsFraction (source : String) : Prop :=
  isReal (Text.trim source.toList) = true

instance (source : String) : Decidable (IsFraction source) :=
  inferInstanceAs (Decidable (_ = _))

theorem isWhiteSpace_of_isBlank {character : Char} (blank : isBlank character = true) :
    Text.isWhiteSpace character = true := by
  simp only [isBlank, Bool.or_eq_true, decide_eq_true_eq] at blank
  rcases blank with (((rfl | rfl) | rfl) | rfl) | rfl <;> decide

@[simp]
theorem trim_skipBlanks (characters : List Char) :
    Text.trim (skipBlanks characters) = Text.trim characters := by
  have blanks : (skipBlanks characters).dropWhile Text.isWhiteSpace =
      characters.dropWhile Text.isWhiteSpace := by
    unfold skipBlanks
    induction characters with
    | nil => rfl
    | cons first rest ih =>
        by_cases blank : isBlank first
        · rw [List.dropWhile_cons_of_pos blank, ih,
            List.dropWhile_cons_of_pos (isWhiteSpace_of_isBlank blank)]
        · rw [List.dropWhile_cons_of_neg blank]
  rw [Text.trim, Text.trim, Text.trimWhere_eq, Text.trimWhere_eq, blanks]

theorem span_of_plain (plain : ∀ character ∈ characters, IsPlainCharacter character) :
    characters.span (! isSeparator ·) = (characters, []) := by
  have inside : ∀ character ∈ characters, (! isSeparator character) = true :=
    fun character member => by simp [(plain character member).1]
  rw [List.span_eq_takeWhile_dropWhile, List.takeWhile_eq_self_iff.mpr inside,
    List.dropWhile_eq_nil_iff.mpr inside]

/-- Without separators and quotes there are bare values, and flags to begin with. -/
theorem readValue_word (fuel : Nat)
    (plain : ∀ character ∈ characters, IsPlainCharacter character) :
    readValue (fuel + 1) characters = some (ofBare (Text.trim characters), []) ∨
      (∃ letter rest, skipBlanks characters = letter :: rest ∧ (letter = 't' ∨ letter = 'f')) ∧
        ∃ flag left, readValue (fuel + 1) characters = some (.flag flag, left) := by
  have plain : ∀ character ∈ skipBlanks characters, IsPlainCharacter character :=
    fun character member => plain character ((List.dropWhile_sublist _).subset member)
  have first {character : Char} {rest : List Char}
      (begins : skipBlanks characters = character :: rest) : IsPlainCharacter character :=
    plain character (begins ▸ List.mem_cons_self)
  rw [readValue]
  split
  next rest begins => exact Or.inr ⟨⟨'t', _, begins, Or.inl rfl⟩, true, _, rfl⟩
  next rest begins => exact Or.inr ⟨⟨'f', _, begins, Or.inr rfl⟩, false, _, rfl⟩
  next rest begins => exact absurd (first begins) (by decide)
  next rest begins => exact absurd (first begins) (by decide)
  next rest begins => exact absurd (first begins) (by decide)
  next rest begins => exact absurd (first begins) (by decide)
  next =>
    rw [span_of_plain plain]
    exact Or.inl (by simp only [Option.map_some, trim_skipBlanks]; rfl)

/-- A word is read as what it is between its blanks, unless it begins like a flag. -/
theorem read_word (word : IsWord source) :
    read source = ofBare (Text.trim source.toList) ∨
      (∃ letter rest, Text.trim source.toList = letter :: rest ∧ (letter = 't' ∨ letter = 'f')) ∧
        ((∃ flag, read source = .flag flag) ∨ read source = .text source) := by
  unfold read
  rcases readValue_word (2 * source.toList.length + 1) word with
    bare | ⟨⟨letter, rest, begins, likeFlag⟩, flag, left, found⟩
  · exact Or.inl (by simp only [bare])
  · have solid : Text.isWhiteSpace letter = false := by
      rcases likeFlag with rfl | rfl <;> decide
    obtain ⟨more, trimmed⟩ := Text.exists_trim_cons rest solid
    rw [← begins, trim_skipBlanks] at trimmed
    refine Or.inr ⟨⟨letter, more, trimmed, likeFlag⟩, ?_⟩
    cases left with
    | nil => exact Or.inl ⟨flag, by simp only [found]⟩
    | cons => exact Or.inr (by simp only [found])

/-! ### Numbers -/

theorem takeSign_of_unsigned? {bound : Nat} (read : Decimal.unsigned? bound word = some seconds) :
    ∃ digits, Duration.takeSign word = (false, digits) ∧
      Decimal.natural? digits = some seconds ∧ seconds < bound := by
  obtain ⟨natural, fits⟩ := Option.filter_eq_some_iff.mp read
  have fits : seconds < bound := by simpa using fits
  split at natural
  next digits => exact ⟨digits, rfl, natural, fits⟩
  next unsigned =>
    refine ⟨word, ?_, natural, fits⟩
    unfold Duration.takeSign
    split
    next => exact absurd rfl (unsigned _)
    next =>
      obtain ⟨-, digital, -⟩ := Decimal.natural?_eq_some_iff.mp natural
      exact absurd (digital _ List.mem_cons_self) (by decide)
    next => rfl

theorem ofInt_neg (magnitude : Nat) :
    Value.ofInt (-(magnitude : Int)) =
      if magnitude = 0 then .natural 0 else .negative magnitude := by
  cases magnitude <;> rfl

end Literal

theorem readDuration_text (source : String) :
    readDuration (.text source) =
      match Duration.parse? source with
      | some duration => .ok duration
      | none => .error (Fault.here .message) :=
  rfl

theorem readDuration_bare {source : String} {word : List Char}
    (between : Text.trim source.toList = word) (whole : Literal.isReal word = false) :
    readDuration (Literal.ofBare word) = readDuration (.text source) := by
  have same : Duration.parse? (String.ofList word) = Duration.parse? source :=
    Duration.parse?_eq_of_trim (by simp [← between])
  unfold Literal.ofBare
  rw [if_neg (by simp [whole])]
  -- A number of seconds without a sign, one with a minus, or else a text.
  split
  next seconds read =>
    obtain ⟨digits, signed, natural, fits⟩ := Literal.takeSign_of_unsigned? read
    rw [readDuration_text, Duration.parse?_whole (between ▸ signed) natural]
    simp [readDuration, fits]
  next =>
    split
    next digits _ =>
      split
      next magnitude read =>
        obtain ⟨natural, -⟩ := Option.filter_eq_some_iff.mp read
        have signed : Duration.takeSign (Text.trim source.toList) = (true, digits) := by
          rw [between]
          rfl
        rw [readDuration_text, Duration.parse?_whole signed natural, Literal.ofInt_neg]
        by_cases zero : magnitude = 0 <;> simp [zero, readDuration, UInt64.size]
      next => rw [readDuration_text, readDuration_text, same]
    next => rw [readDuration_text, readDuration_text, same]

/-- A duration variable that holds a word means what the word means, unless the word is a
fraction: that is no duration, whatever it says. -/
theorem readDuration_read {source : String} (word : Literal.IsWord source) :
    readDuration (Literal.read source) =
      if Literal.IsFraction source then .error (Fault.here .message)
      else readDuration (.text source) := by
  rcases Literal.read_word word with
    bare | ⟨⟨letter, rest, begins, likeFlag⟩, ⟨flag, read⟩ | read⟩
  · rw [bare]
    split
    next fraction =>
      have real : Literal.isReal (Text.trim source.toList) = true := fraction
      simp [Literal.ofBare, real, readDuration]
    next whole => exact readDuration_bare rfl (by simpa [Literal.IsFraction] using whole)
  · have none := Duration.parse?_of_letter begins likeFlag
    simp [read, none, readDuration]
  · have none := Duration.parse?_of_letter begins likeFlag
    simp [read, readDuration_text, none]

end Config

end UnattendedRefresh
