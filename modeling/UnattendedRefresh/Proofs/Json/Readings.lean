import UnattendedRefresh.Proofs.Json.Literals

/-!
# What is written is read

A value is kept by its text if its numbers are integers of 64 bits and its strings are
whole. The reader is given one unit of fuel for each character that is left, and every call
of it takes at least one character, so the fuel lasts. What follows a value must not
continue it: inside a list or a record a comma or the closing bracket follows, and at the
end nothing.
-/

namespace UnattendedRefresh.Json

/-- The values that a text can hold: numbers of 64 bits and strings that are whole. -/
inductive Exact : Json → Prop
  | null : Exact null
  | bool (value : Bool) : Exact (bool value)
  | natural {value : Nat} (small : value < UInt64.size) : Exact (natural value)
  | negative {magnitude : Nat} (least : 1 ≤ magnitude) (greatest : magnitude ≤ 1 <<< 63) :
      Exact (negative magnitude)
  | text (value : String) : Exact (text value)
  | list {items : List Json} (exact : ∀ item ∈ items, Exact item) : Exact (list items)
  | record {fields : List (String × Json)} (exact : ∀ entry ∈ fields, Exact entry.2) :
      Exact (record fields)

/-! ### What is written -/

def written (value : Json) : List Char :=
  (render value).toList

def writtenField (entry : String × Json) : List Char :=
  (quote entry.1).toList ++ ':' :: written entry.2

def separated (parts : List (List Char)) : List Char :=
  [','].intercalate parts

@[simp]
theorem separated_singleton (part : List Char) : separated [part] = part := by
  simp [separated]

theorem separated_cons (part : List Char) {parts : List (List Char)} (more : parts ≠ []) :
    separated (part :: parts) = part ++ ',' :: separated parts := by
  cases parts with
  | nil => exact absurd rfl more
  | cons next parts => simp [separated, List.intercalate_cons_cons]

theorem written_list (items : List Json) :
    written (list items) = '[' :: (separated (items.map written) ++ [']']) := by
  have rendered : renderItems items = items.map render := by
    induction items with
    | nil => rfl
    | cons item items ih => rw [renderItems, ih, List.map_cons]
  simp [written, render, rendered, separated, String.toList_intercalate, Function.comp_def]
  rfl

theorem written_record (fields : List (String × Json)) :
    written (record fields) = '\x7b' :: (separated (fields.map writtenField) ++ ['\x7d']) := by
  have rendered : renderFields fields =
      fields.map fun entry => quote entry.1 ++ ":" ++ render entry.2 := by
    induction fields with
    | nil => rfl
    | cons entry fields ih => rw [renderFields, ih, List.map_cons]
  simp [written, render, rendered, separated, String.toList_intercalate, Function.comp_def]
  rfl

theorem written_natural (value : Nat) : written (natural value) = Nat.toDigits 10 value := by
  simp [written, render]

theorem written_negative (magnitude : Nat) :
    written (negative magnitude) = '-' :: Nat.toDigits 10 magnitude := by
  simp [written, render]

theorem written_text (value : String) :
    written (text value) = '"' :: (escaped value.toList ++ ['"']) :=
  toList_quote value

/-! ### How a value begins -/

/-- The characters that the reader skips, and those that close a list or a record. -/
def Opens (character : Char) : Prop :=
  character ∉ [' ', '\t', '\n', '\r', ']', '\x7d']

instance (character : Char) : Decidable (Opens character) :=
  inferInstanceAs (Decidable (character ∉ _))

theorem Opens.skipBlanks {character : Char} (opens : Opens character) (rest : List Char) :
    skipBlanks (character :: rest) = character :: rest := by
  simp only [Opens, List.mem_cons, not_or] at opens
  simp [Json.skipBlanks, opens]

theorem opens_of_isDigit {character : Char} (digital : character.isDigit = true) :
    Opens character := by
  simp only [Opens, List.mem_cons, List.not_mem_nil, or_false, not_or]
  refine ⟨?_, ?_, ?_, ?_, ?_, ?_⟩ <;> rintro rfl <;> simp at digital

/-- There is a first character, and the reader neither skips it nor closes anything at it. -/
def Begins (characters : List Char) : Prop :=
  ∃ first others, characters = first :: others ∧ Opens first

theorem Begins.append {characters : List Char} (begins : Begins characters) (rest : List Char) :
    Begins (characters ++ rest) := by
  obtain ⟨first, others, rfl, opens⟩ := begins
  exact ⟨first, others ++ rest, rfl, opens⟩

/-- Parts written one after the other begin as the first of them. -/
theorem Begins.separated {part : List Char} (begins : Begins part) (parts : List (List Char)) :
    Begins (separated (part :: parts)) := by
  rcases eq_or_ne parts [] with rfl | more
  · rwa [separated_singleton]
  · rw [separated_cons _ more]
    exact begins.append _

theorem Exact.begins {value : Json} (exact : Exact value) : Begins (written value) := by
  cases exact with
  | null => exact ⟨_, _, rfl, by decide⟩
  | bool value => cases value <;> exact ⟨_, _, rfl, by decide⟩
  | @natural value small =>
      obtain ⟨digit, others, digits, digital⟩ := exists_toDigits_eq_cons value
      exact ⟨digit, others, by rw [written_natural, digits], opens_of_isDigit digital⟩
  | negative => exact ⟨_, _, written_negative _, by decide⟩
  | text => exact ⟨_, _, written_text _, by decide⟩
  | list => exact ⟨_, _, written_list _, by decide⟩
  | record => exact ⟨_, _, written_record _, by decide⟩

/-! ### Reading it back -/

/-- With fuel for its characters, the text of a value is read to its end. -/
def ReadsBack (value : Json) : Prop :=
  ∀ fuel rest, (written value).length ≤ fuel → EndsNumber rest →
    readValue fuel (written value ++ rest) = some (value, rest)

section ReadsBack

variable {fuel : Nat} {rest : List Char}

theorem readValue_numeral {first : Char} (numeral : first = '-' ∨ first.isDigit = true)
    (fuel : Nat) (rest : List Char) :
    readValue (fuel + 1) (first :: rest) = readNumber (first :: rest) := by
  have opens : Opens first := numeral.elim (by rintro rfl; decide) opens_of_isDigit
  unfold readValue
  rw [opens.skipBlanks]
  split
  case h_7 => rfl
  all_goals
    next same =>
      cases same
      simp at numeral

theorem endsNumber_comma : EndsNumber (',' :: rest) := by
  simp [EndsNumber]

theorem readItems_comma {characters : List Char} {item : Json} (earlier : List Json)
    (read : readValue fuel characters = some (item, ',' :: rest)) :
    readItems (fuel + 1) earlier characters = readItems fuel (item :: earlier) rest := by
  simp [readItems, read, skipBlanks]

/-- By induction on the items: after each but the last a comma follows. -/
theorem readItems_separated {items : List Json} (reads : ∀ item ∈ items, ReadsBack item)
    (nonempty : items ≠ []) (earlier : List Json)
    (enough : (separated (items.map written)).length < fuel) :
    readItems fuel earlier (separated (items.map written) ++ ']' :: rest) =
      some (list (earlier.reverse ++ items), rest) := by
  induction items generalizing fuel earlier with
  | nil => exact absurd rfl nonempty
  | cons item items ih =>
      obtain ⟨fuel, rfl⟩ := Nat.exists_eq_succ_of_ne_zero (Nat.ne_zero_of_lt enough)
      have first := reads item List.mem_cons_self
      rcases eq_or_ne items [] with rfl | more
      · have read := first fuel (']' :: rest) (by simpa using Nat.le_of_lt_succ enough)
          (by simp [EndsNumber])
        simp [readItems, read, skipBlanks]
      · rw [List.map_cons, separated_cons _ (by simpa using more)] at enough ⊢
        rw [List.length_append, List.length_cons] at enough
        rw [List.append_assoc, List.cons_append,
          readItems_comma earlier (first fuel _ (by omega) endsNumber_comma),
          ih (fun other member => reads other (List.mem_cons_of_mem _ member)) more _ (by omega)]
        simp

theorem readFields_comma {entry : String × Json} (earlier : List (String × Json))
    (read : readValue fuel (written entry.2 ++ ',' :: rest) = some (entry.2, ',' :: rest)) :
    readFields (fuel + 1) earlier (writtenField entry ++ ',' :: rest) =
      readFields fuel (entry :: earlier) rest := by
  simp [readFields, writtenField, toList_quote, skipBlanks, readText_escaped, read]

theorem readFields_brace {entry : String × Json} (earlier : List (String × Json))
    (read : readValue fuel (written entry.2 ++ '\x7d' :: rest) = some (entry.2, '\x7d' :: rest)) :
    readFields (fuel + 1) earlier (writtenField entry ++ '\x7d' :: rest) =
      some (record (entry :: earlier).reverse, rest) := by
  simp [readFields, writtenField, toList_quote, skipBlanks, readText_escaped, read]

theorem readFields_separated {fields : List (String × Json)}
    (reads : ∀ entry ∈ fields, ReadsBack entry.2) (nonempty : fields ≠ [])
    (earlier : List (String × Json))
    (enough : (separated (fields.map writtenField)).length < fuel) :
    readFields fuel earlier (separated (fields.map writtenField) ++ '\x7d' :: rest) =
      some (record (earlier.reverse ++ fields), rest) := by
  induction fields generalizing fuel earlier with
  | nil => exact absurd rfl nonempty
  | cons entry fields ih =>
      obtain ⟨fuel, rfl⟩ := Nat.exists_eq_succ_of_ne_zero (Nat.ne_zero_of_lt enough)
      have first := reads entry List.mem_cons_self
      -- One unit of fuel goes to the entry; its name and colon leave enough for its value.
      have within : (written entry.2).length < (writtenField entry).length := by
        simp [writtenField]
        omega
      rcases eq_or_ne fields [] with rfl | more
      · have fits : (writtenField entry).length ≤ fuel := by
          simpa using Nat.le_of_lt_succ enough
        rw [List.map_singleton, separated_singleton,
          readFields_brace earlier (first fuel _ (by omega) (by simp [EndsNumber]))]
        simp
      · rw [List.map_cons, separated_cons _ (by simpa using more)] at enough ⊢
        rw [List.length_append, List.length_cons] at enough
        rw [List.append_assoc, List.cons_append,
          readFields_comma earlier (first fuel _ (by omega) endsNumber_comma),
          ih (fun other member => reads other (List.mem_cons_of_mem _ member)) more _ (by omega)]
        simp

theorem readValue_bracket {characters : List Char} (begins : Begins characters) (fuel : Nat) :
    readValue (fuel + 1) ('[' :: characters) = readItems fuel [] characters := by
  obtain ⟨first, others, rfl, opens⟩ := begins
  have unclosed : first ≠ ']' := fun same => by simp [same, Opens] at opens
  simp [readValue, Opens.skipBlanks (show Opens '[' by decide), opens.skipBlanks, unclosed]

theorem readValue_brace {characters : List Char} (begins : Begins characters) (fuel : Nat) :
    readValue (fuel + 1) ('\x7b' :: characters) = readFields fuel [] characters := by
  obtain ⟨first, others, rfl, opens⟩ := begins
  have unclosed : first ≠ '\x7d' := fun same => by simp [same, Opens] at opens
  simp [readValue, Opens.skipBlanks (show Opens '\x7b' by decide), opens.skipBlanks, unclosed]

/-- No value is written with nothing, so there is fuel for a first step. -/
theorem Exact.readsBack_of_succ {value : Json} (exact : Exact value)
    (read : ∀ fuel rest, (written value).length ≤ fuel + 1 → EndsNumber rest →
      readValue (fuel + 1) (written value ++ rest) = some (value, rest)) : ReadsBack value := by
  intro fuel rest enough ends
  obtain ⟨first, others, opening, -⟩ := exact.begins
  cases fuel with
  | zero => simp [opening] at enough
  | succ fuel => exact read fuel rest enough ends

theorem readsBack_list {items : List Json} (exact : ∀ item ∈ items, Exact item)
    (reads : ∀ item ∈ items, ReadsBack item) : ReadsBack (list items) := by
  refine (Exact.list exact).readsBack_of_succ fun fuel rest enough _ => ?_
  cases items with
  | nil => rfl
  | cons item items =>
      have begins : Begins (separated ((item :: items).map written)) :=
        (exact item List.mem_cons_self).begins.separated (items.map written)
      rw [written_list] at enough ⊢
      simp only [List.length_cons, List.length_append] at enough
      rw [List.cons_append, List.append_assoc, List.singleton_append,
        readValue_bracket (begins.append _),
        readItems_separated reads (List.cons_ne_nil item items) [] (by omega)]
      rfl

theorem readsBack_record {fields : List (String × Json)} (exact : ∀ entry ∈ fields, Exact entry.2)
    (reads : ∀ entry ∈ fields, ReadsBack entry.2) : ReadsBack (record fields) := by
  refine (Exact.record exact).readsBack_of_succ fun fuel rest enough _ => ?_
  cases fields with
  | nil => rfl
  | cons entry fields =>
      have named : Begins (writtenField entry) :=
        ⟨_, _, by rw [writtenField, toList_quote]; rfl, by decide⟩
      have begins : Begins (separated ((entry :: fields).map writtenField)) :=
        named.separated (fields.map writtenField)
      rw [written_record] at enough ⊢
      simp only [List.length_cons, List.length_append] at enough
      rw [List.cons_append, List.append_assoc, List.singleton_append,
        readValue_brace (begins.append _),
        readFields_separated reads (List.cons_ne_nil entry fields) [] (by omega)]
      rfl

/-- By induction on the value; a number needs what follows, a list or a record its parts. -/
theorem Exact.readsBack {value : Json} (exact : Exact value) : ReadsBack value := by
  induction exact with
  | null => exact Exact.null.readsBack_of_succ fun _ _ _ _ => rfl
  | bool value =>
      exact (Exact.bool value).readsBack_of_succ fun _ _ _ _ => by cases value <;> rfl
  | @natural value small =>
      refine (Exact.natural small).readsBack_of_succ fun fuel rest _ ends => ?_
      have read := readNumber_toDigits small ends
      obtain ⟨digit, others, digits, digital⟩ := exists_toDigits_eq_cons value
      rw [digits] at read
      rw [written_natural, digits, List.cons_append, readValue_numeral (Or.inr digital)]
      exact read
  | negative least greatest =>
      refine (Exact.negative least greatest).readsBack_of_succ fun fuel rest _ ends => ?_
      rw [written_negative, List.cons_append, readValue_numeral (Or.inl rfl)]
      exact readNumber_minus least greatest ends
  | text value =>
      refine (Exact.text value).readsBack_of_succ fun fuel rest _ _ => ?_
      rw [written_text]
      simp [readValue, skipBlanks, readText_escaped]
  | list exact reads => exact readsBack_list exact reads
  | record exact reads => exact readsBack_record exact reads

end ReadsBack

/-- The text of a value that a text can hold is read as that value. -/
theorem Exact.read_render {value : Json} (exact : Exact value) :
    read (render value) = some value := by
  have whole := exact.readsBack (2 * (written value).length + 2) [] (by omega)
    (by simp [EndsNumber])
  rw [List.append_nil, written] at whole
  simp [read, whole, skipBlanks]

end UnattendedRefresh.Json
