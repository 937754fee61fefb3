import Mathlib.Data.List.TakeWhile
import UnattendedRefresh.Collaborators.SiteManagement
import UnattendedRefresh.Proofs.Http.Admissions
import UnattendedRefresh.Proofs.Http.Percent
import UnattendedRefresh.Proofs.Identifier.Canonical

/-!
# Identifiers in what is shown, sent and echoed

An identifier has one canonical text. Ranges show it, requests carry it, and the answer to
a forced refresh echoes it. Whatever spelling a request uses, its echo is read as the same
identifier again.
-/

namespace UnattendedRefresh

namespace Identifier

theorem mem_spelling {identifier : Identifier} {character : Char}
    (member : character ∈ identifier.spelling) :
    character = '-' ∨ character ∈ "0123456789abcdef".toList := by
  have within : character = '-' ∨ character ∈ Hexadecimal.digits 32 identifier.number := by
    simp only [spelling, group, List.mem_append, List.mem_cons] at member
    have of_take {place count : Nat} {bare : List Char}
        (inside : character ∈ (bare.drop place).take count) : character ∈ bare :=
      List.mem_of_mem_drop (List.mem_of_mem_take inside)
    rcases member with (((inside | inside) | inside) | inside) | inside
    · exact Or.inr (List.mem_of_mem_take inside)
    · exact inside.imp id of_take
    · exact inside.imp id of_take
    · exact inside.imp id of_take
    · exact inside.imp id List.mem_of_mem_drop
  exact within.imp id Hexadecimal.mem_of_mem_digits

theorem toList_text (identifier : Identifier) : identifier.text.toList = identifier.spelling :=
  String.toList_ofList

/-- Nothing that means anything in an address stands in a canonical text. -/
theorem not_mem_text (identifier : Identifier) {mark : Char} (marks : mark ∈ ['#', '?', '/', '%']) :
    mark ∉ identifier.text.toList := by
  rw [toList_text]
  intro member
  rcases mem_spelling member with rfl | digital
  · exact absurd marks (by decide)
  · simp only [List.mem_cons, List.not_mem_nil, or_false] at marks
    rcases marks with rfl | rfl | rfl | rfl <;> exact absurd digital (by decide)

/-- Digits and hyphens stand in a path as they are. -/
theorem encodePercent_text (identifier : Identifier) :
    Http.encodePercent Url.inPath identifier.text.toList = identifier.text.toList := by
  have plain : ∀ character ∈ '-' :: "0123456789abcdef".toList,
      Url.inPath character = false := by
    simp [Url.inPath, Http.isControl]
  rw [toList_text, Http.encodePercent]
  refine (List.flatMap_congr fun character member => ?_).trans (List.flatMap_singleton' _)
  rw [plain character (List.mem_cons.mpr (mem_spelling member)), if_neg Bool.false_ne_true]

theorem follow_text (identifier : Identifier) (passed rest : List (List Char)) :
    Url.follow passed (identifier.text.toList :: rest) =
      Url.follow (passed ++ [identifier.text.toList]) rest := by
  have long := identifier.length_text
  rw [← String.length_toList] at long
  -- No spelling of dots is as long.
  have apart {dots : List Char} (short : dots.length < 36) :
      identifier.text.toList.map Char.toLower ≠ dots := by
    rintro rfl
    simp [long] at short
  have single : Url.isSingleDot identifier.text.toList = false := by
    simp only [Url.isSingleDot, apart (by decide : ".".toList.length < 36),
      apart (by decide : "%2e".toList.length < 36), decide_false, Bool.or_false]
  have double : Url.isDoubleDot identifier.text.toList = false := by
    simp only [Url.isDoubleDot, List.any_eq_false, decide_eq_true_eq]
    intro spelling member
    have short : ∀ spelling ∈ [".." , ".%2e", "%2e.", "%2e%2e"], spelling.toList.length < 36 := by
      decide
    exact apart (short spelling member)
  simp [Url.follow, single, double, encodePercent_text]

end Identifier

namespace Http

/-! ### What a segment of a path names -/

theorem cutAt_of_absent {separator : Char} {characters : List Char}
    (absent : separator ∉ characters) : cutAt separator characters = (characters, []) := by
  have others : ∀ character ∈ characters, decide (character ≠ separator) = true :=
    fun character member => decide_eq_true fun same => absurd (same ▸ member) absent
  rw [cutAt, List.takeWhile_eq_self_iff.mpr others, List.dropWhile_eq_nil_iff.mpr others,
    List.drop_nil]

theorem textOfBytes?_text (identifier : Identifier) :
    textOfBytes? (decodePercent identifier.text.toList) = some identifier.text := by
  rw [textOfBytes?_of_plain (identifier.not_mem_text (by simp)), String.ofList_toList]

/-- A request to refresh the user whom a text names. -/
def forcedPost (spelling : String) : Request :=
  ⟨"POST", "/flywheel/internal/users/" ++ spelling⟩

theorem posts_text (userId : UserId) :
    (forcedPost userId.text).Posts ("/flywheel/internal/users/".toList ++ userId.text.toList) := by
  have absent {mark : Char} (marks : mark ∈ ['#', '?']) :
      mark ∉ "/flywheel/internal/users/".toList ++ userId.text.toList := by
    rw [List.mem_append, not_or]
    simp only [List.mem_cons, List.not_mem_nil, or_false] at marks
    rcases marks with rfl | rfl
    · exact ⟨by decide, userId.not_mem_text (by simp)⟩
    · exact ⟨by decide, userId.not_mem_text (by simp)⟩
  refine ⟨rfl, ?_⟩
  rw [Request.path, forcedPost, String.toList_append, cutAt_of_absent (absent (by simp)),
    cutAt_of_absent (absent (by simp))]

theorem answer_text (surroundings : Surroundings) (trigger : Trigger) (userId : UserId) :
    answer surroundings trigger (forcedPost userId.text) = queueForced trigger userId := by
  have named : userId.text.toList ≠ [] := by
    refine List.ne_nil_of_length_pos ?_
    rw [String.length_toList, userId.length_text]
    decide
  rw [answer_forced named (userId.not_mem_text (by simp)) (posts_text userId)]
  exact answerForced_of_spells (textOfBytes?_text userId) userId.spells_text

/-- An answer that echoes a user comes of asking for that user. -/
theorem exists_of_verdict {trigger : Trigger} {segment : List Char} {echo : String}
    {accepted : Bool}
    (echoes : (answerForced trigger segment).response =
      .verdict [("userId", .text echo)] accepted) :
    ∃ userId : UserId, echo = userId.text ∧
      answerForced trigger segment = queueForced trigger userId := by
  simp only [answerForced] at echoes ⊢
  split at echoes
  next => simp [Answered.only, Response.plain, Response.verdict, Response.json] at echoes
  next spelling spelled =>
    split at echoes
    next =>
      exact absurd ⟨_, echoes.symm⟩ (Response.not_reports_verdict _ accepted .invalidUserId)
    next userId read =>
      refine ⟨userId, ?_, rfl⟩
      rw [queueForced_eq] at echoes
      have same {answered : Bool} (responds : Response.verdict [("userId", .text userId.text)]
          answered = .verdict [("userId", .text echo)] accepted) : echo = userId.text := by
        simp only [Response.verdict, Response.json, List.cons_append, Response.mk.injEq,
          Option.some.injEq, Json.record.injEq, List.cons.injEq, Prod.mk.injEq,
          Json.text.injEq] at responds
        exact responds.2.2.2.1.2.symm
      cases queue_handled trigger .forced (.forced userId) [("userId", .text userId.text)] _ _ with
      | taken _ _ _ _ response_eq => exact same (response_eq.symm.trans echoes)
      | full _ _ _ _ response_eq => exact same (response_eq.symm.trans echoes)
      | closed _ _ _ reports =>
          exact absurd (echoes ▸ reports) (Response.not_reports_verdict _ accepted _)

end Http

/-- The canonical text of an identifier is read as that identifier, as are its other spellings
and nothing else, and the texts are in the order of the numbers. Ranges show that text, the
path of a request holds it as it is, and what the answer to a forced refresh echoes names the
user who was asked for. -/
theorem identifiers_lossless :
    (∀ identifier : Identifier,
      identifier.text.length = 36 ∧ Identifier.IsCanonical identifier.text.toList ∧
      Identifier.ofText? identifier.text = some identifier ∧
      (∀ source, Identifier.ofText? source = some identifier ↔
        identifier.Spells source.toList) ∧
      (∀ passed rest, Url.follow passed (identifier.text.toList :: rest) =
        Url.follow (passed ++ [identifier.text.toList]) rest) ∧
      ∀ other : Identifier,
        (identifier.text < other.text ↔ identifier.number < other.number) ∧
        (IdRange.mk identifier other).text =
          "[" ++ identifier.text ++ ", " ++ other.text ++ "]") ∧
    (∀ source, Identifier.ofText? source = none ↔
      ∀ identifier : Identifier, ¬ identifier.Spells source.toList) ∧
    ∀ (surroundings : Http.Surroundings) (trigger : Trigger) (request : Http.Request)
        (segment : List Char) (echo : String) (accepted : Bool), segment ≠ [] → '/' ∉ segment →
      request.Posts ("/flywheel/internal/users/".toList ++ segment) →
      (Http.answer surroundings trigger request).response =
        .verdict [("userId", .text echo)] accepted →
      ∃ userId : UserId, echo = userId.text ∧
        Http.answer surroundings trigger request = Http.queueForced trigger userId ∧
        ∀ (surroundings : Http.Surroundings) (trigger : Trigger),
          Http.answer surroundings trigger (Http.forcedPost echo) =
            Http.queueForced trigger userId := by
  refine ⟨fun identifier => ⟨identifier.length_text, ?_, ?_, fun source => ?_,
    fun passed rest => ?_, fun other => ⟨?_, rfl⟩⟩, fun source => ?_, ?_⟩
  · rw [Identifier.toList_text]
    exact identifier.isCanonical_spelling
  · exact identifier.ofText?_text
  · exact Identifier.ofText?_eq_some_iff
  · exact identifier.follow_text passed rest
  · exact identifier.text_lt_text_iff other
  · simp only [Option.eq_none_iff_forall_ne_some, ne_eq, Identifier.ofText?_eq_some_iff]
  · intro surroundings trigger request segment echo accepted named single posts echoes
    rw [Http.answer_forced named single posts] at echoes ⊢
    obtain ⟨userId, rfl, asked⟩ := Http.exists_of_verdict echoes
    exact ⟨userId, rfl, asked, fun surroundings trigger =>
      Http.answer_text surroundings trigger userId⟩

section Spelled

private def shouter : UserId := Identifier.ofNat 0x6f1c2a9e000040008000000000000002

private def quietHours : Http.Surroundings := ⟨default, none, ⟨0, 0⟩⟩

private def idle : Trigger := Trigger.create Gate.neededAction .default ⟨1, 1, 0, 1, 0⟩

private def shouted : List Char := "urn:uuid:6F1C2A9E-0000-4000-8000-000000000002".toList

theorem identifiers_lossless_shouted :
    Http.answer quietHours idle
        (Http.forcedPost "urn:uuid:6F1C2A9E-0000-4000-8000-000000000002") =
      Http.queueForced idle shouter ∧
    Http.answer quietHours idle (Http.forcedPost "6f1c2a9e-0000-4000-8000-000000000002") =
      Http.queueForced idle shouter := by
  obtain ⟨userId, echo, asked, again⟩ := identifiers_lossless.2.2 quietHours idle
    (Http.forcedPost "urn:uuid:6F1C2A9E-0000-4000-8000-000000000002") shouted
    "6f1c2a9e-0000-4000-8000-000000000002" true (by decide) (by decide) ⟨rfl, by rfl⟩ (by rfl)
  have same : shouter = userId := by
    rw [← Identifier.spells_text_iff, ← echo]
    exact Identifier.ofText?_eq_some_iff.mp (by rfl)
  subst same
  exact ⟨asked, again quietHours idle⟩

end Spelled

/-- As `Identifier.Spells`, but with the scheme in small letters only. -/
inductive Identifier.SpellsPlainly (identifier : Identifier) : List Char → Prop where
  | bare {bare : List Char} (digits : identifier.Digits bare) : SpellsPlainly identifier bare
  | grouped {bare : List Char} (digits : identifier.Digits bare) :
      SpellsPlainly identifier (group bare)
  | braced {bare : List Char} (digits : identifier.Digits bare) :
      SpellsPlainly identifier ('\x7b' :: group bare ++ ['\x7d'])
  | named {bare : List Char} (digits : identifier.Digits bare) :
      SpellsPlainly identifier ("urn:uuid:".toList ++ group bare)

/-- A scheme in capitals is read as well. -/
theorem capital_scheme_read :
    let source := "URN:UUID:6F1C2A9E-0000-4000-8000-00000000000A"
    (¬ ∃ identifier : Identifier, identifier.SpellsPlainly source.toList) ∧
      Identifier.ofText? source =
        some (Identifier.ofNat 0x6f1c2a9e00004000800000000000000a) := by
  intro source
  refine ⟨?_, by decide +kernel⟩
  rintro ⟨identifier, spells⟩
  have full : source.toList.length = 45 := by decide
  generalize characters_eq : source.toList = characters at spells full
  cases spells with
  | bare digits => simp [digits.length] at full
  | grouped digits => simp [Identifier.length_group digits.length] at full
  | braced digits => simp [Identifier.length_group digits.length] at full
  | named digits =>
      have first := congrArg List.head? characters_eq
      simp [source] at first

end UnattendedRefresh
