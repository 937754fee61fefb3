import UnattendedRefresh.Proofs.Procedure.Answers

/-!
# Treatments

What the others make of a procedure: they answer its questions, each perhaps in view of
everything before, or a question breaks the procedure off. A treatment decides what is
asked from the first question to the last, so a procedure that is treated alike asks
alike, whatever happens elsewhere.
-/

namespace UnattendedRefresh

namespace Procedure

/-- What a question is answered after these replies. With no answer the procedure breaks
off there. -/
abbrev Treatment := List Reply → (question : Question) → Option question.Answer

variable {Result : Type} {treatment : Treatment} {procedure : Procedure Result}
  {past replies : List Reply} {questions : List Question}

/-- The answers that have been given after the past ones are those of the treatment. -/
def Treatment.Gives (treatment : Treatment) (past replies : List Reply) : Prop :=
  ∀ before reply after, replies = before ++ reply :: after →
    treatment (past ++ before) reply.question = some reply.answer

theorem Treatment.Gives.uncons {question : Question} {answer : question.Answer}
    (gives : treatment.Gives past (⟨question, answer⟩ :: replies)) :
    treatment past question = some answer ∧
      treatment.Gives (past ++ [⟨question, answer⟩]) replies := by
  constructor
  · simpa using gives [] ⟨question, answer⟩ replies rfl
  · intro before reply after split
    have given := gives (⟨question, answer⟩ :: before) reply after (by rw [split]; rfl)
    simpa using given

/-- Everything the procedure asks under the treatment, the last question perhaps the one
that breaks it off. -/
def asksUnder (treatment : Treatment) : List Reply → Procedure Result → List Question
  | _, .done _ => []
  | past, .report _ rest => asksUnder treatment past rest
  | past, .ask question resume =>
    question :: match treatment past question with
      | some answer => asksUnder treatment (past ++ [⟨question, answer⟩]) (resume answer)
      | none => []

theorem asksUnder_answered {question : Question} {resume : question.Answer → Procedure Result}
    {answer : question.Answer} (given : treatment past question = some answer) :
    asksUnder treatment past (.ask question resume) =
      question :: asksUnder treatment (past ++ [⟨question, answer⟩]) (resume answer) := by
  simp [asksUnder, given]

theorem asksUnder_broken {question : Question} {resume : question.Answer → Procedure Result}
    (broken : treatment past question = none) :
    asksUnder treatment past (.ask question resume) = [question] := by
  simp [asksUnder, broken]

/-- What has been asked is the beginning of what the treatment makes be asked. -/
theorem Asks.under (asks : Asks procedure replies questions)
    (gives : treatment.Gives past replies) : questions <+: asksUnder treatment past procedure := by
  induction asks generalizing past with
  | here => exact List.nil_prefix
  | waiting question resume => simp [asksUnder]
  | report _ ih => exact ih gives
  | answer answer _ ih =>
      obtain ⟨given, later⟩ := gives.uncons
      rw [asksUnder_answered given, List.cons_prefix_cons]
      exact ⟨rfl, ih later⟩

/-- A procedure that has ended has asked all of it. -/
theorem Course.under {result : Result} (course : Course procedure replies (.done result))
    (gives : treatment.Gives past replies) :
    asksUnder treatment past procedure = replies.map (·.question) := by
  generalize ended : Procedure.done result = point at course
  induction course generalizing past with
  | here =>
      subst ended
      rfl
  | report _ ih => exact ih gives ended
  | answer answer _ ih =>
      obtain ⟨given, later⟩ := gives.uncons
      rw [asksUnder_answered given, ih later ended, List.map_cons]

/-- A procedure that was broken off at its last question has asked all of it as well. -/
theorem Asks.under_broken {question : Question}
    (asks : Asks procedure replies (replies.map (·.question) ++ [question]))
    (gives : treatment.Gives past replies)
    (broken : treatment (past ++ replies) question = none) :
    asksUnder treatment past procedure = replies.map (·.question) ++ [question] := by
  generalize split : replies.map (·.question) ++ [question] = questions at asks
  induction asks generalizing past with
  | here => simp at split
  | waiting other resume =>
      obtain rfl : question = other := by simpa using split
      exact asksUnder_broken (by simpa using broken)
  | report _ ih => exact ih gives broken split
  | answer answer _ ih =>
      obtain ⟨given, later⟩ := gives.uncons
      have onward := List.cons.inj split
      rw [asksUnder_answered given, ih later (by simpa using broken) onward.2]

end Procedure

end UnattendedRefresh
