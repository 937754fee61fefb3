import UnattendedRefresh.Procedure

/-!
# Courses of a procedure

A procedure and the answers it has got so far determine the point it has come to,
up to the entries it still has to write. This file relates the three, and follows
a course through one procedure and on into the next.
-/

namespace UnattendedRefresh

namespace Procedure

variable {Result Next : Type}

/-- With these replies to its questions, in turn, the procedure comes to the point. -/
inductive Course : Procedure Result → List Reply → Procedure Result → Prop where
  | here (point : Procedure Result) : Course point [] point
  | report {entry : Journal.Entry} {rest point : Procedure Result} {replies : List Reply} :
      Course rest replies point → Course (.report entry rest) replies point
  | answer {question : Question} {resume : question.Answer → Procedure Result}
      {point : Procedure Result} {replies : List Reply} (answer : question.Answer) :
      Course (resume answer) replies point →
        Course (.ask question resume) (⟨question, answer⟩ :: replies) point

@[simp]
theorem pure_eq_done (result : Result) : (pure result : Procedure Result) = .done result :=
  rfl

@[simp]
theorem bind_eq (procedure : Procedure Result) (next : Result → Procedure Next) :
    (procedure >>= next) = procedure.bind next :=
  rfl

@[simp]
theorem done_bind (result : Result) (next : Result → Procedure Next) :
    (Procedure.done result).bind next = next result :=
  rfl

@[simp]
theorem report_bind (entry : Journal.Entry) (rest : Procedure Result)
    (next : Result → Procedure Next) :
    (Procedure.report entry rest).bind next = .report entry (rest.bind next) :=
  rfl

@[simp]
theorem ask_bind (question : Question) (resume : question.Answer → Procedure Result)
    (next : Result → Procedure Next) :
    (Procedure.ask question resume).bind next =
      .ask question fun answer => (resume answer).bind next :=
  rfl

@[simp]
theorem question_bind (question : Question) (next : question.Answer → Procedure Next) :
    (Procedure.question question).bind next = .ask question next :=
  rfl

@[simp]
theorem note_bind (level : Journal.Level) (message : String)
    (next : Unit → Procedure Next) :
    (Procedure.note level message).bind next =
      .report (Journal.note level message) (next ()) :=
  rfl

namespace Course

variable {procedure point later : Procedure Result} {replies more : List Reply}

theorem trans (first : Course procedure replies point) (second : Course point more later) :
    Course procedure (replies ++ more) later := by
  induction first with
  | here => exact second
  | report _ ih => exact .report (ih second)
  | answer answer _ ih => exact .answer answer (ih second)

@[simp]
theorem done_iff {result : Result} :
    Course (.done result) replies point ↔ replies = [] ∧ point = .done result := by
  constructor
  · rintro (_ | _ | _)
    exact ⟨rfl, rfl⟩
  · rintro ⟨rfl, rfl⟩
    exact .here _

theorem report_iff {entry : Journal.Entry} {rest : Procedure Result} :
    Course (.report entry rest) replies point ↔
      (replies = [] ∧ point = .report entry rest) ∨ Course rest replies point := by
  constructor
  · rintro (_ | onward | _)
    · exact Or.inl ⟨rfl, rfl⟩
    · exact Or.inr onward
  · rintro (⟨rfl, rfl⟩ | onward)
    · exact .here _
    · exact .report onward

theorem ask_iff {question : Question} {resume : question.Answer → Procedure Result} :
    Course (.ask question resume) replies point ↔
      (replies = [] ∧ point = .ask question resume) ∨
        ∃ answer rest, replies = ⟨question, answer⟩ :: rest ∧
          Course (resume answer) rest point := by
  constructor
  · rintro (_ | _ | ⟨answer, onward⟩)
    · exact Or.inl ⟨rfl, rfl⟩
    · exact Or.inr ⟨answer, _, rfl, onward⟩
  · rintro (⟨rfl, rfl⟩ | ⟨answer, rest, rfl, onward⟩)
    · exact .here _
    · exact .answer answer onward

/-- Entries do not matter on the way to a question. -/
@[simp]
theorem report_to_ask {entry : Journal.Entry} {rest : Procedure Result}
    {question : Question} {resume : question.Answer → Procedure Result} :
    Course (.report entry rest) replies (.ask question resume) ↔
      Course rest replies (.ask question resume) := by
  simp [report_iff]

/-- Entries do not matter on the way to the end. -/
@[simp]
theorem report_to_done {entry : Journal.Entry} {rest : Procedure Result} {result : Result} :
    Course (.report entry rest) replies (.done result) ↔
      Course rest replies (.done result) := by
  simp [report_iff]

@[simp]
theorem reportAll_to_ask {entries : List Journal.Entry} {rest : Procedure Result}
    {question : Question} {resume : question.Answer → Procedure Result} :
    Course (reportAll entries rest) replies (.ask question resume) ↔
      Course rest replies (.ask question resume) := by
  induction entries with
  | nil => rfl
  | cons entry entries ih => rw [reportAll, report_to_ask, ih]

@[simp]
theorem reportAll_to_done {entries : List Journal.Entry} {rest : Procedure Result}
    {result : Result} :
    Course (reportAll entries rest) replies (.done result) ↔
      Course rest replies (.done result) := by
  induction entries with
  | nil => rfl
  | cons entry entries ih => rw [reportAll, report_to_done, ih]

/-- A question is at the end of the course or its answer is on the course. -/
theorem ask_to_ask {question other : Question}
    {resume : question.Answer → Procedure Result}
    {onward : other.Answer → Procedure Result} :
    Course (.ask question resume) replies (.ask other onward) ↔
      (replies = [] ∧ Procedure.ask other onward = .ask question resume) ∨
        ∃ answer rest, replies = ⟨question, answer⟩ :: rest ∧
          Course (resume answer) rest (.ask other onward) :=
  ask_iff

/-- On the way to another question, the first one was answered. -/
theorem past_question {question other : Question}
    {next : question.Answer → Procedure Result} {onward : other.Answer → Procedure Result}
    (different : question ≠ other)
    (course : Course (Procedure.question question >>= next) replies (.ask other onward)) :
    ∃ answer rest, replies = ⟨question, answer⟩ :: rest ∧
      Course (next answer) rest (.ask other onward) := by
  rw [bind_eq, question_bind, ask_to_ask] at course
  rcases course with ⟨-, same⟩ | past
  · simp only [ask.injEq] at same
    exact absurd same.1.symm different
  · exact past

@[simp]
theorem ask_to_done {question : Question} {resume : question.Answer → Procedure Result}
    {result : Result} :
    Course (.ask question resume) replies (.done result) ↔
      ∃ answer rest, replies = ⟨question, answer⟩ :: rest ∧
        Course (resume answer) rest (.done result) := by
  simp [ask_iff]

@[simp]
theorem ask_answer_to_done {question : Question}
    {resume : question.Answer → Procedure Result} {answer : question.Answer}
    {result : Result} :
    Course (.ask question resume) (⟨question, answer⟩ :: replies) (.done result) ↔
      Course (resume answer) replies (.done result) := by
  constructor
  · rintro (_ | _ | ⟨_, onward⟩)
    exact onward
  · exact .answer answer

/-- Through one procedure and on into the next. -/
theorem bind_iff {next : Result → Procedure Next} {point : Procedure Next} :
    Course (procedure.bind next) replies point ↔
      (∃ inner, Course procedure replies inner ∧ point = inner.bind next) ∨
        ∃ first second result, replies = first ++ second ∧
          Course procedure first (.done result) ∧ Course (next result) second point := by
  constructor
  · intro course
    induction procedure generalizing replies with
    | done result => exact Or.inr ⟨[], replies, result, rfl, .here _, course⟩
    | report entry rest ih =>
        rcases report_iff.mp course with ⟨rfl, rfl⟩ | onward
        · exact Or.inl ⟨_, .here _, rfl⟩
        · rcases ih onward with ⟨inner, within, rfl⟩ | ⟨first, second, result, rfl, within, after⟩
          · exact Or.inl ⟨inner, .report within, rfl⟩
          · exact Or.inr ⟨first, second, result, rfl, .report within, after⟩
    | ask question resume ih =>
        rcases ask_iff.mp course with ⟨rfl, rfl⟩ | ⟨answer, rest, rfl, onward⟩
        · exact Or.inl ⟨_, .here _, rfl⟩
        · rcases ih answer onward with
            ⟨inner, within, rfl⟩ | ⟨first, second, result, rfl, within, after⟩
          · exact Or.inl ⟨inner, .answer answer within, rfl⟩
          · exact Or.inr ⟨_ :: first, second, result, rfl, .answer answer within, after⟩
  · have lifted {replies : List Reply} {inner : Procedure Result}
        (course : Course procedure replies inner) :
        Course (procedure.bind next) replies (inner.bind next) := by
      induction course with
      | here => exact .here _
      | report _ ih => exact .report ih
      | answer answer _ ih => exact .answer answer ih
    rintro (⟨inner, within, rfl⟩ | ⟨first, second, result, rfl, within, after⟩)
    · exact lifted within
    · exact (lifted within).trans after

/-- A procedure followed by another stands at a question within the first, or
within the second once the first has ended. -/
theorem bind_to_ask {next : Result → Procedure Next} {question : Question}
    {onward : question.Answer → Procedure Next} :
    Course (procedure.bind next) replies (.ask question onward) ↔
      (∃ resume, Course procedure replies (.ask question resume) ∧
        onward = fun answer => (resume answer).bind next) ∨
        ∃ first second result, replies = first ++ second ∧
          Course procedure first (.done result) ∧
            Course (next result) second (.ask question onward) := by
  rw [bind_iff]
  constructor
  · rintro (⟨inner, within, same⟩ | after)
    · cases inner with
      | done result =>
          exact Or.inr ⟨replies, [], result, by simp, within, same ▸ .here _⟩
      | report entry rest => simp at same
      | ask other resume =>
          simp only [ask_bind, ask.injEq] at same
          obtain ⟨rfl, same⟩ := same
          exact Or.inl ⟨resume, within, eq_of_heq same⟩
    · exact Or.inr after
  · rintro (⟨resume, within, rfl⟩ | after)
    · exact Or.inl ⟨_, within, rfl⟩
    · exact Or.inr after

theorem bind_to_done {next : Result → Procedure Next} {last : Next} :
    Course (procedure.bind next) replies (.done last) ↔
      ∃ first second result, replies = first ++ second ∧
        Course procedure first (.done result) ∧
          Course (next result) second (.done last) := by
  rw [bind_iff]
  constructor
  · rintro (⟨inner, within, same⟩ | after)
    · cases inner with
      | done result => exact ⟨replies, [], result, by simp, within, same ▸ .here _⟩
      | report entry rest => simp at same
      | ask other resume => simp at same
    · exact after
  · exact Or.inr

/-- Each answer on a course was given where the procedure stood at its question. -/
theorem asked_of_mem (course : Course procedure replies point) {reply : Reply}
    (member : reply ∈ replies) :
    ∃ before after resume, replies = before ++ reply :: after ∧
      Course procedure before (.ask reply.question resume) := by
  induction course with
  | here => simp at member
  | report _ ih =>
      obtain ⟨before, after, resume, split, course⟩ := ih member
      exact ⟨before, after, resume, split, .report course⟩
  | @answer question resume point replies answer _ ih =>
      rcases List.mem_cons.mp member with rfl | member
      · exact ⟨[], replies, resume, rfl, .here _⟩
      · obtain ⟨before, after, onward, split, course⟩ := ih member
        exact ⟨_ :: before, after, onward, by rw [split]; rfl, .answer answer course⟩

end Course

/-- Whatever it is answered, the procedure asks no other questions than these. -/
def AsksOnly (allowed : Question → Prop) : Procedure Result → Prop
  | .done _ => True
  | .report _ rest => AsksOnly allowed rest
  | .ask question resume => allowed question ∧ ∀ answer, AsksOnly allowed (resume answer)

theorem AsksOnly.ask {allowed : Question → Prop} {question : Question}
    {next : question.Answer → Procedure Result} (fits : allowed question)
    (onward : ∀ answer, AsksOnly allowed (next answer)) :
    AsksOnly allowed (Procedure.question question >>= next) :=
  ⟨fits, onward⟩

theorem AsksOnly.mono {allowed wider : Question → Prop} {procedure : Procedure Result}
    (only : AsksOnly allowed procedure) (within : ∀ question, allowed question → wider question) :
    AsksOnly wider procedure := by
  induction procedure with
  | done result => trivial
  | report entry rest ih => exact ih only
  | ask question resume ih =>
      exact ⟨within question only.1, fun answer => ih answer (only.2 answer)⟩

theorem AsksOnly.bind {allowed : Question → Prop} {procedure : Procedure Result}
    {next : Result → Procedure Next} (first : AsksOnly allowed procedure)
    (second : ∀ result, AsksOnly allowed (next result)) :
    AsksOnly allowed (procedure.bind next) := by
  induction procedure with
  | done result => exact second result
  | report entry rest ih => exact ih first
  | ask question resume ih => exact ⟨first.1, fun answer => ih answer (first.2 answer)⟩

theorem AsksOnly.reportAll {allowed : Question → Prop} {entries : List Journal.Entry}
    {rest : Procedure Result} (only : AsksOnly allowed rest) :
    AsksOnly allowed (reportAll entries rest) := by
  induction entries with
  | nil => exact only
  | cons entry entries ih => exact ih

theorem AsksOnly.allowed {allowed : Question → Prop} {procedure : Procedure Result}
    (only : AsksOnly allowed procedure) {replies : List Reply} {question : Question}
    {onward : question.Answer → Procedure Result}
    (course : Course procedure replies (.ask question onward)) : allowed question := by
  generalize same : Procedure.ask question onward = point at course
  induction course with
  | here =>
      subst same
      exact only.1
  | report _ ih => exact ih only same
  | answer answer _ ih => exact ih (only.2 answer) same

end Procedure

end UnattendedRefresh
