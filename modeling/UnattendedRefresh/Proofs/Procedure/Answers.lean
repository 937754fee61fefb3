import UnattendedRefresh.Proofs.Procedure.Course
import Mathlib.Data.List.Infix

/-!
# What answers decide

Every way of answering takes a procedure to its end. Two courses of one procedure
part only where one question got two answers, so a procedure has no other way to
learn anything.
-/

namespace UnattendedRefresh

namespace Procedure

variable {Result : Type}

/-- A way of answering; what is answered may depend on everything before. -/
abbrev Answering := List Reply → (question : Question) → question.Answer

/-- The replies are given in this way. -/
def Answering.Gives (answering : Answering) (replies : List Reply) : Prop :=
  ∀ before reply after, replies = before ++ reply :: after →
    reply.answer = answering before reply.question

theorem exists_course (answering : Answering) (procedure : Procedure Result) :
    ∃ replies result, Course procedure replies (.done result) ∧ answering.Gives replies := by
  induction procedure generalizing answering with
  | done result => exact ⟨[], result, .here _, by simp [Answering.Gives]⟩
  | report entry rest ih =>
      obtain ⟨replies, result, course, given⟩ := ih answering
      exact ⟨replies, result, .report course, given⟩
  | ask question resume ih =>
      let first : Reply := ⟨question, answering [] question⟩
      obtain ⟨replies, result, course, given⟩ :=
        ih first.answer fun past => answering (first :: past)
      refine ⟨first :: replies, result, .answer _ course, fun before reply after split => ?_⟩
      cases before with
      | nil =>
          obtain ⟨rfl, -⟩ := List.cons.inj split
          rfl
      | cons head before =>
          obtain ⟨rfl, rest⟩ := List.cons.inj split
          exact given before reply after rest

theorem Answering.Gives.of_mem {answering : Answering} {replies : List Reply}
    (gives : answering.Gives replies) {reply : Reply} (member : reply ∈ replies) :
    ∃ before, reply.answer = answering before reply.question := by
  obtain ⟨before, after, split⟩ := List.append_of_mem member
  exact ⟨before, gives before reply after split⟩

/-- Place by place, as long as the same is asked, the same is answered; only where the
answers are free they may differ. -/
def Agree (free : Question → Prop) : List Reply → List Reply → Prop
  | one :: first, other :: second =>
    one.question = other.question → (¬ free one.question → one = other) ∧ Agree free first second
  | _, _ => True

theorem Agree.uncons {free : Question → Prop} {question : Question}
    {answer given : question.Answer} {replies others : List Reply}
    (agree : Agree free (⟨question, answer⟩ :: replies) (⟨question, given⟩ :: others)) :
    (answer = given ∨ free question) ∧ Agree free replies others := by
  obtain ⟨fixed, rest⟩ := agree rfl
  refine ⟨?_, rest⟩
  by_cases open_ : free question
  · exact Or.inr open_
  · have alike := fixed open_
    simp only [Reply.mk.injEq, heq_eq_eq, true_and] at alike
    exact Or.inl alike

/-- With these replies the procedure has put these questions, the last of them
perhaps not answered yet. -/
inductive Asks : Procedure Result → List Reply → List Question → Prop where
  | here (procedure : Procedure Result) : Asks procedure [] []
  | waiting (question : Question) (resume : question.Answer → Procedure Result) :
      Asks (.ask question resume) [] [question]
  | report {entry : Journal.Entry} {rest : Procedure Result} {replies : List Reply}
      {questions : List Question} :
      Asks rest replies questions → Asks (.report entry rest) replies questions
  | answer {question : Question} {resume : question.Answer → Procedure Result}
      {replies : List Reply} {questions : List Question} (answer : question.Answer) :
      Asks (resume answer) replies questions →
        Asks (.ask question resume) (⟨question, answer⟩ :: replies) (question :: questions)

section Asks

variable {procedure point : Procedure Result} {replies : List Reply}

/-- The answers decide where a procedure stands, up to the entries it has written. -/
theorem Course.linear {later : Procedure Result} (one : Course procedure replies point)
    (other : Course procedure replies later) : Course point [] later ∨ Course later [] point := by
  induction one with
  | here point => exact Or.inl other
  | report one ih =>
      rcases Course.report_iff.mp other with ⟨rfl, rfl⟩ | further
      · exact Or.inr (.report one)
      · exact ih further
  | answer answer one ih =>
      rcases Course.ask_iff.mp other with ⟨none, -⟩ | ⟨given, rest, split, further⟩
      · simp at none
      · simp only [List.cons.injEq, Reply.mk.injEq, heq_eq_eq, true_and] at split
        obtain ⟨rfl, rfl⟩ := split
        exact ih further

theorem Course.ask_unique {question other : Question}
    {resume : question.Answer → Procedure Result} {onward : other.Answer → Procedure Result}
    (here : Course procedure replies (.ask question resume))
    (there : Course procedure replies (.ask other onward)) : question = other := by
  have same {first second : Question} {next : first.Answer → Procedure Result}
      {last : second.Answer → Procedure Result}
      (course : Course (.ask first next) [] (.ask second last)) : second = first := by
    rcases Course.ask_to_ask.mp course with ⟨-, same⟩ | ⟨_, _, split, -⟩
    · exact (Procedure.ask.inj same).1
    · simp at split
  rcases here.linear there with course | course
  · exact (same course).symm
  · exact same course

/-- A procedure that has ended puts no further question. -/
theorem Course.not_ask_of_done {question : Question} {result : Result}
    {resume : question.Answer → Procedure Result}
    (ended : Course procedure replies (.done result)) :
    ¬ Course procedure replies (.ask question resume) := by
  intro asks
  rcases ended.linear asks with course | course <;> simp at course

theorem Course.asks (course : Course procedure replies point) :
    Asks procedure replies (replies.map (·.question)) := by
  induction course with
  | here point => exact .here point
  | report _ ih => exact .report ih
  | answer answer _ ih => exact .answer answer ih

theorem Course.asks_next {question : Question} {resume : question.Answer → Procedure Result}
    (course : Course procedure replies (.ask question resume)) :
    Asks procedure replies (replies.map (·.question) ++ [question]) := by
  generalize same : Procedure.ask question resume = point at course
  induction course with
  | here point => exact same ▸ .waiting question resume
  | report _ ih => exact .report (ih same)
  | answer answer _ ih => exact .answer answer (ih same)

end Asks

namespace Asks

variable {replies : List Reply} {questions : List Question}

@[simp]
theorem done_iff {result : Result} :
    Asks (.done result) replies questions ↔ replies = [] ∧ questions = [] := by
  constructor
  · rintro ⟨⟩
    exact ⟨rfl, rfl⟩
  · rintro ⟨rfl, rfl⟩
    exact .here _

@[simp]
theorem report_iff {entry : Journal.Entry} {rest : Procedure Result} :
    Asks (.report entry rest) replies questions ↔ Asks rest replies questions := by
  constructor
  · rintro (_ | _ | further)
    · exact .here rest
    · exact further
  · exact .report

@[simp]
theorem reportAll_iff {entries : List Journal.Entry} {rest : Procedure Result} :
    Asks (reportAll entries rest) replies questions ↔ Asks rest replies questions := by
  induction entries with
  | nil => rfl
  | cons entry entries ih => rw [reportAll, report_iff, ih]

/-- Nothing is answered yet. -/
@[simp]
theorem ask_nil_iff {question : Question} {resume : question.Answer → Procedure Result} :
    Asks (.ask question resume) [] questions ↔ questions = [] ∨ questions = [question] := by
  constructor
  · rintro (_ | _)
    · exact Or.inl rfl
    · exact Or.inr rfl
  · rintro (rfl | rfl)
    · exact .here _
    · exact .waiting question resume

/-- The first answer is to the first question. -/
theorem ask_cons_iff {question : Question} {resume : question.Answer → Procedure Result}
    {reply : Reply} :
    Asks (.ask question resume) (reply :: replies) questions ↔
      ∃ answer further, reply = ⟨question, answer⟩ ∧ questions = question :: further ∧
        Asks (resume answer) replies further := by
  constructor
  · rintro (_ | _ | _ | ⟨answer, further⟩)
    exact ⟨answer, _, rfl, rfl, further⟩
  · rintro ⟨answer, further, rfl, rfl, onward⟩
    exact .answer answer onward

@[simp]
theorem ask_answer_iff {question : Question} {resume : question.Answer → Procedure Result}
    {answer : question.Answer} :
    Asks (.ask question resume) (⟨question, answer⟩ :: replies) questions ↔
      ∃ further, questions = question :: further ∧ Asks (resume answer) replies further := by
  constructor
  · rintro (_ | _ | _ | ⟨_, further⟩)
    exact ⟨_, rfl, further⟩
  · rintro ⟨further, rfl, onward⟩
    exact .answer answer onward

theorem of_silent {procedure : Procedure Result} (asks : Asks procedure replies questions)
    (silent : AsksOnly (fun _ => False) procedure) : replies = [] ∧ questions = [] := by
  induction asks with
  | here => exact ⟨rfl, rfl⟩
  | waiting => exact silent.1.elim
  | report _ ih => exact ih silent
  | answer => exact silent.1.elim

/-- What was answered was asked. -/
theorem answered {procedure : Procedure Result} (asks : Asks procedure replies questions) :
    replies.map (·.question) <+: questions := by
  induction asks with
  | here => exact List.nil_prefix
  | waiting => exact List.nil_prefix
  | report _ ih => exact ih
  | answer answer _ ih => simpa using ih

/-- What follows a procedure and asks nothing may be left out. -/
theorem of_bind {Next : Type} {procedure : Procedure Result} {next : Result → Procedure Next}
    (asks : Asks (procedure.bind next) replies questions)
    (silent : ∀ result, AsksOnly (fun _ => False) (next result)) :
    Asks procedure replies questions := by
  induction procedure generalizing replies questions with
  | done result =>
      obtain ⟨rfl, rfl⟩ := asks.of_silent (silent result)
      exact .here _
  | report entry rest ih => exact .report (ih (report_iff.mp asks))
  | ask question resume ih =>
      cases replies with
      | nil => exact ask_nil_iff.mpr (ask_nil_iff.mp asks)
      | cons reply replies =>
          obtain ⟨answer, further, rfl, rfl, onward⟩ := ask_cons_iff.mp asks
          exact .answer answer (ih answer onward)

end Asks

/-- What follows a procedure and asks nothing does not matter for its end. -/
theorem Course.of_bind {Next : Type} {procedure : Procedure Result}
    {next : Result → Procedure Next} {replies : List Reply} {last : Next}
    (course : Course (procedure.bind next) replies (.done last))
    (silent : ∀ result, AsksOnly (fun _ => False) (next result)) :
    ∃ result, Course procedure replies (.done result) := by
  obtain ⟨first, second, result, rfl, within, after⟩ := Course.bind_to_done.mp course
  obtain ⟨rfl, -⟩ := after.asks.of_silent (silent result)
  exact ⟨result, by simpa using within⟩

/-- Whatever was asked was allowed. -/
theorem AsksOnly.asks {allowed : Question → Prop} {procedure : Procedure Result}
    {replies : List Reply} {questions : List Question} (only : AsksOnly allowed procedure)
    (asks : Asks procedure replies questions) : ∀ question ∈ questions, allowed question := by
  induction asks with
  | here => simp
  | waiting question resume => simpa using only.1
  | report _ ih => exact ih only
  | answer answer _ ih => simpa using ⟨only.1, ih (only.2 answer)⟩

/-- Two procedures that ask the same as long as they are answered the same, and on
free questions whatever they are answered; where both end, the results match. -/
inductive InStep {One Other : Type} (free : Question → Prop) (matching : One → Other → Prop) :
    Procedure One → Procedure Other → Prop where
  | done {one : One} {other : Other} (matched : matching one other) :
      InStep free matching (.done one) (.done other)
  | reportLeft {entry : Journal.Entry} {rest : Procedure One} {second : Procedure Other} :
      InStep free matching rest second → InStep free matching (.report entry rest) second
  | reportRight {entry : Journal.Entry} {first : Procedure One} {rest : Procedure Other} :
      InStep free matching first rest → InStep free matching first (.report entry rest)
  | ask {question : Question} {resume : question.Answer → Procedure One}
      {onward : question.Answer → Procedure Other}
      (same : ∀ answer, InStep free matching (resume answer) (onward answer))
      (either : free question →
        ∀ answer given, InStep free matching (resume answer) (onward given)) :
      InStep free matching (.ask question resume) (.ask question onward)

namespace InStep

variable {One Other Next Last : Type} {free : Question → Prop} {matching : One → Other → Prop}
  {first : Procedure One} {second : Procedure Other}

/-- A procedure with no free question is in step with itself. -/
theorem refl {procedure : Procedure Result}
    (only : AsksOnly (fun question => ¬ free question) procedure) :
    InStep free Eq procedure procedure := by
  induction procedure with
  | done result => exact .done rfl
  | report entry rest ih => exact .reportLeft (.reportRight (ih only))
  | ask question resume ih =>
      exact .ask (fun answer => ih answer (only.2 answer)) fun open_ => absurd open_ only.1

/-- Whatever the question is answered. -/
theorem ofEither {question : Question} {resume : question.Answer → Procedure One}
    {onward : question.Answer → Procedure Other}
    (either : ∀ answer given, InStep free matching (resume answer) (onward given)) :
    InStep free matching (.ask question resume) (.ask question onward) :=
  .ask (fun answer => either answer answer) fun _ => either

theorem bind {agreed : Next → Last → Prop} {next : One → Procedure Next}
    {last : Other → Procedure Last} (inStep : InStep free matching first second)
    (onward : ∀ one other, matching one other → InStep free agreed (next one) (last other)) :
    InStep free agreed (first.bind next) (second.bind last) := by
  induction inStep with
  | done matched => exact onward _ _ matched
  | reportLeft _ ih => exact .reportLeft ih
  | reportRight _ ih => exact .reportRight ih
  | ask _ _ same either =>
      exact .ask (fun answer => same answer) fun open_ answer given => either open_ answer given

theorem mono {wider : One → Other → Prop} (inStep : InStep free matching first second)
    (within : ∀ one other, matching one other → wider one other) :
    InStep free wider first second := by
  induction inStep with
  | done matched => exact .done (within _ _ matched)
  | reportLeft _ ih => exact .reportLeft ih
  | reportRight _ ih => exact .reportRight ih
  | ask _ _ same either => exact .ask same either

/-- Two procedures in step, answered in agreement, put the same questions as far as
both have come. -/
theorem comparable {replies others : List Reply} {questions further : List Question}
    (inStep : InStep free matching first second) (one : Asks first replies questions)
    (other : Asks second others further) (agree : Agree free replies others) :
    questions <+: further ∨ further <+: questions := by
  induction inStep generalizing replies others questions further with
  | done =>
      cases one
      exact Or.inl List.nil_prefix
  | reportLeft _ ih =>
      cases one with
      | here => exact Or.inl List.nil_prefix
      | report one => exact ih one other agree
  | reportRight _ ih =>
      cases other with
      | here => exact Or.inr List.nil_prefix
      | report other => exact ih one other agree
  | ask same either ihSame ihEither =>
      cases one with
      | here => exact Or.inl List.nil_prefix
      | waiting =>
          cases other with
          | here => exact Or.inr List.nil_prefix
          | waiting => exact Or.inl (List.prefix_refl _)
          | answer given other => exact Or.inl (by simp)
      | answer answer one =>
          cases other with
          | here => exact Or.inr List.nil_prefix
          | waiting => exact Or.inr (by simp)
          | answer given other =>
              obtain ⟨alike, later⟩ := agree.uncons
              simp only [List.cons_prefix_cons, true_and]
              rcases alike with rfl | open_
              · exact ihSame answer one other later
              · exact ihEither open_ answer given one other later

/-- Where both end, they have asked the same. -/
theorem ended {replies others : List Reply} {one : One} {other : Other}
    (inStep : InStep free matching first second) (here : Course first replies (.done one))
    (there : Course second others (.done other)) (agree : Agree free replies others) :
    replies.map (·.question) = others.map (·.question) ∧ matching one other := by
  induction inStep generalizing replies others with
  | done matched =>
      simp only [Course.done_iff, Procedure.done.injEq] at here there
      obtain ⟨rfl, rfl⟩ := here
      obtain ⟨rfl, rfl⟩ := there
      exact ⟨rfl, matched⟩
  | reportLeft _ ih => exact ih (Course.report_to_done.mp here) there agree
  | reportRight _ ih => exact ih here (Course.report_to_done.mp there) agree
  | ask same either ihSame ihEither =>
      obtain ⟨answer, rest, rfl, onward⟩ := Course.ask_to_done.mp here
      obtain ⟨given, more, rfl, further⟩ := Course.ask_to_done.mp there
      obtain ⟨alike, later⟩ := agree.uncons
      simp only [List.map_cons, List.cons.injEq, true_and]
      rcases alike with rfl | open_
      · exact ihSame answer onward further later
      · exact ihEither open_ answer given onward further later

end InStep

end Procedure

end UnattendedRefresh
