import UnattendedRefresh.Proofs.Procedure.Answers

/-!
# Procedures that look the same

Two procedures may be answered differently and still look the same to those whom they
ask. Which answers make no difference, and what of a question is seen, is given from
outside; from that it follows that what is seen of the one is what is seen of the
other, as far as both have come.
-/

namespace UnattendedRefresh

theorem Question.nonempty_answer (question : Question) : Nonempty question.Answer := by
  cases question with
  | snapshot => exact ⟨Settings.default⟩
  | clock => exact ⟨(default : Instant)⟩
  | enqueue => exact ⟨.ok ()⟩
  | _ => exact ⟨.error ""⟩

namespace Procedure

section Further

variable {Result : Type} {procedure : Procedure Result} {replies : List Reply}
  {questions : List Question}

/-- However far a procedure has come, there is an end that it can come to. -/
theorem Asks.exists_end (asks : Asks procedure replies questions) :
    ∃ more result, Course procedure (replies ++ more) (.done result) ∧
      questions <+: (replies ++ more).map (·.question) := by
  have ending (procedure : Procedure Result) :
      ∃ more result, Course procedure more (.done result) := by
    obtain ⟨more, result, course, -⟩ :=
      exists_course (fun _ question => Classical.choice question.nonempty_answer) procedure
    exact ⟨more, result, course⟩
  induction asks with
  | here procedure =>
      obtain ⟨more, result, course⟩ := ending procedure
      exact ⟨more, result, course, List.nil_prefix⟩
  | waiting question resume =>
      obtain ⟨answer⟩ := question.nonempty_answer
      obtain ⟨more, result, course⟩ := ending (resume answer)
      exact ⟨⟨question, answer⟩ :: more, result, .answer answer course, by simp⟩
  | report _ ih =>
      obtain ⟨more, result, course, within⟩ := ih
      exact ⟨more, result, .report course, within⟩
  | answer answer _ ih =>
      obtain ⟨more, result, course, within⟩ := ih
      exact ⟨more, result, .answer answer course, by simpa using within⟩

/-- Whatever it has asked, there the procedure once stood. -/
theorem Asks.exists_course {question : Question} (asks : Asks procedure replies questions)
    (member : question ∈ questions) :
    ∃ before resume, before <+: replies ∧ Course procedure before (.ask question resume) := by
  induction asks with
  | here => cases member
  | waiting asked resume =>
      obtain rfl := List.mem_singleton.mp member
      exact ⟨[], resume, List.nil_prefix, .here _⟩
  | report _ ih =>
      obtain ⟨before, resume, within, course⟩ := ih member
      exact ⟨before, resume, within, .report course⟩
  | @answer asked resume _ _ answer _ ih =>
      rcases List.mem_cons.mp member with rfl | later
      · exact ⟨[], resume, List.nil_prefix, .here _⟩
      · obtain ⟨before, onward, within, course⟩ := ih later
        exact ⟨⟨asked, answer⟩ :: before, onward, by simpa using within, .answer answer course⟩

end Further

/-- Any two of the answers are alike. -/
def AllAlike (alike : Reply → Reply → Prop) (replies others : List Reply) : Prop :=
  ∀ reply ∈ replies, ∀ other ∈ others, alike reply other

/-- Fewer answers are alike as well. -/
theorem AllAlike.mono {alike : Reply → Reply → Prop} {replies others fewer less : List Reply}
    (all : AllAlike alike replies others) (within : fewer ⊆ replies) (within' : less ⊆ others) :
    AllAlike alike fewer less :=
  fun reply member other member' => all reply (within member) other (within' member')

theorem AllAlike.uncons {alike : Reply → Reply → Prop} {reply other : Reply}
    {replies others : List Reply} (all : AllAlike alike (reply :: replies) (other :: others)) :
    alike reply other ∧ AllAlike alike replies others :=
  ⟨all reply List.mem_cons_self other List.mem_cons_self,
    all.mono (List.subset_cons_self _ _) (List.subset_cons_self _ _)⟩

variable {One Other Next Last Look : Type} {look : Question → Option Look}
  {alike : Reply → Reply → Prop}

/-- Two procedures that ask what looks the same, as long as the answers are alike. -/
inductive Parallel (look : Question → Option Look) (alike : Reply → Reply → Prop) :
    Procedure One → Procedure Other → Prop where
  | done (one : One) (other : Other) : Parallel look alike (.done one) (.done other)
  | reportLeft {entry : Journal.Entry} {rest : Procedure One} {second : Procedure Other} :
      Parallel look alike rest second → Parallel look alike (.report entry rest) second
  | reportRight {entry : Journal.Entry} {first : Procedure One} {rest : Procedure Other} :
      Parallel look alike first rest → Parallel look alike first (.report entry rest)
  | ask {question other : Question} {resume : question.Answer → Procedure One}
      {onward : other.Answer → Procedure Other} (same : look question = look other)
      (further : ∀ answer given, alike ⟨question, answer⟩ ⟨other, given⟩ →
        Parallel look alike (resume answer) (onward given)) :
      Parallel look alike (.ask question resume) (.ask other onward)

namespace Parallel

variable {first : Procedure One} {second : Procedure Other}

theorem of_silent (silent : AsksOnly (fun _ => False) first)
    (quiet : AsksOnly (fun _ => False) second) : Parallel look alike first second := by
  induction first with
  | done one =>
      induction second with
      | done other => exact .done one other
      | report entry rest ih => exact .reportRight (ih quiet)
      | ask => exact quiet.1.elim
  | report entry rest ih => exact .reportLeft (ih silent)
  | ask => exact silent.1.elim

theorem reportAll {entries more : List Journal.Entry}
    (parallel : Parallel look alike first second) :
    Parallel look alike (reportAll entries first) (Procedure.reportAll more second) := by
  induction entries with
  | nil =>
      induction more with
      | nil => exact parallel
      | cons entry more ih => exact .reportRight ih
  | cons entry entries ih => exact .reportLeft ih

theorem bind {next : One → Procedure Next} {last : Other → Procedure Last}
    (parallel : Parallel look alike first second)
    (onward : ∀ one other, Parallel look alike (next one) (last other)) :
    Parallel look alike (first.bind next) (second.bind last) := by
  induction parallel with
  | done one other => exact onward one other
  | reportLeft _ ih => exact .reportLeft ih
  | reportRight _ ih => exact .reportRight ih
  | ask same _ ih => exact .ask same ih

/-- One question more is seen on both sides, or on neither. -/
theorem seen_cons {question other : Question} (same : look question = look other)
    {questions further : List Question} :
    (question :: questions).filterMap look <+: (other :: further).filterMap look ↔
      questions.filterMap look <+: further.filterMap look := by
  cases seen : look question with
  | none => simp [seen, same ▸ seen]
  | some shown => simp [seen, same ▸ seen]

/-- What is seen of two parallel procedures is the same as far as both have come. -/
theorem comparable {replies others : List Reply} {questions further : List Question}
    (parallel : Parallel look alike first second) (one : Asks first replies questions)
    (other : Asks second others further) (all : AllAlike alike replies others) :
    questions.filterMap look <+: further.filterMap look ∨
      further.filterMap look <+: questions.filterMap look := by
  induction parallel generalizing replies others questions further with
  | done =>
      cases one
      exact Or.inl List.nil_prefix
  | reportLeft _ ih =>
      cases one with
      | here => exact Or.inl List.nil_prefix
      | report one => exact ih one other all
  | reportRight _ ih =>
      cases other with
      | here => exact Or.inr List.nil_prefix
      | report other => exact ih one other all
  | ask same _ ih =>
      cases one with
      | here => exact Or.inl List.nil_prefix
      | waiting =>
          cases other with
          | here => exact Or.inr List.nil_prefix
          | waiting => exact Or.inl ((seen_cons same).mpr List.nil_prefix)
          | answer given other => exact Or.inl ((seen_cons same).mpr List.nil_prefix)
      | answer answer one =>
          cases other with
          | here => exact Or.inr List.nil_prefix
          | waiting => exact Or.inr ((seen_cons same.symm).mpr List.nil_prefix)
          | answer given other =>
              obtain ⟨like, rest⟩ := all.uncons
              rw [seen_cons same, seen_cons same.symm]
              exact ih answer given like one other rest

/-- Where both have ended, the same was seen of them. -/
theorem ended {replies others : List Reply} {one : One} {other : Other}
    (parallel : Parallel look alike first second) (here : Course first replies (.done one))
    (there : Course second others (.done other)) (all : AllAlike alike replies others) :
    (replies.map (·.question)).filterMap look = (others.map (·.question)).filterMap look := by
  induction parallel generalizing replies others with
  | done =>
      obtain ⟨rfl, -⟩ := Course.done_iff.mp here
      obtain ⟨rfl, -⟩ := Course.done_iff.mp there
      rfl
  | reportLeft _ ih => exact ih (Course.report_to_done.mp here) there all
  | reportRight _ ih => exact ih here (Course.report_to_done.mp there) all
  | @ask question asked resume onward same _ ih =>
      obtain ⟨answer, rest, rfl, within⟩ := Course.ask_to_done.mp here
      obtain ⟨given, more, rfl, beyond⟩ := Course.ask_to_done.mp there
      obtain ⟨like, later⟩ := all.uncons
      have equal := ih answer given like within beyond later
      simp only [List.map_cons, List.filterMap_cons, same, equal]

end Parallel

end Procedure

end UnattendedRefresh
