import UnattendedRefresh.Proofs.Procedure.Course

/-!
# What a procedure writes

The counterpart of what a procedure asks: a bound on the entries that it writes,
whatever it is answered, is carried through the steps of the procedure and holds
wherever a course comes to an entry.
-/

namespace UnattendedRefresh

namespace Procedure

variable {Result Next : Type} {allowed : Journal.Entry → Prop} {procedure : Procedure Result}

/-- Whatever it is answered, the procedure writes no other entries than these. -/
def WritesOnly (allowed : Journal.Entry → Prop) : Procedure Result → Prop
  | .done _ => True
  | .report entry rest => allowed entry ∧ WritesOnly allowed rest
  | .ask _ resume => ∀ answer, WritesOnly allowed (resume answer)

theorem WritesOnly.ask {question : Question} {next : question.Answer → Procedure Result}
    (onward : ∀ answer, WritesOnly allowed (next answer)) :
    WritesOnly allowed (Procedure.question question >>= next) :=
  onward

theorem WritesOnly.note {level : Journal.Level} {message : String}
    (fits : allowed (Journal.note level message)) :
    WritesOnly allowed (Procedure.note level message) :=
  ⟨fits, trivial⟩

theorem WritesOnly.bind {next : Result → Procedure Next} (first : WritesOnly allowed procedure)
    (second : ∀ result, WritesOnly allowed (next result)) :
    WritesOnly allowed (procedure.bind next) := by
  induction procedure with
  | done result => exact second result
  | report entry rest ih => exact ⟨first.1, ih first.2⟩
  | ask question resume ih =>
      intro answer
      exact ih answer (first answer)

theorem WritesOnly.reportAll {entries : List Journal.Entry}
    (fit : ∀ entry ∈ entries, allowed entry) (only : WritesOnly allowed procedure) :
    WritesOnly allowed (reportAll entries procedure) := by
  induction entries with
  | nil => exact only
  | cons entry entries ih =>
      have rest := ih fun later member => fit later (List.mem_cons_of_mem _ member)
      exact ⟨fit entry List.mem_cons_self, rest⟩

/-- The bound goes along with a course. -/
theorem WritesOnly.onward {replies : List Reply} {point : Procedure Result}
    (only : WritesOnly allowed procedure) (course : Course procedure replies point) :
    WritesOnly allowed point := by
  induction course with
  | here => exact only
  | report _ ih => exact ih only.2
  | answer answer _ ih => exact ih (only answer)

end Procedure

end UnattendedRefresh
