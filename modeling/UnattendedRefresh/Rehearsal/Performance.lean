import UnattendedRefresh.Rehearsal.Stage

/-!
# One procedure against a stage

A single procedure run from beginning to end, with every call answered at once.
-/

namespace UnattendedRefresh.Rehearsal

structure Performance (Result : Type) where
  calls : List Question
  entries : List Journal.Entry
  /-- What the procedure came to, unless a call broke it off. -/
  result : Option Result

def perform {Result : Type} (stage : Stage) : Procedure Result → Performance Result
  | .done result => ⟨[], [], some result⟩
  | .report entry rest =>
    let later := perform stage rest
    { later with entries := entry :: later.entries }
  | .ask question resume =>
    match stage.respondNow question with
    | .answer value =>
      let later := perform stage (resume value)
      { later with calls := question :: later.calls }
    | _ => ⟨[question], [], none⟩

end UnattendedRefresh.Rehearsal
