import UnattendedRefresh.Proofs.Dispatch.Conclusions

/-!
# One refresh from beginning to end

What the store, the issuer of credentials and the executor answer decides the calls of a
refresh and its outcome. Each call is made at most once, and only if everything before it
went well; the outcome names the stage that failed, or counts every site that was loaded.
As no question comes twice, the answers may be given beforehand, one for each question.
-/

namespace UnattendedRefresh

namespace Procedure

variable {Result : Type} {answer : (question : Question) → question.Answer}

/-- The replies to a procedure that is answered in this way, and its result. -/
def run (answer : (question : Question) → question.Answer) :
    Procedure Result → List Reply × Result
  | .done result => ([], result)
  | .report _ rest => run answer rest
  | .ask question resume =>
    let (replies, result) := run answer (resume (answer question))
    (⟨question, answer question⟩ :: replies, result)

theorem course_run (answer : (question : Question) → question.Answer)
    (procedure : Procedure Result) :
    Course procedure (procedure.run answer).1 (.done (procedure.run answer).2) := by
  induction procedure with
  | done result => exact .here _
  | report entry rest ih => exact .report ih
  | ask question resume ih => exact .answer _ (ih (answer question))

theorem answer_of_mem_run {procedure : Procedure Result} {reply : Reply}
    (member : reply ∈ (procedure.run answer).1) : reply.answer = answer reply.question := by
  induction procedure with
  | done result => cases member
  | report entry rest ih => exact ih member
  | ask question resume ih =>
      rcases List.mem_cons.mp member with rfl | member
      · rfl
      · exact ih (answer question) member

end Procedure

namespace Dispatch

variable {gate : Gate} {user : User} {force : Bool} {settings : Settings}
  {answer : (question : Question) → question.Answer} {replies : List Reply}
  {outcome : Except DispatchFault DispatchOutcome}

/-- The sites of the user that were loaded, none if they could not be. -/
def loaded (user : User) (answer : (question : Question) → question.Answer) : List UserSite :=
  match answer (.sites user.id) with
  | .ok sites => sites
  | .error _ => []

/-- Those of them that are eligible at the instant the clock shows, in their order. -/
def left (gate : Gate) (user : User) (force : Bool) (settings : Settings)
    (answer : (question : Question) → question.Answer) : List UserSite :=
  (loaded user answer).filter fun site =>
    (Assessment.mk settings gate user.oneOff force (answer .clock)).evaluate site = .eligible

/-- What is asked of the others, in turn. -/
def calls (gate : Gate) (user : User) (force : Bool) (settings : Settings)
    (answer : (question : Question) → question.Answer) : List Question :=
  let eligible := left gate user force settings answer
  if eligible = [] then
    [.sites user.id]
  else
    .sites user.id :: .credential user.tenantId user.id ::
      match answer (.credential user.tenantId user.id) with
      | .error _ => []
      | .ok credential =>
        [.refresh ⟨user.id, eligible, user.oneOff, credential, Origin.ofForce force⟩]

/-- The calls of a refresh and its outcome, by what was answered. -/
structure Settled (gate : Gate) (user : User) (force : Bool) (settings : Settings)
    (answer : (question : Question) → question.Answer) (asked : List Question)
    (outcome : Except DispatchFault DispatchOutcome) : Prop where
  calls_eq : asked.filter (· ≠ .clock) = calls gate user force settings answer
  nodup : asked.Nodup
  unloaded_iff : ∀ userId source, outcome = .error (.loadUserSites userId source) ↔
    user.id = userId ∧ answer (.sites user.id) = .error source
  unissued_iff : ∀ userId source, outcome = .error (.issueCredential userId source) ↔
    user.id = userId ∧ left gate user force settings answer ≠ [] ∧
      answer (.credential user.tenantId user.id) = .error source
  refused_iff : ∀ userId count source, outcome = .error (.refresh userId count source) ↔
    user.id = userId ∧ (left gate user force settings answer).length = count ∧
      left gate user force settings answer ≠ [] ∧
      ∃ credential, answer (.credential user.tenantId user.id) = .ok credential ∧
        answer (.refresh ⟨user.id, left gate user force settings answer, user.oneOff, credential,
          Origin.ofForce force⟩) = .error source
  noUserSites_iff : outcome = .ok .noUserSites ↔ answer (.sites user.id) = .ok []
  nothingEligible_iff : ∀ excluded, outcome = .ok (.nothingEligible excluded) ↔
    (loaded user answer).length = excluded ∧ loaded user answer ≠ [] ∧
      left gate user force settings answer = []
  dispatched_iff : ∀ refreshed excluded, outcome = .ok (.dispatched refreshed excluded) ↔
    (left gate user force settings answer).length = refreshed ∧
      (loaded user answer).length - (left gate user force settings answer).length = excluded ∧
      left gate user force settings answer ≠ [] ∧
      ∃ credential, answer (.credential user.tenantId user.id) = .ok credential ∧
        answer (.refresh ⟨user.id, left gate user force settings answer, user.oneOff, credential,
          Origin.ofForce force⟩) = .ok ()
  counted : ∀ refreshed excluded, outcome = .ok (.dispatched refreshed excluded) →
    1 ≤ refreshed ∧ refreshed + excluded = (loaded user answer).length

section Stages

variable {sites eligible : List UserSite} {source : Failure}

theorem loaded_of_ok (load : answer (.sites user.id) = .ok sites) : loaded user answer = sites := by
  rw [loaded, load]

theorem loaded_of_error (load : answer (.sites user.id) = .error source) :
    loaded user answer = [] := by
  rw [loaded, load]

theorem left_of_nil (gate : Gate) (force : Bool) (settings : Settings)
    (none : loaded user answer = []) : left gate user force settings answer = [] := by
  rw [left, none, List.filter_nil]

theorem left_of_ok {now : Instant} (load : answer (.sites user.id) = .ok sites)
    (clock : answer .clock = now)
    (judged : (Assessment.mk settings gate user.oneOff force now).eligibleSites sites = eligible) :
    left gate user force settings answer = eligible := by
  rw [left, loaded_of_ok load, clock, ← judged]
  rfl

theorem ne_nil_of_left_ne_nil (some : left gate user force settings answer ≠ [])
    (whole : loaded user answer = sites) : sites ≠ [] :=
  fun empty => some (left_of_nil _ _ _ (whole.trans empty))

theorem length_left_le (gate : Gate) (user : User) (force : Bool) (settings : Settings)
    (answer : (question : Question) → question.Answer) :
    (left gate user force settings answer).length ≤ (loaded user answer).length :=
  List.length_filter_le _ _

end Stages

theorem settled_of_concluded (concluded : Concluded gate user force settings replies outcome)
    (given : ∀ reply ∈ replies, reply.answer = answer reply.question) :
    Settled gate user force settings answer (replies.map (·.question)) outcome := by
  have answered {question : Question} {reply : question.Answer}
      (member : ⟨question, reply⟩ ∈ replies) : answer question = reply :=
    (given ⟨question, reply⟩ member).symm
  have fewer := length_left_le gate user force settings answer
  -- The way it ended lists the answers it came by, and they decide every field.
  cases concluded with
  | unloaded source =>
      have load : answer (.sites user.id) = .error source := answered (by simp)
      have whole := loaded_of_error load
      have none := left_of_nil gate force settings whole
      constructor <;> simp [calls, whole, none, load]
  | noSites =>
      have load : answer (.sites user.id) = .ok [] := answered (by simp)
      have whole := loaded_of_ok load
      have none := left_of_nil gate force settings whole
      constructor <;> simp [calls, whole, none, load]
  | @noneLeft sites now nonempty judged =>
      have load : answer (.sites user.id) = .ok sites := answered (by simp)
      have whole := loaded_of_ok load
      have none := left_of_ok load (answered (by simp)) judged
      constructor <;> simp [calls, whole, none, load, nonempty]
  | @unissued sites eligible now judged some source =>
      have load : answer (.sites user.id) = .ok sites := answered (by simp)
      have issue : answer (.credential user.tenantId user.id) = .error source :=
        answered (by simp)
      have whole := loaded_of_ok load
      obtain rfl := left_of_ok load (answered (by simp)) judged
      have nonempty := ne_nil_of_left_ne_nil some whole
      constructor <;> simp [calls, whole, nonempty, some, load, issue]
  | @refused sites eligible now judged some credential source =>
      have load : answer (.sites user.id) = .ok sites := answered (by simp)
      have issue : answer (.credential user.tenantId user.id) = .ok credential :=
        answered (by simp)
      have whole := loaded_of_ok load
      obtain rfl := left_of_ok load (answered (by simp)) judged
      have refresh : answer (.refresh ⟨user.id, left gate user force settings answer,
          user.oneOff, credential, Origin.ofForce force⟩) = .error source := answered (by simp)
      have nonempty := ne_nil_of_left_ne_nil some whole
      constructor <;> simp [calls, whole, nonempty, some, load, issue, refresh]
  | @dispatched sites eligible now judged some credential =>
      have load : answer (.sites user.id) = .ok sites := answered (by simp)
      have issue : answer (.credential user.tenantId user.id) = .ok credential :=
        answered (by simp)
      have whole := loaded_of_ok load
      obtain rfl := left_of_ok load (answered (by simp)) judged
      have refresh : answer (.refresh ⟨user.id, left gate user force settings answer,
          user.oneOff, credential, Origin.ofForce force⟩) = .ok () := answered (by simp)
      have nonempty := ne_nil_of_left_ne_nil some whole
      have positive := List.length_pos_iff.mpr some
      rw [whole] at fewer
      constructor
      case counted => simp [whole]; omega
      all_goals simp [calls, whole, nonempty, some, load, issue, refresh]

/-- Whatever is answered, a refresh makes the calls it should and ends as it should. -/
theorem refreshUser_settled (gate : Gate) (user : User) (force : Bool) (settings : Settings)
    (answer : (question : Question) → question.Answer) :
    Settled gate user force settings answer
      (((refreshUser gate user force settings).run answer).1.map (·.question))
      ((refreshUser gate user force settings).run answer).2 :=
  settled_of_concluded (refreshUser_to_done (Procedure.course_run answer _)) fun _ =>
    Procedure.answer_of_mem_run

end Dispatch

end UnattendedRefresh
