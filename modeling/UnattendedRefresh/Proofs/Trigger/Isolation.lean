import UnattendedRefresh.Proofs.Dispatch.Verdicts
import UnattendedRefresh.Proofs.MinutePass.InStep
import UnattendedRefresh.Proofs.Trigger.Calls
import UnattendedRefresh.Proofs.Trigger.Errands
import UnattendedRefresh.Proofs.Trigger.Snapshots

/-!
# Snapshot isolation

A pass and a forced refresh take one snapshot of the settings, and the refreshes that a
pass queues carry its snapshot however late they run. What such a task decides goes by
that snapshot alone: replacements in between are not seen, and two runs in which the
task is answered alike call the collaborators for the same.
-/

namespace UnattendedRefresh

open Procedure

section Opening

variable {Result : Type} {rest : Settings → Procedure Result} {answers : List Reply}
  {questions : List Question}

/-- A procedure that begins with a snapshot calls nobody before it has got one. -/
theorem Procedure.Asks.of_snapshot (asks : Asks (.ask .snapshot rest) answers questions) :
    (answers = [] ∧ externals questions = []) ∨
      ∃ snapshot replies further, answers = ⟨.snapshot, snapshot⟩ :: replies ∧
        questions = .snapshot :: further ∧ Asks (rest snapshot) replies further := by
  cases answers with
  | nil =>
      refine Or.inl ⟨rfl, ?_⟩
      rcases Asks.ask_nil_iff.mp asks with rfl | rfl <;> rfl
  | cons reply replies =>
      obtain ⟨snapshot, further, rfl, rfl, onward⟩ := Asks.ask_cons_iff.mp asks
      exact Or.inr ⟨snapshot, replies, further, rfl, rfl, onward⟩

/-- Nor does it come to its end before. -/
theorem Procedure.Course.answered_of_snapshot {result : Result}
    (course : Course (.ask .snapshot rest) answers (.done result)) : answers ≠ [] := by
  obtain ⟨snapshot, replies, rfl, -⟩ := Course.ask_to_done.mp course
  exact List.cons_ne_nil _ _

end Opening

theorem externals_of_isOfRefresh {questions : List Question}
    (only : ∀ question ∈ questions, question.IsOfRefresh) : externals questions = questions := by
  rw [externals, List.filter_eq_self]
  intro question member
  have fits := only question member
  cases question <;> first | rfl | exact fits.elim

/-- What a pass asks, whom it calls and how it ends, by the snapshot. -/
structure MinutePass.GoesBy (minute : MinuteOfDay) (snapshot : Settings) (replies : List Reply)
    (calls : List Question) (endings : List (Option Outcome)) : Prop where
  within : ∀ reply ∈ replies, Decides minute snapshot reply.question
  called : ∀ question ∈ calls, Decides minute snapshot question
  ended : ∀ outcome, some (.pass outcome) ∈ endings → Conduct minute snapshot outcome replies

/-- What a refresh asks, whom it calls and how it ends, by the snapshot. -/
structure RefreshJob.GoesBy (gate : Gate) (snapshot : Settings) (force : Bool) (asked : UserId)
    (replies : List Reply) (calls : List Question) (endings : List (Option Outcome)) : Prop where
  within : ∀ reply ∈ replies, reply.question.IsOfRefresh
  called : Judged gate snapshot force asked replies calls
  ended : ∀ outcome, some outcome ∈ endings → Served gate snapshot force asked replies

namespace Errand

variable {gate : Gate} {minute : MinuteOfDay} {answers : List Reply} {questions : List Question}

theorem pass_asks (asks : Asks ((pass minute).procedure gate) answers questions) :
    (answers = [] ∧ externals questions = []) ∨
      ∃ snapshot replies further, answers = ⟨.snapshot, snapshot⟩ :: replies ∧
        questions = .snapshot :: further ∧
        ∀ question ∈ further, MinutePass.Decides minute snapshot question := by
  obtain ⟨rest, same, decided⟩ := MinutePass.run_asksOnly minute
  have within : Asks (MinutePass.run minute) answers questions := asks.of_bind fun _ => trivial
  rw [same] at within
  rcases within.of_snapshot with early | ⟨snapshot, replies, further, rfl, rfl, onward⟩
  · exact Or.inl early
  · exact Or.inr ⟨snapshot, replies, further, rfl, rfl, (decided snapshot).asks onward⟩

theorem forced_asks {userId : UserId}
    (asks : Asks ((forced userId).procedure gate) answers questions) :
    (answers = [] ∧ externals questions = []) ∨
      ∃ snapshot replies further, answers = ⟨.snapshot, snapshot⟩ :: replies ∧
        questions = .snapshot :: further ∧
        (∀ question ∈ further, question.IsOfRefresh) ∧
        RefreshJob.Judged gate snapshot true userId replies further := by
  obtain ⟨rest, same, only⟩ := RefreshJob.forced_asksOnly gate userId
  have within : Asks (RefreshJob.forced gate userId) answers questions :=
    asks.of_bind fun _ => trivial
  have opening := within
  rw [same] at opening
  rcases opening.of_snapshot with early | ⟨snapshot, replies, further, rfl, rfl, onward⟩
  · exact Or.inl early
  · obtain ⟨others, alike, judged⟩ := RefreshJob.forced_judged within
    obtain ⟨-, rfl⟩ := List.cons.inj alike
    exact Or.inr ⟨snapshot, replies, further, rfl, rfl, (only snapshot).asks onward, judged⟩

/-- A pass comes to no outcome without a snapshot. -/
theorem pass_answered {outcome : Outcome}
    (course : Course ((pass minute).procedure gate) answers (.done outcome)) : answers ≠ [] := by
  obtain ⟨ended, -, within⟩ := pass_course_done course
  obtain ⟨rest, same, -⟩ := MinutePass.run_asksOnly minute
  rw [same] at within
  exact within.answered_of_snapshot

/-- Answered alike, an errand asks the same; the verdicts on candidates do not matter. -/
theorem inStep (gate : Gate) (errand : Errand) :
    InStep Question.Submits (fun _ _ => True) (errand.procedure gate) (errand.procedure gate) := by
  have job {procedure : Procedure Unit} (only : AsksOnly Question.IsOfRefresh procedure) :
      InStep Question.Submits (fun _ _ => True) procedure procedure := by
    refine (InStep.refl (only.mono ?_)).mono fun _ _ _ => trivial
    rintro question fits ⟨candidate, settings, rfl⟩
    exact fits
  have ended (outcome other : Outcome) :
      InStep Question.Submits (fun _ _ => True) (.done outcome) (.done other) :=
    .done trivial
  cases errand with
  | pass minute => exact (MinutePass.run_inStep minute).bind fun _ _ _ => ended _ _
  | scheduled candidate settings =>
      exact (job (RefreshJob.scheduled_asksOnly gate candidate settings)).bind
        fun _ _ _ => ended _ _
  | forced userId =>
      obtain ⟨rest, same, only⟩ := RefreshJob.forced_asksOnly gate userId
      have opening : InStep Question.Submits (fun _ _ => True)
          (.ask .snapshot rest) (.ask .snapshot rest) := by
        refine .ask (fun snapshot => job (only snapshot)) ?_
        rintro ⟨candidate, settings, other⟩
        simp at other
      rw [procedure, same]
      exact opening.bind fun _ _ _ => ended _ _

end Errand

namespace Record

/-- The pass had its candidate queued, and with that the job began. -/
def Queued (record : Record) (pass : Nat) (candidate : Candidate) (snapshot : Settings)
    (job : Nat) : Prop :=
  ∃ before after, record = before ++
    .answered pass ⟨.enqueue candidate snapshot, .ok ()⟩ ::
      .begun job (.scheduled candidate snapshot) :: after

theorem Queued.errand_mem {record : Record} {pass job : Nat} {candidate : Candidate}
    {snapshot : Settings} (queued : record.Queued pass candidate snapshot job) :
    .scheduled candidate snapshot ∈ record.errands job := by
  obtain ⟨before, after, rfl⟩ := queued
  exact mem_errands_iff.mpr (by simp)

end Record

namespace Trigger

variable {gate : Gate} {trigger after : Trigger} {record news : Record} {number : Nat}
  {candidate : Candidate} {snapshot : Settings}

/-- The refresh of a candidate begins with the answer to its pass, and no other way. -/
theorem Turn.queues (turn : Turn trigger after news) :
    (∃ pass candidate settings last, news =
      [.answered pass ⟨.enqueue candidate settings, .ok ()⟩,
        .begun trigger.next (.scheduled candidate settings), last] ∧ last.isAside = true) ∨
    (∀ job candidate settings, .begun job (.scheduled candidate settings) ∉ news) ∧
      ∀ pass candidate settings,
        .answered pass ⟨.enqueue candidate settings, .ok ()⟩ ∉ news := by
  have aside {effects : List Effect} (quiet : ∀ effect ∈ effects, effect.isAside = true)
      {effect : Effect} (loud : effect.isAside = false) : effect ∉ effects := by
    intro member
    simp [quiet effect member] at loud
  cases turn with
  | aside quiet => exact Or.inr ⟨fun _ _ _ => aside quiet rfl, fun _ _ _ => aside quiet rfl⟩
  | @began errand told quiet direct =>
      refine Or.inr ⟨fun job candidate settings member => ?_, fun _ _ _ member => ?_⟩
      · rcases List.mem_pair.mp member with same | rfl
        · exact direct candidate settings (Effect.begun.inj same).2.symm
        · simp [Effect.isAside] at quiet
      · rcases List.mem_pair.mp member with same | rfl
        · simp at same
        · simp [Effect.isAside] at quiet
  | wrote => simp
  | answered reply quiet stood given =>
      refine Or.inr ⟨fun _ _ _ member => ?_, fun _ candidate settings member => ?_⟩
      · rcases List.mem_cons.mp member with same | later
        · simp at same
        · exact aside quiet rfl later
      · rcases List.mem_cons.mp member with same | later
        · obtain ⟨-, rfl⟩ := Effect.answered.inj same
          obtain ⟨fault, refused⟩ := given
          simp at refused
        · exact aside quiet rfl later
  | enqueued quiet => exact Or.inl ⟨_, _, _, _, rfl, quiet⟩
  | ended => simp
  | crashed quiet =>
      refine Or.inr ⟨fun _ _ _ member => ?_, fun _ _ _ member => ?_⟩ <;>
        rcases List.mem_append.mp member with note | last
      · exact aside quiet rfl note
      · simp at last
      · exact aside quiet rfl note
      · simp at last

/-- A step that queues a candidate is on the record of the run as a whole. -/
theorem queued_of_step (earlier : List Move) (move : Move) (later : List Move) {pass job : Nat}
    {last : Effect}
    (told : ((trigger.run earlier).1.step move).2 =
      [.answered pass ⟨.enqueue candidate snapshot, .ok ()⟩,
        .begun job (.scheduled candidate snapshot), last]) :
    Record.Queued (trigger.run (earlier ++ move :: later)).2 pass candidate snapshot job := by
  rw [run_append, run_cons, told]
  exact ⟨(trigger.run earlier).2, last :: _, rfl⟩

theorem exists_queued_of_answered (sound : trigger.Sound) {moves : List Move} {pass : Nat}
    (told : .answered pass ⟨.enqueue candidate snapshot, .ok ()⟩ ∈ (trigger.run moves).2) :
    ∃ job, Record.Queued (trigger.run moves).2 pass candidate snapshot job := by
  obtain ⟨earlier, move, later, rfl, now⟩ := exists_step_of_mem_run told
  have turn := (step_lawful (sound_run sound earlier) move).turn
  rcases turn.queues with ⟨pass', candidate', settings, last, whole, quiet⟩ | ⟨-, none⟩
  · rw [whole] at now
    simp only [List.mem_cons, reduceCtorEq, Effect.answered.injEq, Reply.mk.injEq,
      Question.enqueue.injEq, List.not_mem_nil, or_false, false_or] at now
    rcases now with ⟨rfl, ⟨rfl, rfl⟩, -⟩ | rfl
    · exact ⟨_, queued_of_step earlier move later whole⟩
    · simp [Effect.isAside] at quiet
  · exact absurd now (none _ _ _)

/-- Before it has taken a snapshot the task calls nobody and comes to no outcome; it takes
the settings then in effect, and goes by them. -/
def Isolated (trigger : Trigger) (events : List Event) (number : Nat)
    (goesBy : Settings → List Reply → Prop) : Prop :=
  let record : Record := (trigger.run (Event.moves trigger.settings events)).2
  (record.answers number = [] ∧ record.calls number = [] ∧
    ∀ outcome, some outcome ∉ record.endings number) ∨
    ∃ snapshot replies, record.answers number = ⟨.snapshot, snapshot⟩ :: replies ∧
      trigger.Took events number snapshot ∧ goesBy snapshot replies

section Tasks

variable {settings settings' : Settings} {sizes sizes' : PoolSizes}
  {events events' : List Event} {pass pass' job : Nat} {minute : MinuteOfDay} {userId : UserId}

theorem chronicle_ofEvents (gate : Gate) (settings : Settings) (sizes : PoolSizes)
    (events : List Event) :
    Chronicle gate ((create gate settings sizes).run (Event.moves settings events)).1
      (Record.ofEvents gate settings sizes events) :=
  chronicle_run gate settings sizes (Event.moves settings events)

/-- A task that ended has come to the end of its errand's procedure. -/
theorem course_of_ended {errand : Errand} {outcome : Outcome}
    (begun : (Record.ofEvents gate settings sizes events).errands number = [errand])
    (ended : some outcome ∈ (Record.ofEvents gate settings sizes events).endings number) :
    Course (errand.procedure gate)
      ((Record.ofEvents gate settings sizes events).answers number) (.done outcome) :=
  course_of_outcome begun ended

theorem pass_isolated
    (begun : (Record.ofEvents gate settings sizes events).errands pass = [.pass minute]) :
    (create gate settings sizes).Isolated events pass fun snapshot replies =>
      MinutePass.GoesBy minute snapshot replies
        ((Record.ofEvents gate settings sizes events).calls pass)
        ((Record.ofEvents gate settings sizes events).endings pass) := by
  obtain ⟨questions, asks, calls_eq, -⟩ := calls_asks gate settings sizes _ begun
  rcases Errand.pass_asks asks with
    ⟨none, silent⟩ | ⟨snapshot, replies, further, answers_eq, rfl, decided⟩
  · exact Or.inl ⟨none, calls_eq.trans silent,
      fun outcome ended => Errand.pass_answered (course_of_ended begun ended) none⟩
  · refine Or.inr ⟨snapshot, replies, answers_eq,
      took_of_answers (sound_create gate settings sizes) answers_eq, ?_, ?_, ?_⟩
    · intro reply member
      have answered := asks.answered
      rw [answers_eq, List.map_cons, List.cons_prefix_cons] at answered
      exact decided _ (answered.2.subset (List.mem_map_of_mem member))
    · intro question member
      rw [calls_eq] at member
      exact decided question (List.mem_of_mem_filter member)
    · intro outcome ended
      obtain ⟨told, ⟨⟩, course⟩ := Errand.pass_course_done (course_of_ended begun ended)
      exact MinutePass.run_conduct (answers_eq ▸ course)

end Tasks

/-- The settings are replaced after a pass has queued its candidate and before the refresh
starts: the refresh asks for a credential although the provider is blacklisted by then. -/
example :
    let user : User := ⟨Identifier.ofNat 7, Identifier.ofNat 1, .active, false⟩
    let site : UserSite := ⟨Identifier.ofNat 10, user.id, "bank", none, false, .proceed⟩
    let blacklist : OrderedSet String := OrderedSet.empty.insert "bank"
    (Record.ofEvents Gate.neededAction .default .default
      [.move (.triggerPass ⟨0, by decide⟩), .move (.start .pass 0), .move (.advance 0),
        .move (.call 0), .move (.answer 0 ⟨.tenants, .ok [user.tenantId]⟩), .move (.call 0),
        .move (.answer 0 ⟨.usersInRange user.tenantId (Wheel.span 0 4), .ok [user.id]⟩),
        .move (.advance 0), .move (.advance 0),
        .move (.replaceSettings { Settings.default with blacklistedProviders := blacklist }),
        .move (.start .dispatch 1), .move (.call 1),
        .move (.answer 1 ⟨.user user.id, .ok (some user)⟩), .move (.call 1),
        .move (.answer 1 ⟨.sites user.id, .ok [site]⟩), .move (.call 1),
        .move (.answer 1 ⟨.clock, ⟨0, 0⟩⟩), .move (.call 1)]).calls 1 =
      [.user user.id, .sites user.id, .clock, .credential user.tenantId user.id] := by rfl

end Trigger

end UnattendedRefresh
