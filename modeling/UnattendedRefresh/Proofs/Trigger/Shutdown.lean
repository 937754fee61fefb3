import UnattendedRefresh.Proofs.MinutePass.Selection
import UnattendedRefresh.Proofs.Trigger.Errands
import UnattendedRefresh.Proofs.Trigger.Life
import UnattendedRefresh.Proofs.Trigger.Pools

/-!
# Ordered shutdown

A shutdown closes the dispatch pool only when the passes have drained, and returns
only when the other two pools have. So no pass that a pool accepted finds the
dispatch pool closed, and nothing that was accepted is left behind.
-/

namespace UnattendedRefresh

open Function Procedure

/-- What happens next: a whole move, or the half of a shutdown's move that has
closed the dispatch pool and not yet the forced pool. -/
inductive Moment where
  | move (move : Move)
  | closeDispatch (number : Nat)

/-- What became of a submitted candidate, by the answer and what the record tells
next. -/
inductive Fate (candidate : Candidate) (settings : Settings) :
    Except PoolFault Unit → Record → Prop where
  | queued (job : Nat) (later : Record) :
      Fate candidate settings (.ok ())
        (.begun job (.scheduled candidate settings) :: .accepted job .dispatch :: later)
  | refused (fault : PoolFault) (later : Record) :
      Fate candidate settings (.error fault) (.refused fault :: later)

theorem Fate.append {candidate : Candidate} {settings : Settings}
    {answer : Except PoolFault Unit} {later : Record} (fate : Fate candidate settings answer later)
    (news : Record) : Fate candidate settings answer (later ++ news) := by
  cases fate with
  | queued job later => exact .queued job (later ++ news)
  | refused fault later => exact .refused fault (later ++ news)

namespace Trigger

def closeDispatch (trigger : Trigger) (number : Nat) : Trigger :=
  match trigger.shutdowns.find? (·.1 = number) with
  | some (_, .drainingPasses) =>
    if trigger.passPool.isDrained then
      { trigger with dispatchPool := trigger.dispatchPool.close }
    else
      trigger
  | _ => trigger

def happen (trigger : Trigger) : Moment → Trigger × List Effect
  | .move move => trigger.step move
  | .closeDispatch number => (trigger.closeDispatch number, [])

def elapse (trigger : Trigger) : List Moment → Trigger × List Effect
  | [] => (trigger, [])
  | moment :: moments =>
    let (trigger, effects) := trigger.happen moment
    let (trigger, later) := trigger.elapse moments
    (trigger, effects ++ later)

variable {gate : Gate} {trigger after origin : Trigger} {record news : Record}

/-- A run is made of whole moves. -/
theorem elapse_moves (trigger : Trigger) (moves : List Move) :
    trigger.elapse (moves.map .move) = trigger.run moves := by
  induction moves generalizing trigger with
  | nil => rfl
  | cons move moves ih => simp [elapse, run, happen, ih]

theorem closeDispatch_eq (trigger : Trigger) (number : Nat) :
    trigger.closeDispatch number = trigger ∨
      (trigger.passPool.isDrained = true ∧
        trigger.closeDispatch number =
          { trigger with dispatchPool := trigger.dispatchPool.close }) := by
  simp only [closeDispatch]
  split
  next => split <;> simp_all
  next => simp

theorem happen_lawful (sound : trigger.Sound) (moment : Moment) :
    Lawful trigger (trigger.happen moment) := by
  cases moment with
  | move move => exact step_lawful sound move
  | closeDispatch number =>
      rw [happen]
      rcases trigger.closeDispatch_eq number with same | ⟨-, same⟩
      · rw [same]
        exact .unchanged sound
      · rw [same]
        exact .table_unchanged sound (task?_congr rfl) rfl (Nat.le_refl _) (by simp)

theorem happen_seated (sound : trigger.Sound) (moment : Moment) :
    Seated trigger (trigger.happen moment) := by
  cases moment with
  | move move => exact step_seated sound move
  | closeDispatch number =>
      rw [happen]
      rcases trigger.closeDispatch_eq number with same | ⟨drained, same⟩
      · rw [same]
        exact .unchanged trigger
      · rw [same]
        refine ⟨.closedDispatch drained ?_ rfl, fun _ _ _ kept => kept⟩
        funext lane
        cases lane <;> rfl

namespace Shift

variable {lane : Lane} {number : Nat} {candidate : Candidate} {settings : Settings}
  {answer : Except PoolFault Unit}

/-- Whoever is accepted is new, and waits in the pool that took it. -/
theorem of_accepted (shift : Shift trigger after news) (told : .accepted number lane ∈ news) :
    number = trigger.next ∧ after.seat number = some (some lane) ∧
      (after.pool lane).Holds number := by
  cases shift with
  | still idle => simpa [Effect.isIdle] using idle _ told
  | admitted taken pool_eq shutdowns_eq seated =>
      simp only [List.mem_cons, reduceCtorEq, Effect.accepted.injEq, List.not_mem_nil, or_false,
        false_or] at told
      obtain ⟨rfl, rfl⟩ := told
      refine ⟨rfl, seated, ?_⟩
      rw [pool_eq, update_self]
      exact (WorkerPool.holds_submit taken).mpr (Or.inr rfl)
  | queued asked taken pool_eq shutdowns_eq seated =>
      simp only [List.mem_cons, reduceCtorEq, Effect.accepted.injEq, List.not_mem_nil, or_false,
        false_or] at told
      obtain ⟨rfl, rfl⟩ := told
      refine ⟨rfl, seated, ?_⟩
      rw [pool_eq, update_self]
      exact (WorkerPool.holds_submit taken).mpr (Or.inr rfl)
  | ended idle =>
      rcases List.mem_append.mp told with note | last
      · simpa [Effect.isIdle] using idle _ note
      · simp at last
  | _ => simp at told

/-- A candidate is submitted by a task that goes on, and the dispatch pool decides. -/
theorem of_answered (shift : Shift trigger after news)
    (told : .answered number ⟨.enqueue candidate settings, answer⟩ ∈ news) :
    trigger.Moves number ∧ (answer = .ok () ∨ ∃ fault, answer = .error fault ∧
      (trigger.pool .dispatch).submit trigger.next = .error fault) := by
  cases shift with
  | still idle => simpa [Effect.isIdle] using idle _ told
  | queued asked =>
      simp only [List.mem_cons, reduceCtorEq, Effect.answered.injEq, List.not_mem_nil, or_false,
        Reply.mk.injEq, Question.enqueue.injEq] at told
      obtain ⟨rfl, ⟨rfl, rfl⟩, given⟩ := told
      exact ⟨asked, Or.inl (eq_of_heq given)⟩
  | turnedAway asked refused =>
      simp only [List.mem_cons, reduceCtorEq, Effect.answered.injEq, List.not_mem_nil, or_false,
        Reply.mk.injEq, Question.enqueue.injEq] at told
      obtain ⟨rfl, ⟨rfl, rfl⟩, given⟩ := told
      exact ⟨asked, Or.inr ⟨_, eq_of_heq given, refused⟩⟩
  | ended idle =>
      rcases List.mem_append.mp told with note | last
      · simpa [Effect.isIdle] using idle _ note
      · simp at last
  | _ => simp at told

/-- The fate of a candidate is told right after the answer. -/
theorem fate (shift : Shift trigger after news) {before later : Record}
    (told : news = before ++ .answered number ⟨.enqueue candidate settings, answer⟩ :: later) :
    Fate candidate settings answer later := by
  have member : .answered number ⟨.enqueue candidate settings, answer⟩ ∈ news := by
    simp [told]
  cases shift with
  | queued asked =>
      rcases before with _ | ⟨first, _ | ⟨second, _ | ⟨third, before⟩⟩⟩ <;> simp at told
      obtain ⟨⟨rfl, ⟨rfl, rfl⟩, rfl⟩, rfl⟩ := told
      exact .queued _ []
  | turnedAway asked refused =>
      rcases before with _ | ⟨first, _ | ⟨second, before⟩⟩ <;> simp at told
      obtain ⟨⟨rfl, ⟨rfl, rfl⟩, rfl⟩, rfl⟩ := told
      exact .refused _ []
  | still idle => simpa [Effect.isIdle] using idle _ member
  | ended idle =>
      rcases List.mem_append.mp member with note | last
      · simpa [Effect.isIdle] using idle _ note
      · simp at last
  | _ => simp at member

/-- A shutdown that waits for the refreshes has closed their pools. -/
theorem of_stage (shift : Shift trigger after news)
    (waits : (number, .drainingRefreshes) ∈ after.shutdowns) :
    (number, .drainingRefreshes) ∈ trigger.shutdowns ∨
      (after.pool .forced).isClosed = true := by
  cases shift with
  | closedPasses pool_eq shutdowns_eq =>
      rw [shutdowns_eq, List.mem_append] at waits
      exact Or.inl (by simpa using waits)
  | closedRefreshes drained pool_eq shutdowns_sub => exact Or.inr (by simp [pool_eq])
  | drained waited dispatch forced pool_eq shutdowns_sub => exact Or.inl (shutdowns_sub _ waits)
  | still _ _ shutdowns_eq => exact Or.inl (shutdowns_eq ▸ waits)
  | admitted _ _ shutdowns_eq => exact Or.inl (shutdowns_eq ▸ waits)
  | queued _ _ _ shutdowns_eq => exact Or.inl (shutdowns_eq ▸ waits)
  | turnedAway _ _ _ shutdowns_eq => exact Or.inl (shutdowns_eq ▸ waits)
  | started _ _ shutdowns_eq => exact Or.inl (shutdowns_eq ▸ waits)
  | ended _ _ shutdowns_eq => exact Or.inl (shutdowns_eq ▸ waits)
  | closedDispatch _ _ shutdowns_eq => exact Or.inl (shutdowns_eq ▸ waits)

/-- A shutdown returns when both pools of the refreshes have drained. -/
theorem of_drained (shift : Shift trigger after news) (told : .drained number ∈ news) :
    (trigger.pool .dispatch).isDrained = true ∧ (trigger.pool .forced).isDrained = true := by
  cases shift with
  | drained waited dispatch forced => exact ⟨dispatch, forced⟩
  | still idle => simpa [Effect.isIdle] using idle _ told
  | ended idle =>
      rcases List.mem_append.mp told with note | last
      · simpa [Effect.isIdle] using idle _ note
      · simp at last
  | _ => simp at told

end Shift

/-- Who was accepted keeps its place in the pool until the record tells of an end,
and the pools close in order. -/
structure Ordered (origin trigger : Trigger) (record : Record) : Prop where
  alike : ∀ lane, (trigger.pool lane).name = (origin.pool lane).name ∧
    (trigger.pool lane).capacity = (origin.pool lane).capacity
  seats : ∀ number lane, .accepted number lane ∈ record → number < trigger.next ∧
    ∀ seat, trigger.seat number = some seat → seat = some lane
  places : ∀ number lane, .accepted number lane ∈ record →
    (trigger.pool lane).Holds number ∨ ∃ outcome, .ended number outcome ∈ record
  passes_first : (trigger.pool .dispatch).isClosed = true →
    (trigger.pool .pass).isDrained = true
  dispatch_first : (trigger.pool .forced).isClosed = true →
    (trigger.pool .dispatch).isClosed = true
  stages : ∀ number, (number, .drainingRefreshes) ∈ trigger.shutdowns →
    (trigger.pool .forced).isClosed = true
  drained : ∀ number, .drained number ∈ record → ∀ lane, (trigger.pool lane).isDrained = true
  answered : ∀ pass candidate settings answer,
    .answered pass ⟨.enqueue candidate settings, answer⟩ ∈ record → pass < trigger.next ∧
      (.accepted pass .pass ∈ record → answer = .ok () ∨ answer =
        .error (.saturated (origin.pool .dispatch).name (origin.pool .dispatch).capacity))
  fates : ∀ before pass candidate settings answer later,
    record = before ++ .answered pass ⟨.enqueue candidate settings, answer⟩ :: later →
      Fate candidate settings answer later

theorem ordered_create (gate : Gate) (settings : Settings) (sizes : PoolSizes) :
    Ordered (create gate settings sizes) (create gate settings sizes) [] where
  alike lane := ⟨rfl, rfl⟩
  seats := by simp
  places := by simp
  passes_first := by simp [create, pool, WorkerPool.create]
  dispatch_first := by simp [create, pool, WorkerPool.create]
  stages := by simp [create]
  drained := by simp
  answered := by simp
  fates := by simp

theorem Sound.lt_next_of_seat (sound : trigger.Sound) {number : Nat} {seat : Option Lane}
    (seated : trigger.seat number = some seat) : number < trigger.next := by
  obtain ⟨task, found, -⟩ := Option.map_eq_some_iff.mp seated
  exact sound.lt_next found

/-- A pass that goes on holds a worker of its pool, so the passes have not drained
and the dispatch pool can refuse for one reason only. -/
theorem Ordered.refusal (ordered : Ordered origin trigger record) {pass : Nat}
    (accepted : .accepted pass .pass ∈ record) (moves : trigger.Moves pass)
    {job : Nat} {fault : PoolFault}
    (refused : (trigger.pool .dispatch).submit job = .error fault) :
    fault = .saturated (origin.pool .dispatch).name (origin.pool .dispatch).capacity := by
  obtain ⟨seat, seated, runs⟩ := moves
  obtain rfl := (ordered.seats pass .pass accepted).2 seat seated
  rcases WorkerPool.submit_eq_error_iff.mp refused with ⟨closed, -⟩ | ⟨-, -, rfl⟩
  · have drained := ordered.passes_first closed
    exact absurd (Or.inr (runs .pass rfl)) (WorkerPool.not_holds_of_isDrained drained)
  · obtain ⟨name_eq, capacity_eq⟩ := ordered.alike .dispatch
    rw [name_eq, capacity_eq]

theorem Ordered.extend (ordered : Ordered origin trigger record) (sound : trigger.Sound)
    (lawful : Lawful trigger (after, news)) (seated : Seated trigger (after, news)) :
    Ordered origin after (record ++ news) where
  alike lane := by
    have onward := (seated.shift.passage lane).onward
    rw [onward.name_eq, onward.capacity_eq]
    exact ordered.alike lane
  seats number lane told := by
    rcases List.mem_append.mp told with earlier | now
    · obtain ⟨given, own⟩ := ordered.seats number lane earlier
      exact ⟨Nat.lt_of_lt_of_le given lawful.next_le,
        fun seat kept => own seat (seated.kept number given seat kept)⟩
    · obtain ⟨-, own, -⟩ := seated.shift.of_accepted now
      exact ⟨lawful.sound.lt_next_of_seat own,
        fun seat kept => Option.some.inj (kept.symm.trans own)⟩
  places number lane told := by
    rcases List.mem_append.mp told with earlier | now
    · rcases ordered.places number lane earlier with held | ⟨outcome, ended⟩
      · rcases (seated.shift.passage lane).holds held with still | ⟨outcome, ended⟩
        · exact Or.inl still
        · exact Or.inr ⟨outcome, List.mem_append_right record ended⟩
      · exact Or.inr ⟨outcome, List.mem_append_left news ended⟩
    · exact Or.inl (seated.shift.of_accepted now).2.2
  passes_first closed := by
    have onward := (seated.shift.passage .pass).onward
    rcases (seated.shift.passage .dispatch).of_closed closed with earlier | ⟨passes, -⟩
    · exact onward.drained (ordered.passes_first earlier)
    · exact onward.drained (passes (by simp))
  dispatch_first closed := by
    rcases (seated.shift.passage .forced).of_closed closed with earlier | ⟨-, dispatch⟩
    · exact (seated.shift.passage .dispatch).onward.closed (ordered.dispatch_first earlier)
    · exact dispatch rfl
  stages number waits := by
    rcases seated.shift.of_stage waits with earlier | closed
    · exact (seated.shift.passage .forced).onward.closed (ordered.stages number earlier)
    · exact closed
  drained number told lane := by
    have onward := (seated.shift.passage lane).onward
    rcases List.mem_append.mp told with earlier | now
    · exact onward.drained (ordered.drained number earlier lane)
    · obtain ⟨dispatch, forced⟩ := seated.shift.of_drained now
      have closed := (WorkerPool.isDrained_iff.mp dispatch).1
      cases lane with
      | pass => exact onward.drained (ordered.passes_first closed)
      | dispatch => exact onward.drained dispatch
      | forced => exact onward.drained forced
  answered pass candidate settings answer told := by
    rcases List.mem_append.mp told with earlier | now
    · obtain ⟨given, decided⟩ := ordered.answered pass candidate settings answer earlier
      refine ⟨Nat.lt_of_lt_of_le given lawful.next_le, fun accepted => ?_⟩
      rcases List.mem_append.mp accepted with before | late
      · exact decided before
      · have := (seated.shift.of_accepted late).1
        omega
    · obtain ⟨moves, decided⟩ := seated.shift.of_answered now
      have given : pass < trigger.next := sound.lt_next_of_seat moves.choose_spec.1
      refine ⟨Nat.lt_of_lt_of_le given lawful.next_le, fun accepted => ?_⟩
      rcases List.mem_append.mp accepted with before | late
      · rcases decided with taken | ⟨fault, rfl, refused⟩
        · exact Or.inl taken
        · rw [ordered.refusal before moves refused]
          exact Or.inr rfl
      · have := (seated.shift.of_accepted late).1
        omega
  fates before pass candidate settings answer later told := by
    rcases List.append_eq_append_iff.mp told with ⟨between, rfl, now⟩ | ⟨between, split, rest⟩
    · exact seated.shift.fate now
    · cases between with
      | nil =>
          have first : news = [] ++ .answered pass ⟨.enqueue candidate settings, answer⟩ :: later :=
            rest.symm
          exact seated.shift.fate first
      | cons head tail =>
          rw [List.cons_append, List.cons.injEq] at rest
          obtain ⟨rfl, rfl⟩ := rest
          exact (ordered.fates before pass candidate settings answer tail split).append news

/-- What is told of the tasks and of the pools, moment by moment. -/
theorem elapse_from (chronicle : Chronicle gate trigger record)
    (ordered : Ordered origin trigger record) (moments : List Moment) :
    Chronicle gate (trigger.elapse moments).1 (record ++ (trigger.elapse moments).2) ∧
      Ordered origin (trigger.elapse moments).1 (record ++ (trigger.elapse moments).2) := by
  induction moments generalizing trigger record with
  | nil => simpa [elapse] using ⟨chronicle, ordered⟩
  | cons moment moments ih =>
      have lawful := happen_lawful chronicle.sound moment
      have seated := happen_seated chronicle.sound moment
      simp only [elapse, ← List.append_assoc]
      exact ih (chronicle.extend lawful) (ordered.extend chronicle.sound lawful seated)

/-- Nothing accepted is left, and nothing will be accepted. -/
structure AtRest (trigger : Trigger) (record : Record) : Prop where
  ended : ∀ number lane, .accepted number lane ∈ record →
    ∃ outcome, .ended number outcome ∈ record
  idle : ∀ stats ∈ trigger.poolStats, stats.inFlight = 0
  refusesPasses : ∀ minute,
    trigger.step (.triggerPass minute) = (trigger, [.refused (.closed "minute-pass")])
  refusesForced : ∀ userId,
    trigger.step (.triggerForced userId) = (trigger, [.refused (.closed "forced")])

theorem submitMove_of_closed {lane : Lane} {errand : Errand}
    (closed : (trigger.pool lane).isClosed = true) :
    trigger.submitMove lane errand =
      (trigger, [.refused (.closed (trigger.pool lane).name)]) := by
  simp [submitMove, Trigger.submit, WorkerPool.submit_of_closed closed]

theorem Ordered.atRest {settings : Settings} {sizes : PoolSizes}
    (ordered : Ordered (create gate settings sizes) trigger record) {call : Nat}
    (returned : .drained call ∈ record) : AtRest trigger record where
  ended number lane told := by
    rcases ordered.places number lane told with held | ended
    · have drained := ordered.drained call returned lane
      exact absurd held (WorkerPool.not_holds_of_isDrained drained)
    · exact ended
  idle := by
    have empty (lane : Lane) : (trigger.pool lane).inFlight = 0 := by
      obtain ⟨-, waiting, running⟩ :=
        WorkerPool.isDrained_iff.mp (ordered.drained call returned lane)
      simp [WorkerPool.inFlight, waiting, running]
    simpa [poolStats, WorkerPool.stats] using ⟨empty .pass, empty .dispatch, empty .forced⟩
  refusesPasses minute := by
    have drained := ordered.drained call returned .pass
    have name : (trigger.pool .pass).name = "minute-pass" := (ordered.alike .pass).1
    exact name ▸ submitMove_of_closed (WorkerPool.isDrained_iff.mp drained).1
  refusesForced userId := by
    have drained := ordered.drained call returned .forced
    have name : (trigger.pool .forced).name = "forced" := (ordered.alike .forced).1
    exact name ▸ submitMove_of_closed (WorkerPool.isDrained_iff.mp drained).1

/-- Whatever the interleaving: the dispatch pool takes every candidate that an
accepted pass submits, or is saturated; a pass that ends with an outcome has
submitted every candidate it was told of; and from the moment a shutdown returns
everything accepted has ended, the pools are empty and both triggers refuse. -/
theorem ordered_shutdown (gate : Gate) (settings : Settings) (sizes : PoolSizes)
    (moments : List Moment) :
    let trigger := ((create gate settings sizes).elapse moments).1
    let record : Record := ((create gate settings sizes).elapse moments).2
    (∀ before pass candidate snapshot answer later,
      record = before ++ .answered pass ⟨.enqueue candidate snapshot, answer⟩ :: later →
      .accepted pass .pass ∈ record →
        (answer = .ok () ∧ ∃ job rest, later =
          .begun job (.scheduled candidate snapshot) :: .accepted job .dispatch :: rest) ∨
        answer = .error
          (.saturated "dispatch" (max sizes.dispatchWorkers 1 + sizes.dispatchQueue))) ∧
    (∀ pass outcome, .ended pass (some (.pass outcome)) ∈ record →
      Reply.submissions (record.answers pass) =
        (record.answers pass).flatMap Reply.candidates) ∧
    (∀ call, .drained call ∈ record → AtRest trigger record) := by
  intro trigger record
  have known := elapse_from (chronicle_create gate settings sizes)
    (ordered_create gate settings sizes) moments
  rw [List.nil_append] at known
  obtain ⟨chronicle, ordered⟩ := known
  refine ⟨fun before pass candidate snapshot answer later told accepted => ?_,
    fun pass outcome ended => ?_, fun call returned => ordered.atRest returned⟩
  · have member : .answered pass ⟨.enqueue candidate snapshot, answer⟩ ∈ record := by
      simp [told]
    have decided := (ordered.answered pass candidate snapshot answer member).2 accepted
    cases ordered.fates before pass candidate snapshot answer later told with
    | queued job rest => exact Or.inl ⟨rfl, job, rest, rfl⟩
    | refused fault rest => exact Or.inr (decided.resolve_left (by simp))
  · have ending : some (.pass outcome) ∈ record.endings pass := by
      exact List.mem_filterMap.mpr ⟨_, ended, by simp⟩
    obtain ⟨errand, -, -, course⟩ := (chronicle.lives pass).of_outcome ending
    obtain ⟨minute, rfl⟩ := Errand.pass_of_outcome course
    obtain ⟨result, -, within⟩ := Errand.pass_course_done course
    exact MinutePass.run_submissions within

/-- A shutdown that was called while a pass ran waits for the refresh that the pass
queued after that. -/
example :
    ((create Gate.neededAction .default .default).run
      [.triggerPass ⟨0, by decide⟩, .start .pass 0, .shutdown, .advance 0, .call 0,
        .answer 0 ⟨.tenants, .ok [Identifier.ofNat 1]⟩, .call 0,
        .answer 0 ⟨.usersInRange (Identifier.ofNat 1) (Wheel.span 0 4),
          .ok [Identifier.ofNat 7]⟩,
        .advance 0, .advanceShutdown 1, .advance 0, .advance 0, .advance 0,
        .advanceShutdown 1, .advanceShutdown 1, .start .dispatch 2, .call 2,
        .answer 2 ⟨.user (Identifier.ofNat 7), .ok none⟩, .advance 2, .advance 2,
        .advanceShutdown 1]).2.drop 18 =
      [.ended 2 (some .refreshed), .drained 1] := by rfl

end Trigger

end UnattendedRefresh
