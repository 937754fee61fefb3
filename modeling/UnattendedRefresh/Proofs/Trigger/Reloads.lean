import UnattendedRefresh.Application
import UnattendedRefresh.Proofs.MinutePass.Clamping
import UnattendedRefresh.Proofs.Settings.Handle
import UnattendedRefresh.Proofs.Trigger.Isolation

/-!
# Settings in effect

The application starts with settings that loaded, and its reload task puts in effect
nothing but what loads. So the settings in effect are the last good ones at every moment,
the snapshots that the tasks hold keep to the ceiling, and no pass has the wheel clamp a
rate.
-/

namespace UnattendedRefresh

open Procedure

namespace Errand

variable {gate : Gate} {errand : Errand} {replies : List Reply}

/-- Only a pass asks for the users of a range, and after its snapshot, for the arc that
the tenant's rate puts on the minute. -/
theorem ranged {tenant : TenantId} {range : IdRange}
    {onward : Question.Answer (.usersInRange tenant range) → Procedure Outcome}
    (course : Course (errand.procedure gate) replies (.ask (.usersInRange tenant range) onward)) :
    ∃ minute, errand = .pass minute := by
  have asks := course.asks_next
  have member : Question.usersInRange tenant range ∈
      replies.map (·.question) ++ [.usersInRange tenant range] := by simp
  cases errand with
  | pass minute => exact ⟨minute, rfl⟩
  | scheduled candidate settings =>
      have within : Asks (RefreshJob.scheduled gate candidate settings) _ _ :=
        asks.of_bind fun _ => trivial
      exact ((RefreshJob.scheduled_asksOnly gate candidate settings).asks within _ member).elim
  | forced userId =>
      rcases forced_asks asks with ⟨-, silent⟩ | ⟨_, _, further, -, same, only, -⟩
      · simp [externals, Question.isInternal] at silent
      · rw [same] at member
        rcases List.mem_cons.mp member with other | later
        · simp at other
        · exact (only _ later).elim

/-- No errand writes that a rate was clamped, unless it was shown settings above the
ceiling. -/
theorem unclamped {entry : Journal.Entry} {rest : Procedure Outcome}
    (within : ∀ snapshot, ⟨.snapshot, snapshot⟩ ∈ replies → snapshot.WithinCeiling)
    (course : Course (errand.procedure gate) replies (.report entry rest)) : Unclamped entry := by
  cases errand with
  | pass minute =>
      obtain ⟨onward, same, quiet⟩ := MinutePass.run_unclamped minute
      rw [procedure, same, ask_bind, Course.ask_iff] at course
      rcases course with ⟨-, other⟩ | ⟨snapshot, later, rfl, further⟩
      · simp at other
      · have shown := within snapshot List.mem_cons_self
        have only := (quiet snapshot shown).bind
          fun outcome => show WritesOnly Unclamped (.done (Outcome.pass outcome)) from trivial
        exact (only.onward further).1
  | scheduled candidate settings =>
      have only := (RefreshJob.scheduled_unclamped gate candidate settings).bind
        fun _ => show WritesOnly Unclamped (.done Outcome.refreshed) from trivial
      exact (only.onward course).1
  | forced userId =>
      have only := (RefreshJob.forced_unclamped gate userId).bind
        fun _ => show WritesOnly Unclamped (.done Outcome.refreshed) from trivial
      exact (only.onward course).1

end Errand

namespace Event

/-- What the reload task finds with the event. -/
def source? : Event → Option Settings.Source
  | move _ => none
  | reload source => some source

/-- What the reload task finds through the events, one source for each tick. -/
def sources (events : List Event) : List Settings.Source :=
  events.filterMap source?

/-- Nobody but the reload task replaces the settings. -/
def OnlyReloads (events : List Event) : Prop :=
  ∀ settings, .move (.replaceSettings settings) ∉ events

variable {events : List Event} {event : Event} {settings : Settings}

theorem settings_eq_good (keeps : ∀ settings, event ≠ .move (.replaceSettings settings))
    (current : Settings) :
    event.settings current = Settings.lastGood current (sources [event]) := by
  cases event with
  | reload source =>
      have found : sources [.reload source] = [source] := rfl
      rw [found, Settings.lastGood_cons]
      exact Settings.reload_settings current source
  | move made =>
      cases made with
      | replaceSettings settings => exact absurd rfl (keeps settings)
      | _ => rfl

theorem inEffect_eq_lastGood (only : OnlyReloads events) (initial : Settings) :
    inEffect initial events = Settings.lastGood initial (sources events) := by
  induction events generalizing initial with
  | nil => rfl
  | cons event events ih =>
      have first : event.settings initial = Settings.lastGood initial (sources [event]) :=
        settings_eq_good (fun settings same => only settings (by simp [same])) initial
      have rest := ih (fun settings member => only settings (by simp [member]))
        (event.settings initial)
      have split : sources (event :: events) = sources [event] ++ sources events := by
        rw [sources, sources, sources, ← List.filterMap_append]
        rfl
      rw [split, Settings.lastGood_append, ← first]
      exact rest

end Event

namespace Trigger

variable {gate : Gate} {trigger after : Trigger} {number : Nat} {events : List Event}
  {initial : Settings} {sizes : PoolSizes} {effect : Effect}

/-- Everything that a run tells is told by one of its events. -/
theorem exists_event_of_mem_run
    (told : effect ∈ (trigger.run (Event.moves trigger.settings events)).2) :
    ∃ earlier event later, events = earlier ++ event :: later ∧
      effect ∈ ((trigger.run (Event.moves trigger.settings earlier)).1.step
        (event.asMove (inEffect trigger.settings earlier))).2 := by
  induction events using List.reverseRecOn with
  | nil => simp [Event.moves, run] at told
  | append_singleton events event ih =>
      rw [Event.moves_append, run_append, List.mem_append] at told
      rcases told with before | now
      · obtain ⟨earlier, telling, later, rfl, told⟩ := ih before
        exact ⟨earlier, telling, later ++ [event], by simp, told⟩
      · refine ⟨events, event, [], rfl, ?_⟩
        simpa [Event.moves, run] using now

theorem Deed.of_reported {effects : List Effect} {entry : Journal.Entry}
    (deed : Deed trigger after effects) (told : .reported number entry ∈ effects) :
    entry = Journal.note .error "Pool job panicked" ∨
      ∃ errand rest, trigger.standing number = some (errand, .report entry rest) := by
  cases deed with
  | wrote goes stands =>
      obtain ⟨rfl, rfl⟩ := Effect.reported.inj (List.mem_singleton.mp told)
      exact Or.inr ⟨_, _, stands ▸ goes.standing⟩
  | crashed goes noted =>
      rcases List.mem_append.mp told with note | last
      · exact Or.inl (Effect.reported.inj (noted _ note)).2
      · simp at last
  | _ => simp at told

/-- An entry tells of a crash, or was written where its task stood at it. -/
theorem standing_of_reported {entry : Journal.Entry} {move : Move}
    (told : .reported number entry ∈ (trigger.step move).2) :
    entry = Journal.note .error "Pool job panicked" ∨
      ∃ errand rest, trigger.standing number = some (errand, .report entry rest) := by
  rcases trigger.replaced_or_deed move with ⟨settings, rfl⟩ | deed
  · simp [step] at told
  · exact deed.of_reported told

section Reloaded

/-- What a run keeps in which the settings are replaced by the reload task alone. -/
structure Reloaded (gate : Gate) (initial : Settings) (sizes : PoolSizes)
    (events : List Event) : Prop where
  settings_eq : ((create gate initial sizes).run (Event.moves initial events)).1.settings =
    Settings.lastGood initial (Event.sources events)
  within : (Settings.lastGood initial (Event.sources events)).WithinCeiling
  /-- A snapshot shows the settings that were the last good ones as it was taken. -/
  shown : ∀ number snapshot,
    .answered number ⟨.snapshot, snapshot⟩ ∈ Record.ofEvents gate initial sizes events →
      snapshot.WithinCeiling ∧ ∃ earlier, earlier <+: events ∧
        snapshot = Settings.lastGood initial (Event.sources earlier)
  /-- A pass asks for arcs of rates within the ceiling, as wide as the rate says. -/
  ranged : ∀ number tenant range,
    .called number (.usersInRange tenant range) ∈ Record.ofEvents gate initial sizes events →
      ∃ minute snapshot,
        (Record.ofEvents gate initial sizes events).errands number = [.pass minute] ∧
        .answered number ⟨.snapshot, snapshot⟩ ∈ Record.ofEvents gate initial sizes events ∧
        let rate := (snapshot.refreshesPerDay tenant).toNat
        0 < rate ∧ rate ≤ refreshCeiling ∧
          range = Wheel.span (rate * minute.index % minutesPerDay) rate
  unclamped : ∀ number entry,
    .reported number entry ∈ Record.ofEvents gate initial sizes events →
      ¬ Wheel.IsClampNotice entry

theorem shown_within (within : initial.WithinCeiling) (only : Event.OnlyReloads events)
    {snapshot : Settings}
    (told : .answered number ⟨.snapshot, snapshot⟩ ∈ Record.ofEvents gate initial sizes events) :
    snapshot.WithinCeiling ∧ ∃ earlier, earlier <+: events ∧
      snapshot = Settings.lastGood initial (Event.sources earlier) := by
  have sound := sound_create gate initial sizes
  change _ ∈ ((create gate initial sizes).run
    (Event.moves (create gate initial sizes).settings events)).2 at told
  obtain ⟨earlier, event, later, rfl, now⟩ := exists_event_of_mem_run told
  have before : Event.OnlyReloads earlier := by
    intro settings member
    exact only settings (List.mem_append_left _ member)
  have turn := (step_lawful (sound_run sound _) (event.asMove (inEffect initial earlier)) :
    Lawful ((create gate initial sizes).run (Event.moves initial earlier)).1 _).turn
  have current := settings_run (create gate initial sizes) earlier
  have taken : snapshot = Settings.lastGood initial (Event.sources earlier) := by
    rcases turn.isGivenBy (Record.mem_answers_iff.mpr now) with given | ⟨_, _, other⟩
    · rw [← Event.inEffect_eq_lastGood before]
      exact given.trans current
    · simp at other
  refine ⟨?_, earlier, List.prefix_append _ _, taken⟩
  rw [taken]
  exact Settings.withinCeiling_lastGood within _

theorem ranged_of_called (only : Event.OnlyReloads events) (within : initial.WithinCeiling)
    {tenant : TenantId} {range : IdRange}
    (told : .called number (.usersInRange tenant range) ∈
      Record.ofEvents gate initial sizes events) :
    ∃ minute snapshot,
      (Record.ofEvents gate initial sizes events).errands number = [.pass minute] ∧
      .answered number ⟨.snapshot, snapshot⟩ ∈ Record.ofEvents gate initial sizes events ∧
      let rate := (snapshot.refreshesPerDay tenant).toNat
      0 < rate ∧ rate ≤ refreshCeiling ∧
        range = Wheel.span (rate * minute.index % minutesPerDay) rate := by
  have chronicle := chronicle_ofEvents gate initial sizes events
  have called : Question.usersInRange tenant range ∈
      (Record.ofEvents gate initial sizes events).calls number := Record.mem_calls_iff.mpr told
  -- Where the question was put, its task stood at it, and it is a pass.
  obtain ⟨minute, begun⟩ : ∃ minute,
      (Record.ofEvents gate initial sizes events).errands number = [.pass minute] := by
    obtain ⟨earlier, move, later, same, now⟩ := exists_step_of_mem_run told
    obtain ⟨-, errand, onward, stood⟩ := standing_of_called now
    obtain ⟨begun, -, course⟩ := (chronicle_run gate initial sizes earlier).underWay stood
    obtain ⟨minute, rfl⟩ := Errand.ranged course
    refine ⟨minute, (chronicle.lives number).errands_eq ?_⟩
    rw [Record.ofEvents, same, run_append, Record.errands_append, begun]
    simp
  rcases pass_isolated begun with ⟨-, silent, -⟩ | ⟨snapshot, replies, answers_eq, -, goesBy⟩
  · exact absurd (silent ▸ called) List.not_mem_nil
  · have taken : .answered number ⟨.snapshot, snapshot⟩ ∈
        Record.ofEvents gate initial sizes events :=
      Record.mem_answers_iff.mp (answers_eq ▸ List.mem_cons_self)
    have low := (shown_within within only taken).1.rate_le tenant
    obtain ⟨-, due⟩ := goesBy.called _ called
    obtain ⟨positive, range_eq⟩ := Wheel.span_of_dueRange low due
    exact ⟨minute, snapshot, begun, taken, Nat.pos_of_ne_zero positive, low, range_eq⟩

theorem unclamped_of_reported (only : Event.OnlyReloads events) (within : initial.WithinCeiling)
    {entry : Journal.Entry}
    (told : .reported number entry ∈ Record.ofEvents gate initial sizes events) :
    ¬ Wheel.IsClampNotice entry := by
  obtain ⟨earlier, move, later, same, now⟩ := exists_step_of_mem_run told
  rcases standing_of_reported now with rfl | ⟨errand, rest, stood⟩
  · exact unclamped_note (by simp)
  · obtain ⟨-, -, course⟩ := (chronicle_run gate initial sizes earlier).underWay stood
    refine Errand.unclamped (fun snapshot taken => ?_) course
    have whole : .answered number ⟨.snapshot, snapshot⟩ ∈
        Record.ofEvents gate initial sizes events := by
      rw [Record.ofEvents, same, run_append]
      exact List.mem_append_left _ (Record.mem_answers_iff.mp taken)
    exact (shown_within within only whole).1

theorem reloaded_run (within : initial.WithinCeiling) (only : Event.OnlyReloads events) :
    Reloaded gate initial sizes events where
  settings_eq := by
    rw [← Event.inEffect_eq_lastGood only]
    exact settings_run (create gate initial sizes) events
  within := Settings.withinCeiling_lastGood within _
  shown _ _ told := shown_within within only told
  ranged _ _ _ told := ranged_of_called only within told
  unclamped _ _ told := unclamped_of_reported only within told

end Reloaded

end Trigger

namespace Application

/-- An application that has started goes by the settings that loaded. -/
theorem trigger_of_start {surroundings : Surroundings} {config : Config.ProcessConfig}
    {application : Application} (started : (start surroundings config).result = .ok application) :
    ∃ initial, (settingsSource surroundings config).load = .ok initial ∧
      application.trigger = Trigger.create Gate.neededAction initial config.pools := by
  unfold start at started
  split at started
  next => simp at started
  next =>
    split at started
    next => simp at started
    next initial loaded =>
      refine ⟨initial, loaded, ?_⟩
      split at started
      next =>
        obtain rfl := Except.ok.inj started
        rfl
      next => simp at started

end Application

namespace Trigger

variable {source : Settings.Source} {initial : Settings}

/-- With settings that loaded, and a task that reloads them at an interval that is not
zero, whatever the ticks find: the handle holds the last good settings and hands out
snapshots that stay as they are; so does a running trigger; and the settings an
application starts with are such settings. -/
theorem last_good_in_effect (loaded : source.load = .ok initial) :
    (∀ found, Settings.Handle.Steady initial found ((Settings.Handle.create initial).watch found)) ∧
    (∀ interval : Duration, interval.nanoseconds ≠ 0 →
      ∃ task, Settings.ReloadTask.start interval = some task ∧
        (∀ lapses, task.watch initial lapses = Settings.lastGood initial (task.finds lapses) ∧
          (task.finds lapses).length = (lapses.map Prod.fst).sum / interval.nanoseconds) ∧
        ∀ found, ∃ lapses, task.finds lapses = found) ∧
    (∀ gate sizes events, Event.OnlyReloads events → Reloaded gate initial sizes events) ∧
    ∀ surroundings config application,
      Application.settingsSource surroundings config = source →
      (Application.start surroundings config).result = .ok application →
        application.trigger = create Gate.neededAction initial config.pools := by
  have within := Settings.Source.withinCeiling_of_load loaded
  refine ⟨fun found => Settings.Handle.steady_watch within found, ?_, ?_, ?_⟩
  · intro interval running
    refine ⟨⟨interval, 0⟩, if_neg running, fun lapses => ⟨Settings.ReloadTask.watch_eq _ _ _, ?_⟩,
      Settings.ReloadTask.exists_finds _ running⟩
    have ticks := Settings.ReloadTask.length_finds ⟨interval, 0⟩ lapses
    simpa using ticks
  · intro gate sizes events only
    exact reloaded_run within only
  · intro surroundings config application same started
    obtain ⟨own, ownLoaded, trigger_eq⟩ := Application.trigger_of_start started
    rw [same, loaded] at ownLoaded
    obtain rfl := Except.ok.inj ownLoaded
    exact trigger_eq

section Watched

/-- A file that switches the refreshes off. -/
def quietFile : Settings.Source :=
  ⟨some "enabled = false", []⟩

def quiet : Settings :=
  { Settings.default with enabled := false }

/-- A file that breaks off, one above the ceiling, no file, and one with a wrong type. -/
def laterFiles : List Settings.Source :=
  [⟨some "enabled = ", []⟩, ⟨some "default_refreshes_per_day = 6", []⟩, ⟨none, []⟩,
    ⟨some "enabled = 3", []⟩]

/-- Of the later files only the missing one loads. The first snapshot stays as it is. -/
theorem last_good_in_effect_laterFiles :
    quietFile.load = .ok quiet ∧
      ((Settings.Handle.create quiet).watch laterFiles).value = Settings.default ∧
      ((Settings.Handle.create quiet).watch laterFiles).read? 0 = some quiet := by
  have loaded : quietFile.load = .ok quiet := by decide +kernel
  have watched := (last_good_in_effect loaded).1
  have last : Settings.lastGood quiet laterFiles = Settings.default := by decide +kernel
  have first : (Settings.Handle.create quiet).read? 0 = some quiet := rfl
  refine ⟨loaded, ?_, ?_⟩
  · rw [(watched laterFiles).value_eq, last]
  · exact ((watched []).handed_out 0 quiet first).2 laterFiles

end Watched

end Trigger

end UnattendedRefresh
