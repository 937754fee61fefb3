import UnattendedRefresh.Rehearsal.Play
import UnattendedRefresh.Services.Clock

/-!
# The clock in a rehearsal

In a rehearsal the time of day stands still while timers run, so that the clock
waits the same time before each of its triggers and every trigger comes to the
same.
-/

namespace UnattendedRefresh.Rehearsal

def clockService (play : Play) : Services.Service :=
  let now := play.stage.now
  let wait := now.untilNextMinute.toNat
  match play.submit (.triggerPass (MinuteOfDay.ofInstant now)) with
  | .ok after => Services.Clock.service wait wait (.ok ()) after.settleAll.entries
  | .error fault => Services.Clock.service wait wait (.error fault) []

end UnattendedRefresh.Rehearsal
