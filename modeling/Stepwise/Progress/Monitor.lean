import Stepwise.Progress.Snapshot
import Stepwise.Run.Context

/-!
# Monitoring

A monitor samples the memory of a run, tidies its stores once in a while, and tells when a line about
memory is due. Nothing of it has an effect on the run.
-/

set_option autoImplicit false

namespace Stepwise

/-- How often stores are tidied and memory is reported, and what has been done so far. Times are
nanoseconds. -/
structure Monitor where
  interval : Nat
  telemetryEvery : Nat
  lastCompaction : Nat
  compactions : Nat
  samples : Nat

namespace Monitor

/-- A monitor that starts at a time. -/
def start (interval telemetryEvery now : Nat) : Monitor := ⟨interval, telemetryEvery, now, 0, 0⟩

/-- The memory in use now. -/
def sample (monitor : Monitor) (ctx : Context) : MemoryStats × Monitor :=
  (⟨ctx.outside.memory.1, ctx.outside.memory.2, ctx.buffers.totalItems, ctx.collections.totalItems⟩,
    { monitor with samples := monitor.samples + 1 })

/-- Tidies the stores if that was not done within the interval, and tells whether it was done. -/
def compact (monitor : Monitor) (ctx : Context) : Bool × Monitor :=
  let now := ctx.outside.clock
  if now - monitor.lastCompaction < monitor.interval then (false, monitor)
  else
    (true, { (monitor.sample ctx).2 with lastCompaction := now, compactions := monitor.compactions + 1 })

/-- A step after which a line about memory is due. -/
def isReportDue (monitor : Monitor) (step : Nat) : Bool :=
  decide (0 < monitor.telemetryEvery ∧ 0 < step ∧ step % monitor.telemetryEvery = 0)

/-- Reports the memory in use, if a report is due. -/
def report (monitor : Monitor) (step : Nat) (ctx : Context) : Monitor :=
  if monitor.isReportDue step then (monitor.sample ctx).2 else monitor

/-- What a monitor does after a step. -/
def afterStep (monitor : Monitor) (step : Nat) (ctx : Context) : Monitor :=
  (monitor.compact ctx).2.report step ctx

end Monitor

end Stepwise
